import SyntaxGraph.Source.Kinds

/-!
The tree of a source text. A node is added behind all nodes below it, its operator leaf behind its
operands. What has no kind of its own becomes an `Unsupported` node that says what it is.
-/

namespace SyntaxGraph.Source

abbrev Draft := StateM Tree

namespace Draft

def add (kind : Kind) (fields : List (String × FieldValue) := []) : Draft NodeId := fun t =>
  (t.next, t.add ⟨kind, fields⟩)

def addName (name : String) : Draft NodeId :=
  add "Name" [("id", .scalar (.str name))]

def addUnsupported (what : String) : Draft NodeId :=
  add "Unsupported" [("syntax", .scalar (.str what))]

def addAssign (target value : NodeId) : Draft NodeId :=
  add "Assign" [("targets", .list [target]), ("value", .node value)]

def addClass (name : String) (body : List NodeId) : Draft NodeId :=
  add "ClassDef" [("name", .scalar (.str name)), ("body", .list body)]

def addCall (func : NodeId) (args : List NodeId) : Draft NodeId :=
  add "Call" [("func", .node func), ("args", .list args)]

def addAttribute (value : NodeId) (name : String) : Draft NodeId :=
  add "Attribute" [("value", .node value), ("attr", .scalar (.str name))]

def addMacro (m : MacroCall) : Draft NodeId :=
  add "Macro" [("name", .scalar (.str m.name))]

def addParameters (names : List String) : Draft NodeId := do
  let args ← names.mapM fun name => add "arg" [("arg", .scalar (.str name))]
  add "arguments" [("args", .list args)]

def addFunction (s : Signature) (body : Draft (List NodeId)) : Draft NodeId := do
  let parameters ← addParameters (s.parameters.map Parameter.name)
  let body ← body
  add (if s.isAsync then "AsyncFunctionDef" else "FunctionDef")
    [("name", .scalar (.str s.name)), ("args", .node parameters), ("body", .list body)]

def addLiteral (l : Literal) : Draft NodeId :=
  match l.scalar? with
  | some s => add "Constant" [("value", .scalar s)]
  | none => addUnsupported "literal"

def addBinary (op : BinaryOperator) (left right : NodeId) : Draft NodeId := do
  match op with
  | .arithmetic op =>
    let leaf ← add op.kind
    add "BinOp" [("left", .node left), ("op", .node leaf), ("right", .node right)]
  | .boolean op =>
    let leaf ← add op.kind
    add "BoolOp" [("op", .node leaf), ("values", .list [left, right])]
  | .comparison op =>
    let leaf ← add op.kind
    add "Compare" [("left", .node left), ("ops", .list [leaf]), ("comparators", .list [right])]
  | .augmented op =>
    let leaf ← add op.kind
    add "AugAssign" [("target", .node left), ("op", .node leaf), ("value", .node right)]

def addUnary (op : UnaryOperator) (operand : NodeId) : Draft NodeId := do
  let leaf ← add op.kind
  add "UnaryOp" [("op", .node leaf), ("operand", .node operand)]

end Draft

open Draft

mutual

def Pattern.draft : Pattern → Draft NodeId
  | .ident name => addName name
  | .typed inner => inner.draft
  | .reference inner => inner.draft
  | .wild => addName "_"
  | .tuple items => do add "Tuple" [("elts", .list (← draftPatterns items))]
  | .other => addUnsupported "pattern"

def draftPatterns : List Pattern → Draft (List NodeId)
  | [] => return []
  | p :: rest => return (← p.draft) :: (← draftPatterns rest)

end

def Expr.isStatement : Expr → Bool
  | .ifThen .. | .whileLoop .. | .forLoop .. | .loop _ => true
  | .returning _ | .breaking | .continuing | .assign .. => true
  | .binary (.augmented _) .. => true
  | _ => false

mutual

def Expr.draft : Expr → Draft NodeId
  | .literal l => addLiteral l
  | .bool b => add "Constant" [("value", .scalar (.bool b))]
  | .path p => addName p.text
  | .paren inner => inner.draft
  | .binary op left right => do
    let left ← left.draft
    let right ← right.draft
    addBinary op left right
  | .unary op operand => do addUnary op (← operand.draft)
  | .call func args => do
    let func ← func.draft
    let args ← draftExprs args
    addCall func args
  | .methodCall receiver method args => do
    let receiver ← receiver.draft
    let func ← addAttribute receiver method
    let args ← draftExprs args
    addCall func args
  | .field base member => do addAttribute (← base.draft) member
  | .index base place => do
    let value ← base.draft
    let slice ← place.draft
    add "Subscript" [("value", .node value), ("slice", .node slice)]
  | .tuple items => do add "Tuple" [("elts", .list (← draftExprs items))]
  | .array items => do add "List" [("elts", .list (← draftExprs items))]
  | .block body => do add "Block" [("body", .list (← draftStmts body))]
  | .unsafeBlock body => do add "Block" [("body", .list (← draftStmts body))]
  | .ifThen test body otherwise => do
    let test ← test.draft
    let body ← draftStmts body
    let orelse ← draftOtherwise otherwise
    add "If" [("test", .node test), ("body", .list body), ("orelse", .list orelse)]
  | .whileLoop test body => do
    let test ← test.draft
    let body ← draftStmts body
    add "While" [("test", .node test), ("body", .list body)]
  | .forLoop target iter body => do
    let target ← target.draft
    let iter ← iter.draft
    let body ← draftStmts body
    add "For" [("target", .node target), ("iter", .node iter), ("body", .list body)]
  | .loop body => do add "Loop" [("body", .list (← draftStmts body))]
  | .returning value => do
    let value ← draftOptional value
    add "Return" [("value", (value.map .node).getD (.scalar .absent))]
  | .breaking => add "Break"
  | .continuing => add "Continue"
  | .assign target value => do
    let target ← target.draft
    let value ← value.draft
    addAssign target value
  | .macroCall m => addMacro m
  | .closure parameters body => do
    let parameters ← addParameters (parameters.map Pattern.name)
    let body ← body.draft
    add "Lambda" [("args", .node parameters), ("body", .node body)]
  | .range lower upper => do
    let lower ← draftOptional lower
    let upper ← draftOptional upper
    add "Slice" (lower.toList.map (("lower", .node ·)) ++ upper.toList.map (("upper", .node ·)))
  | .awaiting base => do add "Await" [("value", .node (← base.draft))]
  | .undrawn _ => addUnsupported "expression"

def draftOptional : Option Expr → Draft (Option NodeId)
  | none => return none
  | some e => return some (← e.draft)

def draftOtherwise : Option Expr → Draft (List NodeId)
  | none => return []
  | some (.block body) => draftStmts body
  | some e => return [← e.draft]

def draftExprs : List Expr → Draft (List NodeId)
  | [] => return []
  | e :: rest => do
    let first ← e.draft
    let others ← draftExprs rest
    return first :: others

def Stmt.draft : Stmt → Draft NodeId
  | .declaration target value => do
    let target ← target.draft
    match ← draftOptional value with
    | some value => addAssign target value
    | none => add "AnnAssign" [("target", .node target)]
  | .item i => i.draft
  | .expr e => do
    let value ← e.draft
    if e.isStatement then return value else add "Expr" [("value", .node value)]
  | .macroCall m => addMacro m

def draftStmts : List Stmt → Draft (List NodeId)
  | [] => return []
  | s :: rest => do
    let first ← s.draft
    let others ← draftStmts rest
    return first :: others

def Item.draft : Item → Draft NodeId
  | .function s body => addFunction s (draftStmts body)
  | .structure name fields => do
    let body ← fields.mapM fun field => do
      add "AnnAssign" [("target", .node (← addName field))]
    addClass name body
  | .enumeration name variants => do addClass name (← variants.mapM addName)
  | .implementation ofTrait self methods => do
    addClass (implementationName ofTrait self) (← draftMethods methods)
  | .module name items => do
    let body ← draftItems items
    add "ModuleDef" [("name", .scalar (.str name)), ("body", .list body)]
  | .binding name value => do
    let target ← addName name
    let value ← value.draft
    addAssign target value
  | .use tree => add "Import" [("name", .scalar (.str tree.text))]
  | .macroCall m => addMacro m
  | .other => addUnsupported "item"

def draftItems : List Item → Draft (List NodeId)
  | [] => return []
  | i :: rest => do
    let first ← i.draft
    let others ← draftItems rest
    return first :: others

def Method.draft : Method → Draft NodeId
  | .mk s body => addFunction s (draftStmts body)

def draftMethods : List Method → Draft (List NodeId)
  | [] => return []
  | m :: rest => do
    let first ← m.draft
    let others ← draftMethods rest
    return first :: others

end

def treeOfItems (items : List Item) : Tree :=
  let module : Draft NodeId := do
    let body ← draftItems items
    add "Module" [("body", .list body)]
  let (root, t) := module.run .empty
  t.withRoot root

end SyntaxGraph.Source
