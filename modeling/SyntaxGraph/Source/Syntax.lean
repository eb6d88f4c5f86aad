import SyntaxGraph.Source.Token

namespace SyntaxGraph.Source

inductive Arguments where
  | absent
  | angled
  | parenthesized
  deriving DecidableEq, Repr

structure Segment where
  name : String
  arguments : Arguments := .absent
  deriving DecidableEq, Repr

structure Path where
  rooted : Bool := false
  segments : List Segment
  deriving DecidableEq, Repr

namespace Path

def text (p : Path) : String :=
  (if p.rooted then "::" else "") ++ "::".intercalate (p.segments.map Segment.name)

def lastName (p : Path) : String :=
  (p.segments.getLast?.map Segment.name).getD ""

def isPlain (p : Path) : Bool :=
  p.segments.all (·.arguments = .absent)

end Path

inductive TypeExpr where
  | path (qualified : Bool) (p : Path)
  | bounds (single : Bool)
  | other
  deriving DecidableEq, Repr

def TypeExpr.title : TypeExpr → String
  | path _ p => p.lastName
  | _ => "impl"

inductive ArithmeticOperator where
  | add | sub | mul | div | rem
  | bitXor | bitAnd | bitOr | shiftLeft | shiftRight
  deriving DecidableEq, Repr

inductive BooleanOperator where
  | and | or
  deriving DecidableEq, Repr

inductive ComparisonOperator where
  | eq | ne | lt | le | gt | ge
  deriving DecidableEq, Repr

inductive BinaryOperator where
  | arithmetic (op : ArithmeticOperator)
  | boolean (op : BooleanOperator)
  | comparison (op : ComparisonOperator)
  | augmented (op : ArithmeticOperator)
  deriving DecidableEq, Repr

inductive UnaryOperator where
  | not | negate | dereference | reference
  deriving DecidableEq, Repr

inductive UndrawnForm where
  | matching
  | constBlock
  | tryBlock
  | asyncBlock
  | structLiteral
  | cast
  | letCondition
  | question
  | repetition
  | placeholder
  | rawAddress
  | yield
  | verbatim
  deriving DecidableEq, Repr

inductive Pattern where
  | ident (name : String)
  | typed (inner : Pattern)
  | reference (inner : Pattern)
  | wild
  | tuple (items : List Pattern)
  | other
  deriving Repr

structure MacroCall where
  path : Path
  braced : Bool
  deriving DecidableEq, Repr

inductive UseTree where
  | path (name : String) (rest : UseTree)
  | name (name : String)
  | rename (name other : String)
  | glob
  | group
  deriving DecidableEq, Repr

inductive Parameter where
  | receiver
  | pattern (p : Pattern)
  deriving Repr

structure Signature where
  isAsync : Bool
  name : String
  parameters : List Parameter
  deriving Repr

mutual

inductive Expr where
  | literal (value : Literal)
  | bool (value : Bool)
  | path (p : Path)
  | paren (inner : Expr)
  | binary (op : BinaryOperator) (left right : Expr)
  | unary (op : UnaryOperator) (operand : Expr)
  | call (func : Expr) (args : List Expr)
  | methodCall (receiver : Expr) (method : String) (args : List Expr)
  | field (base : Expr) (member : String)
  | index (base place : Expr)
  | tuple (items : List Expr)
  | array (items : List Expr)
  | block (body : List Stmt)
  | unsafeBlock (body : List Stmt)
  | ifThen (test : Expr) (body : List Stmt) (otherwise : Option Expr)
  | whileLoop (test : Expr) (body : List Stmt)
  | forLoop (target : Pattern) (iter : Expr) (body : List Stmt)
  | loop (body : List Stmt)
  | returning (value : Option Expr)
  | breaking
  | continuing
  | assign (target value : Expr)
  | macroCall (call : MacroCall)
  | closure (parameters : List Pattern) (body : Expr)
  | range (lower upper : Option Expr)
  | awaiting (base : Expr)
  | undrawn (form : UndrawnForm)
  deriving Repr

inductive Stmt where
  | declaration (target : Pattern) (value : Option Expr)
  | item (item : Item)
  | expr (e : Expr)
  | macroCall (call : MacroCall)
  deriving Repr

inductive Item where
  | function (signature : Signature) (body : List Stmt)
  | structure (name : String) (fields : List String)
  | enumeration (name : String) (variants : List String)
  | implementation (ofTrait : Option Path) (self : TypeExpr) (methods : List Method)
  | module (name : String) (items : List Item)
  | binding (name : String) (value : Expr)
  | use (tree : UseTree)
  | macroCall (call : MacroCall)
  | other
  deriving Repr

inductive Method where
  | mk (signature : Signature) (body : List Stmt)
  deriving Repr

end

def Expr.isBlockLike : Expr → Bool
  | .ifThen .. | .block _ | .unsafeBlock _ | .whileLoop .. | .loop _ | .forLoop .. => true
  | .undrawn .matching | .undrawn .tryBlock | .undrawn .constBlock => true
  | _ => false

def Expr.needsSemicolon : Expr → Bool
  | .macroCall m => !m.braced
  | e => !e.isBlockLike

def Expr.isRange : Expr → Bool
  | .range .. => true
  | _ => false

def Expr.isComparison : Expr → Bool
  | .binary (.comparison _) .. => true
  | _ => false

end SyntaxGraph.Source
