import SyntaxGraph.Graph.Document
import SyntaxGraph.Json.Reader
import SyntaxGraph.Text.Quoted

namespace SyntaxGraph.Json.Reader

variable {α σ : Type}

def found : Value → String
  | .null => "null"
  | .bool b => if b then "boolean `true`" else "boolean `false`"
  | .number (.natural n) => "integer `" ++ toString n.toNat ++ "`"
  | .number (.negative i) => "integer `" ++ toString i.toInt ++ "`"
  | .number (.float x) => "floating point `" ++ Decimal.Notation.report.float x ++ "`"
  | .string s => "string " ++ Text.quoted s
  | .array _ => "sequence"
  | .object _ => "map"

def mismatch (expected : String) : Char → Reader α
  | '[' => failUnplaced (.invalidType "sequence" expected)
  | '{' => failUnplaced (.invalidType "map" expected)
  | c => do failUnplaced (.invalidType (found (← atom c)) expected)

def expecting (expected : String) (accept : Char → Option (Reader α)) : Reader α := placed do
  match ← peekToken with
  | none => failNext .endInValue
  | some c => (accept c).getD (mismatch expected c)

def idOfNumber : Number → Reader UInt64
  | .natural n => return n
  | .negative i => failUnplaced (.invalidValue (found (.number (.negative i))) "usize")
  | .float x => failUnplaced (.invalidType (found (.number (.float x))) "usize")

def vertexId : Reader UInt64 :=
  expecting "usize" fun c =>
    if c = '-' || c.isDigit then some (do idOfNumber (← number)) else none

def text : Reader String :=
  expecting "a string" fun c => if c = '"' then some string else none

def optionalText : Reader (Option String) := do
  match ← peekToken with
  | some 'n' => word "null".toList; return none
  | _ => return some (← text)

def sequence (item : Reader α) : Reader (List α) :=
  expecting "a sequence" fun c => if c = '[' then some (list item) else none

def skipExponent : Reader Unit := do
  skip
  let _ ← sign
  match ← peek with
  | some c => if c.isDigit then let _ ← digitRun else failNext .invalidNumber
  | none => fail .invalidNumber

def skipScale : Reader Unit := do
  match ← peek with
  | some 'e' => skipExponent
  | some 'E' => skipExponent
  | _ => return ()

def skipUnsigned : Reader Unit := do
  match ← peek with
  | some '0' =>
    skip
    if let some c ← peek then
      if c.isDigit then failNext .invalidNumber
  | some c => if c.isDigit then let _ ← digitRun else failNext .invalidNumber
  | none => fail .invalidNumber
  match ← peek with
  | some '.' =>
    skip
    if (← digitRun).isEmpty then failNext .invalidNumber
    skipScale
  | _ => skipScale

def skipAtom : Char → Reader Unit
  | 'n' => word "null".toList
  | 't' => word "true".toList
  | 'f' => word "false".toList
  | '"' => skipString
  | '-' => do skip; skipUnsigned
  | c => if c.isDigit then skipUnsigned else failNext .expectedValue

inductive Enclosure where
  | list
  | object

def Enclosure.closing : Enclosure → Char
  | list => ']'
  | object => '}'

def Enclosure.expectedComma : Enclosure → Reason
  | list => .expectedListComma
  | object => .expectedObjectComma

def Enclosure.ended : Enclosure → Reason
  | list => .endInList
  | object => .endInObject

def Enclosure.skipKey : Enclosure → Reader Unit
  | list => return ()
  | object => do
    match ← peekToken with
    | some '"' => skipString
    | some _ => failNext .keyNotString
    | none => failNext .endInObject
    colon

inductive SkipState where
  | before
  | opened
  | behind

def skipWithin : Nat → SkipState → List Enclosure → Reader Unit
  | 0, _, _ => failNext .expectedValue
  | n + 1, .before, around => do
    match ← peekToken with
    | none => failNext .endInValue
    | some '[' => skip; skipWithin n .opened (.list :: around)
    | some '{' => skip; skipWithin n .opened (.object :: around)
    | some c => skipAtom c; skipWithin n .behind around
  | _ + 1, .opened, [] => return ()
  | n + 1, .opened, e :: around => do
    match ← peekToken with
    | none => failNext e.ended
    | some c =>
      if c = e.closing then skip; skipWithin n .behind around
      else e.skipKey; skipWithin n .before (e :: around)
  | _ + 1, .behind, [] => return ()
  | n + 1, .behind, e :: around => do
    match ← peekToken with
    | none => failNext e.ended
    | some c =>
      if c = e.closing then skip; skipWithin n .behind around
      else if c = ',' then skip; e.skipKey; skipWithin n .before (e :: around)
      else failNext e.expectedComma

def skipValue : Reader Unit := do
  skipWithin (2 * (← get).rest.length + 2) .before []

def onlyOnce (name : String) (seen : Bool) (item : Reader α) : Reader α := do
  if seen then failUnplaced (.duplicateField name)
  else
    colon
    item

def ignored : Reader Unit := do
  colon
  skipValue

def required (name : String) : Option α → Reader α
  | some a => return a
  | none => failUnplaced (.missingField name)

def nextField (first : Bool) (item : Reader α) : Reader (Option α) := do
  if ← moreItems first then return some (← item) else return none

def requiredField (index : Nat) (expected : String) (item : Reader α) : Reader α := do
  match ← nextField (index = 0) item with
  | some a => return a
  | none => failUnplaced (.invalidLength index expected)

def record (title : String) (fromList : Reader α) (start : σ) (step : σ → String → Reader σ)
    (finish : σ → Reader α) : Reader α :=
  let fromObject : Reader α := do
    finish (← foldMembers step (← get).rest.length true start)
  expecting ("struct " ++ title) fun c =>
    if c = '[' then some (inList fromList)
    else if c = '{' then some (inObject fromObject)
    else none

structure PartialVertex where
  id : Option UInt64 := none
  label : Option (Option String) := none
  color : Option (Option String) := none

def vertex : Reader DocumentVertex :=
  let fromList : Reader DocumentVertex := do
    let id ← requiredField 0 "struct NodeDto with 3 elements" vertexId
    let label ← nextField false optionalText
    let color ← nextField false optionalText
    return ⟨id, label.join, color.join⟩
  let step := fun (v : PartialVertex) key => do
    match key with
    | "id" => return { v with id := some (← onlyOnce key v.id.isSome vertexId) }
    | "label" => return { v with label := some (← onlyOnce key v.label.isSome optionalText) }
    | "color" => return { v with color := some (← onlyOnce key v.color.isSome optionalText) }
    | _ => ignored; return v
  let finish := fun (v : PartialVertex) => do
    return ⟨← required "id" v.id, v.label.join, v.color.join⟩
  record "NodeDto" fromList {} step finish

structure PartialEdge where
  tail : Option UInt64 := none
  head : Option UInt64 := none
  label : Option (Option String) := none

def edge : Reader DocumentEdge :=
  let fromList : Reader DocumentEdge := do
    let tail ← requiredField 0 "struct EdgeDto with 3 elements" vertexId
    let head ← requiredField 1 "struct EdgeDto with 3 elements" vertexId
    let label ← nextField false optionalText
    return ⟨tail, head, label.join⟩
  let step := fun (e : PartialEdge) key => do
    match key with
    | "from" => return { e with tail := some (← onlyOnce key e.tail.isSome vertexId) }
    | "to" => return { e with head := some (← onlyOnce key e.head.isSome vertexId) }
    | "label" => return { e with label := some (← onlyOnce key e.label.isSome optionalText) }
    | _ => ignored; return e
  let finish := fun (e : PartialEdge) => do
    return ⟨← required "from" e.tail, ← required "to" e.head, e.label.join⟩
  record "EdgeDto" fromList {} step finish

structure PartialDocument where
  vertices : Option (List DocumentVertex) := none
  edges : Option (List DocumentEdge) := none

def document : Reader GraphDocument :=
  let fromList : Reader GraphDocument := do
    let vertices ← requiredField 0 "struct GraphDto with 2 elements" (sequence vertex)
    let edges ← requiredField 1 "struct GraphDto with 2 elements" (sequence edge)
    return ⟨vertices, edges⟩
  let step := fun (d : PartialDocument) key => do
    match key with
    | "nodes" => return { d with vertices := some (← onlyOnce key d.vertices.isSome (sequence vertex)) }
    | "edges" => return { d with edges := some (← onlyOnce key d.edges.isSome (sequence edge)) }
    | _ => ignored; return d
  let finish := fun (d : PartialDocument) => do
    return ⟨← required "nodes" d.vertices, ← required "edges" d.edges⟩
  record "GraphDto" fromList {} step finish

end SyntaxGraph.Json.Reader

namespace SyntaxGraph

def GraphDocument.read (text : String) : Except Json.ReadError GraphDocument :=
  Json.Reader.document.run text

end SyntaxGraph
