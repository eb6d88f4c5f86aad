import SyntaxGraph.Json.Reader
import SyntaxGraph.Tree.Basic

/-!
Trees spelled out in JSON. A node is an object with a `kind` and, under `fields`, its fields in order:
an object is a child, a list holds children, and anything else is a primitive. What is not an object
in a list is left out, and other members of a node's object say nothing.
-/

namespace SyntaxGraph

inductive DocumentStep where
  | field (name : String)
  | item (index : Nat)
  deriving DecidableEq, Repr

def DocumentStep.text : DocumentStep → String
  | field name => "." ++ name
  | item index => "[" ++ toString index ++ "]"

inductive Flaw where
  | notAnObject
  | noKind
  | fieldsNotAnObject
  deriving DecidableEq, Repr

def Flaw.text : Flaw → String
  | notAnObject => "expected a node object"
  | noKind => "missing string `kind`"
  | fieldsNotAnObject => "`fields` must be an object"

structure MisshapenTree where
  path : List DocumentStep
  flaw : Flaw
  deriving DecidableEq, Repr

def MisshapenTree.message (e : MisshapenTree) : String :=
  "$" ++ String.join (e.path.map DocumentStep.text) ++ ": " ++ e.flaw.text

abbrev TreeBuilder := StateT Tree (Except MisshapenTree)

namespace TreeBuilder

def add (n : Node) : TreeBuilder NodeId := fun t =>
  .ok (t.next, t.add n)

end TreeBuilder

namespace Json

def Number.scalar : Number → Scalar
  | natural n => .ofUInt64 n
  | negative i => .int i
  | float x => .float x

def kind? (members : List (String × Value)) : Option Kind :=
  match members.lookup "kind" with
  | some (.string kind) => some kind
  | _ => none

/-- Adds the node of an object; its kind is settled before its fields are looked at. -/
def addMembers (path : List DocumentStep) (members : List (String × Value))
    (fields : TreeBuilder (List (String × FieldValue))) : TreeBuilder NodeId :=
  match kind? members with
  | none => throw ⟨path, .noKind⟩
  | some kind => do TreeBuilder.add ⟨kind, ← fields⟩

mutual

def Value.addNode (path : List DocumentStep) : Value → TreeBuilder NodeId
  | .object members => addMembers path members (addFieldsMember path members)
  | _ => throw ⟨path, .notAnObject⟩

def addFieldsMember (path : List DocumentStep) :
    List (String × Value) → TreeBuilder (List (String × FieldValue))
  | [] => return []
  | (name, v) :: rest =>
    if name = "fields" then v.addFields path else addFieldsMember path rest

def Value.addFields (path : List DocumentStep) :
    Value → TreeBuilder (List (String × FieldValue))
  | .null => return []
  | .object fields => addEach path fields
  | _ => throw ⟨path, .fieldsNotAnObject⟩

def addEach (path : List DocumentStep) :
    List (String × Value) → TreeBuilder (List (String × FieldValue))
  | [] => return []
  | (name, v) :: rest => do
    let value ← v.addField (path ++ [.field name])
    let others ← addEach path rest
    return (name, value) :: others

def Value.addField (path : List DocumentStep) : Value → TreeBuilder FieldValue
  | .null => return .scalar .absent
  | .bool b => return .scalar (.bool b)
  | .number n => return .scalar n.scalar
  | .string s => return .scalar (.str s)
  | .object members => return .node (← addMembers path members (addFieldsMember path members))
  | .array items => return .list (← addItems path 0 items)

def addItems (path : List DocumentStep) (index : Nat) : List Value → TreeBuilder (List NodeId)
  | [] => return []
  | v :: rest => do
    if v.isObject then
      let child ← v.addNode (path ++ [.item index])
      let others ← addItems path (index + 1) rest
      return child :: others
    else addItems path (index + 1) rest

end

def Value.toTree (v : Value) : Except MisshapenTree Tree := do
  let (root, t) ← (v.addNode []).run .empty
  return t.withRoot root

end Json

inductive DocumentError where
  | malformed (error : Json.ReadError)
  | misshapen (error : MisshapenTree)
  deriving DecidableEq, Repr

def Tree.ofDocument (text : String) : Except DocumentError Tree :=
  match Json.read text with
  | .error e => .error (.malformed e)
  | .ok v => v.toTree.mapError .misshapen

end SyntaxGraph
