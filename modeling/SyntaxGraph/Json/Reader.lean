import SyntaxGraph.Entries
import SyntaxGraph.Json.Number
import SyntaxGraph.Json.Text

namespace SyntaxGraph.Json

def depthLimit : Nat := 127

namespace Reader

variable {α σ : Type}

def word : List Char → Reader Unit
  | [] => return ()
  | c :: rest => do
    match ← peek with
    | none => fail .endInValue
    | some d => if d = c then skip; word rest else failNext .expectedWord

def moreItems (first : Bool) : Reader Bool := do
  match ← peekToken with
  | none => failNext .endInList
  | some ']' => return false
  | some c =>
    if first then return true
    else if c = ',' then
      skip
      match ← peekToken with
      | some ']' => failNext .trailingComma
      | some _ => return true
      | none => failNext .endInValue
    else failNext .expectedListComma

def moreMembers (first : Bool) : Reader Bool := do
  match ← peekToken with
  | none => failNext .endInObject
  | some '}' => return false
  | some c =>
    if first then if c = '"' then return true else failNext .keyNotString
    else if c = ',' then
      skip
      match ← peekToken with
      | some '"' => return true
      | some '}' => failNext .trailingComma
      | some _ => failNext .keyNotString
      | none => failNext .endInValue
    else failNext .expectedObjectComma

def colon : Reader Unit := do
  match ← peekToken with
  | some ':' => skip
  | some _ => failNext .expectedColon
  | none => failNext .endInObject

def closeList : Reader Unit := do
  match ← peekToken with
  | some ']' => skip
  | some ',' =>
    skip
    match ← peekToken with
    | some ']' => failNext .trailingComma
    | _ => failNext .trailingCharacters
  | some _ => failNext .trailingCharacters
  | none => failNext .endInList

def closeObject : Reader Unit := do
  match ← peekToken with
  | some '}' => skip
  | some ',' => failNext .trailingComma
  | some _ => failNext .trailingCharacters
  | none => failNext .endInObject

def foldItems (step : σ → Reader σ) : Nat → Bool → σ → Reader σ
  | 0, _, s => return s
  | n + 1, first, s => do
    if ← moreItems first then
      let s ← step s
      foldItems step n false s
    else return s

def foldMembers (step : σ → String → Reader σ) : Nat → Bool → σ → Reader σ
  | 0, _, s => return s
  | n + 1, first, s => do
    if ← moreMembers first then
      let key ← string
      let s ← step s key
      foldMembers step n false s
    else return s

def inList (body : Reader α) : Reader α :=
  (do skip; body).closedBy closeList

def inObject (body : Reader α) : Reader α :=
  (do skip; body).closedBy closeObject

def list (item : Reader α) : Reader (List α) := do
  let bound := (← get).rest.length
  let step := fun (items : List α) => return (← item) :: items
  let items ← inList (foldItems step bound true [])
  return items.reverse

def object (item : Reader α) : Reader (List (String × α)) := do
  let bound := (← get).rest.length
  let step := fun members key => do
    colon
    return insertEntry key (← item) members
  inObject (foldMembers step bound true [])

def atom (c : Char) : Reader Value := do
  match c with
  | 'n' => word "null".toList; return .null
  | 't' => word "true".toList; return .bool true
  | 'f' => word "false".toList; return .bool false
  | '"' => return .string (← string)
  | _ => if c = '-' || c.isDigit then return .number (← number) else failNext .expectedValue

def valueWith (list object : Reader Value) : Reader Value := do
  match ← peekToken with
  | none => failNext .endInValue
  | some '[' => list
  | some '{' => object
  | some c => atom c

def value : Nat → Reader Value
  | 0 => valueWith (failNext .tooDeep) (failNext .tooDeep)
  | depth + 1 =>
    valueWith (return .array (← list (value depth))) (return .object (← object (value depth)))

end Reader

def read (text : String) : Except ReadError Value :=
  (Reader.value depthLimit).run text

end SyntaxGraph.Json
