import SyntaxGraph.Decimal.Notation
import SyntaxGraph.Json.Text
import SyntaxGraph.Json.Value

namespace SyntaxGraph.Json

def Number.write : Number → String
  | natural n => toString n.toNat
  | negative i => toString i.toInt
  | float x =>
    match Decimal.magnitude x with
    | .finite _ => Decimal.Notation.report.float x
    | _ => "null"

mutual

def Value.compact : Value → String
  | .null => "null"
  | .bool b => if b then "true" else "false"
  | .number n => n.write
  | .string s => writeString s
  | .array items => "[" ++ ",".intercalate (compactItems items) ++ "]"
  | .object members => "\x7b" ++ ",".intercalate (compactMembers members) ++ "\x7d"

def compactItems : List Value → List String
  | [] => []
  | v :: rest => v.compact :: compactItems rest

def compactMembers : List (String × Value) → List String
  | [] => []
  | (name, v) :: rest => (writeString name ++ ":" ++ v.compact) :: compactMembers rest

end

def block (indent opening closing : String) : List String → String
  | [] => opening ++ closing
  | parts =>
    opening ++ "\n" ++ ",\n".intercalate (parts.map (indent ++ "  " ++ ·))
      ++ "\n" ++ indent ++ closing

mutual

def Value.prettyAt (indent : String) : Value → String
  | .array items => block indent "[" "]" (prettyItems (indent ++ "  ") items)
  | .object members => block indent "\x7b" "\x7d" (prettyMembers (indent ++ "  ") members)
  | v => v.compact

def prettyItems (indent : String) : List Value → List String
  | [] => []
  | v :: rest => v.prettyAt indent :: prettyItems indent rest

def prettyMembers (indent : String) : List (String × Value) → List String
  | [] => []
  | (name, v) :: rest =>
    (writeString name ++ ": " ++ v.prettyAt indent) :: prettyMembers indent rest

end

def Value.pretty (v : Value) : String :=
  v.prettyAt ""

end SyntaxGraph.Json
