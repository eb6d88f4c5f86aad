import SyntaxGraph.Toml.Number
import SyntaxGraph.Toml.Text

namespace SyntaxGraph.Toml

open Text (Scan)
open Text.Scan

namespace Scan

def blanks : Scan Unit := do
  let _ ← takeWhile fun c => c = ' ' || c = '\t'

def comment : Scan Unit := do
  exactly "#"
  let _ ← takeWhile isPlain

def endOfText : Scan Unit := do
  match ← peek with
  | some _ => failure
  | none => return ()

def endOfLine : Scan Unit :=
  newline <|> endOfText

def restOfLine : Scan Unit := do
  blanks
  comment <|> return ()
  endOfLine

def gaps : Nat → Scan Unit
  | 0 => return ()
  | n + 1 => do
    blanks
    match ← peek with
    | some '#' =>
      comment
      newline
      gaps n
    | some '\n' | some '\r' =>
      newline
      gaps n
    | _ => return ()

def isBare (c : Char) : Bool :=
  c.isAlphanum || c = '_' || c = '-'

def name : Scan String := do
  if (← startsWith "\"") || (← startsWith "'") then lineText
  else
    let first ← nextIf isBare
    return String.ofList (first :: (← takeWhile isBare))

def moreNames : Nat → List String → Scan (List String)
  | 0, _ => failure
  | n + 1, found => do
    blanks
    if ← startsWith "." then
      take 1
      blanks
      moreNames n ((← name) :: found)
    else return found

def depthLimit : Nat := 79

def key : Scan Key := do
  blanks
  let first ← name
  let names ← moreNames (← limit) [first]
  match names with
  | last :: others => if names.length ≤ depthLimit then return ⟨others.reverse, last⟩ else failure
  | [] => failure

def keyword : Scan Value :=
  (do exactly "true"; return .boolean true)
    <|> (do exactly "false"; return .boolean false)

def simpleValue : Scan Value :=
  (.string <$> text)
    <|> (.datetime <$> datetime)
    <|> (.float <$> float)
    <|> (.integer <$> integer)
    <|> keyword

def items (item : Scan Value) : Nat → List Value → Scan (List Value)
  | 0, _ => failure
  | n + 1, found => do
    gaps (n + 1)
    if ← startsWith "]" then
      take 1
      return found.reverse
    else
      let found := (← item) :: found
      gaps (n + 1)
      if ← startsWith "," then
        take 1
        items item n found
      else
        exactly "]"
        return found.reverse

def entry (item : Scan Value) : Scan (Key × Value) := do
  let k ← key
  exactly "="
  blanks
  return (k, ← item)

def entries (item : Scan Value) : Nat → Entries → Scan Entries
  | 0, _ => failure
  | n + 1, found => do
    let (k, v) ← entry item
    let found ← liftM (found.assign k.path k.name v)
    blanks
    if ← startsWith "," then
      take 1
      entries item n found
    else
      exactly "\x7d"
      return found

def inlineTable (item : Scan Value) : Scan Entries := do
  blanks
  if ← startsWith "\x7d" then
    take 1
    return []
  else entries item (← limit) []

def valueWithin : Nat → Scan Value
  | 0 => simpleValue
  | n + 1 => do
    if ← startsWith "[" then
      take 1
      return .array (← items (valueWithin n) (← limit) [])
    else if ← startsWith "\x7b" then
      take 1
      return .table (valuesOf (← inlineTable (valueWithin n)))
    else simpleValue

def value : Scan Value :=
  valueWithin depthLimit

def header : Scan Line := do
  if ← startsWith "[[" then
    take 2
    let k ← key
    exactly "]]"
    return .element k
  else
    exactly "["
    let k ← key
    exactly "]"
    return .table k

def lines : Nat → List Line → Scan (List Line)
  | 0, _ => failure
  | n + 1, found => do
    blanks
    match ← peek with
    | none => return found.reverse
    | some '#' =>
      comment
      endOfLine
      lines n found
    | some '\n' | some '\r' =>
      newline
      lines n found
    | some '[' =>
      let line ← header
      restOfLine
      lines n (line :: found)
    | some _ =>
      let (k, v) ← entry value
      restOfLine
      lines n (.entry k v :: found)

def document : Scan (List Line) := do
  exactly "\ufeff" <|> return ()
  lines (← limit) []

end Scan

def read (text : String) : Option (List (String × Value)) := do
  let (lines, _) ← Scan.document.run { rest := text.toList }
  tableOfLines lines

end SyntaxGraph.Toml
