import SyntaxGraph.Text.Digit
import SyntaxGraph.Text.Scan

namespace SyntaxGraph.Toml

open Text (Scan hexValue?)
open Text.Scan

def isPlain (c : Char) : Bool :=
  c = '\t' || (' ' ≤ c && c ≠ '\x7f')

namespace Scan

def newline : Scan Unit :=
  exactly "\n" <|> exactly "\r\n"

def tryNewline : Scan Bool :=
  (do newline; return true) <|> return false

def codePoint : Nat → Nat → Scan Char
  | 0, value => if value.isValidChar then return Char.ofNat value else failure
  | n + 1, value => do
    match hexValue? (← next) with
    | some d => codePoint n (value * 16 + d)
    | none => failure

def escape : Scan Char := do
  match ← next with
  | 'b' => return '\x08'
  | 't' => return '\t'
  | 'n' => return '\n'
  | 'f' => return '\x0c'
  | 'r' => return '\r'
  | '"' => return '"'
  | '\\' => return '\\'
  | 'u' => codePoint 4 0
  | 'U' => codePoint 8 0
  | _ => failure

def quotedRest : Nat → List Char → Scan String
  | 0, _ => failure
  | n + 1, text => do
    match ← next with
    | '"' => return String.ofList text.reverse
    | '\\' => quotedRest n ((← escape) :: text)
    | c => if isPlain c then quotedRest n (c :: text) else failure

def literalRest : Nat → List Char → Scan String
  | 0, _ => failure
  | n + 1, text => do
    match ← next with
    | '\'' => return String.ofList text.reverse
    | c => if isPlain c then literalRest n (c :: text) else failure

def space : Nat → Scan Unit
  | 0 => return ()
  | n + 1 => do
    let blanks ← takeWhile fun c => c = ' ' || c = '\t'
    let broken ← tryNewline
    if broken || !blanks.isEmpty then space n

def brokenLine (n : Nat) : Scan Unit := do
  let _ ← takeWhile fun c => c = ' ' || c = '\t'
  newline
  space n

def closing (mark : Char) (text : List Char) : Scan String := do
  let marks ← takeWhile (· = mark)
  if 5 < marks.length then failure
  return String.ofList (text.reverse ++ marks.drop 3)

def multilineQuotedRest : Nat → List Char → Scan String
  | 0, _ => failure
  | n + 1, text => do
    if ← startsWith "\"\"\"" then closing '"' text
    else if ← tryNewline then multilineQuotedRest n ('\n' :: text)
    else
      match ← next with
      | '\\' =>
        let broken ← (do brokenLine n; return true) <|> return false
        if broken then multilineQuotedRest n text
        else multilineQuotedRest n ((← escape) :: text)
      | c => if isPlain c then multilineQuotedRest n (c :: text) else failure

def multilineLiteralRest : Nat → List Char → Scan String
  | 0, _ => failure
  | n + 1, text => do
    if ← startsWith "'''" then closing '\'' text
    else if ← tryNewline then multilineLiteralRest n ('\n' :: text)
    else
      let c ← next
      if isPlain c then multilineLiteralRest n (c :: text) else failure

def limit : Scan Nat := do
  return (← get).rest.length + 1

def lineText : Scan String := do
  let n ← limit
  match ← next with
  | '"' => quotedRest n []
  | '\'' => literalRest n []
  | _ => failure

def multilineText : Scan String := do
  let n ← limit
  if ← startsWith "\"\"\"" then
    take 3
    let _ ← tryNewline
    multilineQuotedRest n []
  else
    exactly "'''"
    let _ ← tryNewline
    multilineLiteralRest n []

def text : Scan String := do
  if (← startsWith "\"\"\"") || (← startsWith "'''") then multilineText else lineText

end Scan

end SyntaxGraph.Toml
