import SyntaxGraph.Source.Scan
import SyntaxGraph.Text.Digit

namespace SyntaxGraph.Source

open Text (Scan hexValue? isIdentifierStart isIdentifierContinue)
open Text.Scan

inductive Quotation where
  | text
  | bytes
  | zeroEnded
  deriving DecidableEq, Repr

namespace Quotation

def admits : Quotation → Char → Bool
  | text, _ => true
  | bytes, c => c.toNat < 0x80
  | zeroEnded, c => c ≠ '\x00'

def admitsByte : Quotation → Nat → Bool
  | text, n => n < 0x80
  | bytes, _ => true
  | zeroEnded, n => n ≠ 0

end Quotation

namespace Scan

def word : Scan (List Char) := do
  let c ← nextIf isIdentifierStart
  return c :: (← takeWhile isIdentifierContinue)

def literalSuffix : Scan (List Char) :=
  word <|> return []

def hexByte : Scan Nat := do
  match hexValue? (← next), hexValue? (← next) with
  | some a, some b => return a * 16 + b
  | _, _ => failure

def codePointDigits : Nat → Nat → Nat → Scan Nat
  | 0, _, _ => failure
  | n + 1, digits, value => do
    let c ← next
    match hexValue? c with
    | some d => if digits = 6 then failure else codePointDigits n (digits + 1) (value * 16 + d)
    | none =>
      if digits = 0 then failure
      else if c = '_' then codePointDigits n digits value
      else if c = '}' then return value
      else failure

def codePoint (n : Nat) : Scan Nat := do
  exactly "\x7b"
  let value ← codePointDigits n 0 0
  if value.isValidChar then return value else failure

def brokenLine : Nat → Char → Scan Unit
  | 0, _ => failure
  | n + 1, last => do
    if last = '\r' then exactly "\n"
    match ← peek with
    | none => failure
    | some c =>
      if c = ' ' || c = '\t' || c = '\n' || c = '\r' then
        take 1
        brokenLine n c

def escape (n : Nat) (q : Quotation) : Scan Nat := do
  match ← next with
  | 'n' => return '\n'.toNat
  | 'r' => return '\r'.toNat
  | 't' => return '\t'.toNat
  | '\\' => return '\\'.toNat
  | '\'' => return '\''.toNat
  | '"' => return '"'.toNat
  | '0' => if q = .zeroEnded then failure else return 0
  | 'x' =>
    let code ← hexByte
    if q.admitsByte code then return code else failure
  | 'u' =>
    if q = .bytes then failure
    let code ← codePoint n
    if q = .zeroEnded && code = 0 then failure else return code
  | _ => failure

def quotedRest (q : Quotation) : Nat → List Nat → Scan (List Nat)
  | 0, _ => failure
  | n + 1, codes => do
    match ← next with
    | '"' => return codes.reverse
    | '\r' =>
      exactly "\n"
      quotedRest q n ('\n'.toNat :: codes)
    | '\\' =>
      match ← peek with
      | some '\n' =>
        take 1
        brokenLine n '\n'
        quotedRest q n codes
      | some '\r' =>
        take 1
        brokenLine n '\r'
        quotedRest q n codes
      | _ => quotedRest q n ((← escape n q) :: codes)
    | c => if q.admits c then quotedRest q n (c.toNat :: codes) else failure

def rawRest (q : Quotation) (closing : String) : Nat → List Nat → Scan (List Nat)
  | 0, _ => failure
  | n + 1, codes => do
    if ← startsWith closing then
      take closing.length
      return codes.reverse
    else
      let c ← next
      if c = '\r' && !(← startsWith "\n") then failure
      if q.admits c then rawRest q closing n (c.toNat :: codes) else failure

def rawQuoted (n : Nat) (q : Quotation) : Scan (List Nat) := do
  let signs ← takeWhile (· = '#')
  if 255 < signs.length then failure
  exactly "\""
  rawRest q ("\"" ++ String.ofList signs) n []

def quotation (n : Nat) (letters : String) (q : Quotation) : Scan (List Nat) := do
  exactly letters
  let codes ← (do exactly "\""; quotedRest q n []) <|> (do exactly "r"; rawQuoted n q)
  let _ ← literalSuffix
  return codes

def singleCode (n : Nat) (q : Quotation) : Scan Nat := do
  let c ← next
  let code ← if c = '\\' then escape n q else pure c.toNat
  if !(q = .text) && !(c.toNat < 0x80) then failure
  exactly "'"
  let _ ← literalSuffix
  return code

end Scan

def exponentLength : (signed valued : Bool) → List Char → Option Nat
  | _, valued, [] => if valued then some 0 else none
  | signed, valued, c :: rest =>
    if c = '+' ∨ c = '-' then
      if valued then some 0
      else if signed then none
      else (exponentLength true valued rest).map (· + 1)
    else if c.isDigit then (exponentLength signed true rest).map (· + 1)
    else if c = '_' then (exponentLength signed valued rest).map (· + 1)
    else if valued then some 0 else none

def isDecimal (c : Char) : Bool :=
  c.isDigit || c = '_'

def isExponentSign (c : Char) : Bool :=
  c = 'e' || c = 'E'

/-- The length of a number with a point or an exponent, its suffix aside. A point that another point
or a name follows is not part of a number, and an exponent without digits is a suffix. -/
def floatLength? (text : List Char) : Option Nat :=
  if !text.head?.any Char.isDigit then none
  else
    let whole := (text.takeWhile isDecimal).length
    match text.drop whole with
    | '.' :: rest =>
      if rest.head?.any fun c => c = '.' || isIdentifierStart c then none
      else
        let fraction := (rest.takeWhile isDecimal).length
        let mantissa := whole + 1 + fraction
        match rest.drop fraction with
        | e :: after =>
          if isExponentSign e then
            match exponentLength false false after with
            | some n => some (mantissa + 1 + n)
            | none => some mantissa
          else some mantissa
        | [] => some mantissa
    | e :: after =>
      if isExponentSign e then (exponentLength false false after).map (whole + 1 + ·) else none
    | [] => none

def baseOf : List Char → Nat × Nat
  | '0' :: 'x' :: _ => (16, 2)
  | '0' :: 'o' :: _ => (8, 2)
  | '0' :: 'b' :: _ => (2, 2)
  | _ => (10, 0)

def wholeDigits (base : Nat) : (length : Nat) → Option Nat → List Char → Option (Nat × Nat)
  | n, value, [] => value.map (n, ·)
  | n, value, c :: rest =>
    if c = '_' then
      if base = 10 && value.isNone then none else wholeDigits base (n + 1) value rest
    else
      match hexValue? c with
      | none => value.map (n, ·)
      | some d =>
        if d < base then wholeDigits base (n + 1) (some (value.getD 0 * base + d)) rest
        else if c.isDigit then none
        else value.map (n, ·)

namespace Scan

def endOfWord : Scan Unit := do
  match ← peek with
  | some c => if isIdentifierContinue c then failure
  | none => return ()

def float : Scan Literal := do
  let text := (← get).rest
  match floatLength? text with
  | none => failure
  | some n =>
    take n
    let suffix ← literalSuffix
    endOfWord
    return .float (String.ofList (text.take n)) (String.ofList suffix)

def integer : Scan Literal := do
  let text := (← get).rest
  let (base, sign) := baseOf text
  match wholeDigits base 0 none (text.drop sign) with
  | none => failure
  | some (n, value) =>
    take (sign + n)
    let suffix ← literalSuffix
    endOfWord
    return .integer value (String.ofList suffix)

def textOf (codes : List Nat) : String :=
  String.ofList (codes.map Char.ofNat)

def literal (n : Nat) : Scan Literal :=
  (return .text (textOf (← quotation n "" .text)))
    <|> (return .bytes (← quotation n "b" .bytes))
    <|> (do let _ ← quotation n "c" .zeroEnded; return .other)
    <|> (do exactly "b'"; return .byte (← singleCode n .bytes))
    <|> (do exactly "'"; return .character (Char.ofNat (← singleCode n .text)))
    <|> float
    <|> integer

end Scan

end SyntaxGraph.Source
