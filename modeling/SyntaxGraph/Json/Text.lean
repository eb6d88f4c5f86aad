import SyntaxGraph.Json.Cursor
import SyntaxGraph.Text.Digit

namespace SyntaxGraph.Json

open Text (hexValue?)

def simpleEscape? : Char → Option Char
  | '"' => some '"'
  | '\\' => some '\\'
  | '/' => some '/'
  | 'b' => some '\x08'
  | 'f' => some '\x0c'
  | 'n' => some '\n'
  | 'r' => some '\r'
  | 't' => some '\t'
  | _ => none

def isLeadingSurrogate (n : Nat) : Bool :=
  0xd800 ≤ n && n ≤ 0xdbff

def isTrailingSurrogate (n : Nat) : Bool :=
  0xdc00 ≤ n && n ≤ 0xdfff

def isPlain (c : Char) : Bool :=
  c ≠ '"' && c ≠ '\\' && ' ' ≤ c

namespace Reader

def fourDigits : Reader Nat := do
  let s ← get
  let next := s.rest.take 4
  match next.mapM hexValue? with
  | some [a, b, c, d] =>
    set (Cursor.mk (s.rest.drop 4) (next.foldl Place.char s.place))
    return ((a * 16 + b) * 16 + c) * 16 + d
  | _ =>
    if next.foldl (· + ·.utf8Size) 0 < 4 then
      set (Cursor.mk [] (s.rest.foldl Place.char s.place))
      fail .endInString
    else throw ⟨.invalidEscape, some (s.place.bytes s.rest 4)⟩

def expectInEscape (c : Char) : Reader Unit := do
  match ← peek with
  | none => fail .endInString
  | some d => if d = c then skip else failNext .endOfEscape

def codePoint : Reader Char := do
  let n ← fourDigits
  if isTrailingSurrogate n then fail .loneSurrogate
  else if isLeadingSurrogate n then
    expectInEscape '\\'
    expectInEscape 'u'
    let m ← fourDigits
    if isTrailingSurrogate m then
      return Char.ofNat (0x10000 + (n - 0xd800) * 0x400 + (m - 0xdc00))
    else fail .loneSurrogate
  else return Char.ofNat n

def escaped : Reader Char := do
  match ← peek with
  | none => fail .endInString
  | some 'u' => skip; codePoint
  | some c =>
    match simpleEscape? c with
    | some d => skip; return d
    | none => failNext .invalidEscape

def stringRest : Nat → String → Reader String
  | 0, _ => fail .endInString
  | n + 1, before => do
    let text := before ++ String.ofList (← takeWhile isPlain)
    match ← peek with
    | none => fail .endInString
    | some '"' => skip; return text
    | some '\\' =>
      skip
      let c ← escaped
      stringRest n (text.push c)
    | some _ => failNext .controlCharacter

def string : Reader String := do
  skip
  stringRest ((← get).rest.length + 1) ""

def skipEscape : Reader Unit := do
  match ← peek with
  | none => fail .endInString
  | some 'u' =>
    skip
    let _ ← fourDigits
  | some c => if (simpleEscape? c).isSome then skip else failNext .invalidEscape

def skipStringRest : Nat → Reader Unit
  | 0 => fail .endInString
  | n + 1 => do
    let _ ← takeWhile isPlain
    match ← peek with
    | none => fail .endInString
    | some '"' => skip
    | some '\\' =>
      skip
      skipEscape
      skipStringRest n
    | some _ => fail .controlCharacter

def skipString : Reader Unit := do
  skip
  skipStringRest ((← get).rest.length + 1)

end Reader

def hexDigit (n : Nat) : Char :=
  Nat.digitChar n

def escapeChar : Char → List Char
  | '"' => ['\\', '"']
  | '\\' => ['\\', '\\']
  | '\x08' => ['\\', 'b']
  | '\x0c' => ['\\', 'f']
  | '\n' => ['\\', 'n']
  | '\r' => ['\\', 'r']
  | '\t' => ['\\', 't']
  | c =>
    if c < ' ' then ['\\', 'u', '0', '0', hexDigit (c.toNat / 16), hexDigit (c.toNat % 16)]
    else [c]

def writeString (s : String) : String :=
  "\"" ++ String.ofList (s.toList.flatMap escapeChar) ++ "\""

end SyntaxGraph.Json
