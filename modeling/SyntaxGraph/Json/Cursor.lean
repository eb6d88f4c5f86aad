/-!
Reading a JSON text character by character. A reader answers with a value or with a fault, and in
both cases leaves the cursor where it stopped: what follows a fault may still decide the place at
which the fault is reported.
-/

namespace SyntaxGraph.Json

structure Place where
  line : Nat := 1
  column : Nat := 0
  deriving DecidableEq, Repr

def Place.byte (p : Place) (newline : Bool) : Place :=
  if newline then ⟨p.line + 1, 0⟩ else { p with column := p.column + 1 }

def Place.char (p : Place) (c : Char) : Place :=
  if c = '\n' then p.byte true else { p with column := p.column + c.utf8Size }

def Place.bytes (p : Place) : List Char → Nat → Place
  | [], _ => p
  | c :: rest, n =>
    if c.utf8Size ≤ n then (p.char c).bytes rest (n - c.utf8Size)
    else { p with column := p.column + n }

structure Cursor where
  rest : List Char
  place : Place := {}

inductive Reason where
  | endInList | endInObject | endInString | endInValue
  | expectedColon | expectedListComma | expectedObjectComma | expectedWord | expectedValue
  | invalidEscape | invalidNumber | numberOutOfRange
  | controlCharacter | keyNotString | loneSurrogate | endOfEscape
  | trailingComma | trailingCharacters | tooDeep
  | missingField (name : String)
  | duplicateField (name : String)
  | invalidType (found expected : String)
  | invalidValue (found expected : String)
  | invalidLength (found : Nat) (expected : String)
  deriving DecidableEq, Repr

def Reason.text : Reason → String
  | endInList => "EOF while parsing a list"
  | endInObject => "EOF while parsing an object"
  | endInString => "EOF while parsing a string"
  | endInValue => "EOF while parsing a value"
  | expectedColon => "expected `:`"
  | expectedListComma => "expected `,` or `]`"
  | expectedObjectComma => "expected `,` or `\x7d`"
  | expectedWord => "expected ident"
  | expectedValue => "expected value"
  | invalidEscape => "invalid escape"
  | invalidNumber => "invalid number"
  | numberOutOfRange => "number out of range"
  | controlCharacter => "control character (\\u0000-\\u001F) found while parsing a string"
  | keyNotString => "key must be a string"
  | loneSurrogate => "lone leading surrogate in hex escape"
  | endOfEscape => "unexpected end of hex escape"
  | trailingComma => "trailing comma"
  | trailingCharacters => "trailing characters"
  | tooDeep => "recursion limit exceeded"
  | missingField name => "missing field `" ++ name ++ "`"
  | duplicateField name => "duplicate field `" ++ name ++ "`"
  | invalidType found expected => "invalid type: " ++ found ++ ", expected " ++ expected
  | invalidValue found expected => "invalid value: " ++ found ++ ", expected " ++ expected
  | invalidLength found expected =>
    "invalid length " ++ toString found ++ ", expected " ++ expected

/-- A fault without a place gets one when the value around it has been left. -/
structure Fault where
  reason : Reason
  place : Option Place

structure ReadError where
  reason : Reason
  place : Place
  deriving DecidableEq, Repr

def ReadError.message (e : ReadError) : String :=
  e.reason.text ++ " at line " ++ toString e.place.line ++ " column " ++ toString e.place.column

abbrev Reader := EStateM Fault Cursor

namespace Reader

variable {α : Type}

def fail (r : Reason) : Reader α := do
  throw ⟨r, some (← get).place⟩

def failNext (r : Reason) : Reader α := do
  let s ← get
  match s.rest with
  | [] => throw ⟨r, some s.place⟩
  | c :: _ => throw ⟨r, some (s.place.byte (c = '\n'))⟩

def failUnplaced (r : Reason) : Reader α :=
  throw ⟨r, none⟩

def peek : Reader (Option Char) :=
  return (← get).rest.head?

def skip : Reader Unit :=
  modify fun s => match s.rest with
    | [] => s
    | c :: rest => ⟨rest, s.place.char c⟩

def takeWhile (test : Char → Bool) : Reader (List Char) := do
  let s ← get
  let taken := s.rest.takeWhile test
  set (Cursor.mk (s.rest.dropWhile test) (taken.foldl Place.char s.place))
  return taken

def isBlank (c : Char) : Bool :=
  c = ' ' || c = '\n' || c = '\t' || c = '\r'

def peekToken : Reader (Option Char) := do
  let _ ← takeWhile isBlank
  peek

def placed (r : Reader α) : Reader α := fun s =>
  match r s with
  | .error ⟨reason, none⟩ s => .error ⟨reason, some s.place⟩ s
  | result => result

def closedBy (r : Reader α) (closing : Reader Unit) : Reader α := fun s =>
  match r s with
  | .ok a s =>
    match closing s with
    | .ok () s => .ok a s
    | .error e s => .error e s
  | .error e s =>
    match closing s with
    | .ok () s => .error e s
    | .error _ s => .error e s

def run (r : Reader α) (text : String) : Except ReadError α :=
  let whole : Reader α := do
    let a ← r
    match ← peekToken with
    | some _ => failNext .trailingCharacters
    | none => return a
  match whole ⟨text.toList, {}⟩ with
  | .ok a _ => .ok a
  | .error e s => .error ⟨e.reason, e.place.getD s.place⟩

end Reader

end SyntaxGraph.Json
