import SyntaxGraph.Source.Syntax

/-!
Parsing token trees. A parser looks at the trees that are left in the innermost bracket pair, takes
some of them, or refuses at a position: that of the next tree, or of the closing bracket if none is
left. Trees left over in a pair that has been parsed are an error too, but one that is found only when
the whole text has been parsed.
-/

namespace SyntaxGraph.Source

open Text (Position)

structure Input where
  rest : List TokenTree
  close : Position
  stray : Option Position := none
  afterBrace : Bool := false

abbrev Parser := StateT Input (Except Position)

abbrev Ahead := List TokenTree → Bool

namespace Ahead

def keywords : List String := [
  "_", "abstract", "as", "async", "await", "become", "box", "break", "const", "continue", "crate",
  "do", "dyn", "else", "enum", "extern", "false", "final", "fn", "for", "if", "impl", "in", "let",
  "loop", "macro", "match", "mod", "move", "mut", "override", "priv", "pub", "ref", "return",
  "Self", "self", "static", "struct", "super", "trait", "true", "try", "type", "typeof", "unsafe",
  "unsized", "use", "virtual", "where", "while", "yield"]

def word (text : String) : Ahead
  | .leaf (.word w) _ :: _ => w == text
  | _ => false

def oneOf (words : List String) : Ahead
  | .leaf (.word w) _ :: _ => words.contains w
  | _ => false

def anyWord : Ahead
  | .leaf (.word _) _ :: _ => true
  | _ => false

def ident : Ahead
  | .leaf (.word w) _ :: _ => !keywords.contains w
  | _ => false

def markList : List Char → Ahead
  | [], _ => true
  | [c], .leaf (.mark d _) _ :: _ => c == d
  | c :: more, .leaf (.mark d joint) _ :: rest => c == d && joint && markList more rest
  | _, _ => false

def marks (text : String) : Ahead :=
  markList text.toList

def lifetime : Ahead
  | .leaf (.lifetime _) _ :: _ => true
  | _ => false

def group (d : Delimiter) : Ahead
  | .group e _ _ _ :: _ => d == e
  | _ => false

def paren : Ahead := group .parenthesis
def bracket : Ahead := group .bracket
def brace : Ahead := group .brace

def number : Ahead
  | .leaf (.literal (.integer _ _)) _ :: _ => true
  | .leaf (.literal (.float _ _)) _ :: _ => true
  | _ => false

def literal : Ahead
  | .leaf (.literal _) _ :: _ => true
  | .leaf (.word w) _ :: _ => w == "true" || w == "false"
  | .leaf (.mark '-' _) _ :: rest => number rest
  | _ => false

def text : Ahead
  | .leaf (.literal (.text _)) _ :: _ => true
  | _ => false

end Ahead

namespace Parser

variable {α : Type}

def sees (test : Ahead) : Parser Bool := do
  return test (← get).rest

def sees2 (test : Ahead) : Parser Bool := do
  return test ((← get).rest.drop 1)

def sees3 (test : Ahead) : Parser Bool := do
  return test ((← get).rest.drop 2)

def seesWord (w : String) : Parser Bool := sees (.word w)
def seesMarks (m : String) : Parser Bool := sees (.marks m)

def isEmpty : Parser Bool := sees List.isEmpty

def here : Parser Position := do
  let s ← get
  return (s.rest.head?.map TokenTree.place).getD s.close

def failHere : Parser α := do
  throw (← here)

def limit : Parser Nat := do
  return (← get).rest.length + 1

def isBraceGroup : TokenTree → Bool
  | .group .brace _ _ _ => true
  | _ => false

def tree : Parser TokenTree := do
  let s ← get
  match s.rest with
  | [] => throw s.close
  | t :: rest =>
    set { s with rest := rest, afterBrace := isBraceGroup t }
    return t

def drop : Nat → Parser Unit
  | 0 => return ()
  | n + 1 => do
    let _ ← tree
    drop n

def word (w : String) : Parser Unit := do
  if ← seesWord w then drop 1 else failHere

def tryWord (w : String) : Parser Bool := do
  let seen ← seesWord w
  if seen then drop 1
  return seen

def marks (m : String) : Parser Unit := do
  if ← seesMarks m then drop m.length else failHere

def tryMarks (m : String) : Parser Bool := do
  let seen ← seesMarks m
  if seen then drop m.length
  return seen

def anyWord : Parser String := do
  match (← get).rest with
  | .leaf (.word w) _ :: _ =>
    drop 1
    return w
  | _ => failHere

def ident : Parser String := do
  if ← sees .ident then anyWord else failHere

def lifetime : Parser Unit := do
  if ← sees .lifetime then drop 1 else failHere

def inside (d : Delimiter) (p : Parser α) : Parser α := do
  let s ← get
  match s.rest with
  | .group e body _ closing :: rest =>
    if d = e then
      set { s with rest := body, close := closing, afterBrace := false }
      let a ← p
      let inner ← get
      let stray := inner.stray.or (inner.rest.head?.map TokenTree.place)
      set ({ s with rest := rest, stray := stray, afterBrace := d = .brace } : Input)
      return a
    else failHere
  | _ => failHere

def inParens (p : Parser α) : Parser α := inside .parenthesis p
def inBrackets (p : Parser α) : Parser α := inside .bracket p
def inBraces (p : Parser α) : Parser α := inside .brace p

def attempt (p : Parser α) : Parser (Option α) := fun s =>
  match p s with
  | .ok (a, s) => .ok (some a, s)
  | .error _ => .ok (none, s)

def lookahead (p : Parser α) : Parser (Option α) := fun s =>
  match p s with
  | .ok (a, _) => .ok (some a, s)
  | .error _ => .ok (none, s)

def allWithin (p : Parser α) : Nat → List α → Parser (List α)
  | 0, found => return found.reverse
  | n + 1, found => do
    if ← isEmpty then return found.reverse
    else allWithin p n ((← p) :: found)

def all (p : Parser α) : Parser (List α) := do
  allWithin p (← limit) []

def separatedWithin (p : Parser α) : Nat → List α → Parser (List α)
  | 0, found => return found.reverse
  | n + 1, found => do
    if ← isEmpty then return found.reverse
    let found := (← p) :: found
    if ← isEmpty then return found.reverse
    marks ","
    separatedWithin p n found

def separated (p : Parser α) : Parser (List α) := do
  separatedWithin p (← limit) []

def repeatWithin (p : Parser Bool) : Nat → Parser Unit
  | 0 => return ()
  | n + 1 => do if ← p then repeatWithin p n

def repeatStep (p : Parser Bool) : Parser Unit := do
  repeatWithin p (← limit)

end Parser

end SyntaxGraph.Source
