namespace SyntaxGraph.Text

structure Position where
  line : Nat := 1
  column : Nat := 1
  deriving DecidableEq, Repr

def Position.after (p : Position) (c : Char) : Position :=
  if c = '\n' then ⟨p.line + 1, 1⟩ else { p with column := p.column + 1 }

structure Cursor where
  rest : List Char
  place : Position := {}

abbrev Scan := StateT Cursor Option

namespace Scan

def next : Scan Char := fun s =>
  match s.rest with
  | [] => none
  | c :: rest => some (c, ⟨rest, s.place.after c⟩)

def peek : Scan (Option Char) := do
  return (← get).rest.head?

def startsWith (text : String) : Scan Bool := do
  return text.toList.isPrefixOf (← get).rest

def take : Nat → Scan Unit
  | 0 => return ()
  | n + 1 => do
    let _ ← next
    take n

def takeWhile (test : Char → Bool) : Scan (List Char) := do
  let taken := (← get).rest.takeWhile test
  take taken.length
  return taken

def exactly (text : String) : Scan Unit := do
  if ← startsWith text then take text.length else failure

def nextIf (test : Char → Bool) : Scan Char := do
  let c ← next
  if test c then return c else failure

end Scan

end SyntaxGraph.Text
