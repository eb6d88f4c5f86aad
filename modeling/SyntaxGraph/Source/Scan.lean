import SyntaxGraph.Source.Token
import SyntaxGraph.Text.Identifier

namespace SyntaxGraph.Source

open Text (Scan)
open Text.Scan

def isBlank (c : Char) : Bool :=
  let n := c.toNat
  n = 0x20 || (0x9 ≤ n && n ≤ 0xd) || n = 0x85 || n = 0xa0 || n = 0x1680 ||
    (0x2000 ≤ n && n ≤ 0x200a) || n = 0x200e || n = 0x200f || n = 0x2028 || n = 0x2029 ||
    n = 0x202f || n = 0x205f || n = 0x3000

namespace Scan

def restOfLine : Nat → List Char → Scan (List Char)
  | 0, line => return line.reverse
  | n + 1, line => do
    if ← startsWith "\n" then return line.reverse
    else if ← startsWith "\r\n" then
      take 1
      return line.reverse
    else
      match ← peek with
      | none => return line.reverse
      | some c =>
        take 1
        restOfLine n (c :: line)

def restOfComment : Nat → Nat → List Char → Scan (List Char)
  | 0, _, _ => failure
  | n + 1, level, text => do
    if ← startsWith "/*" then
      take 2
      restOfComment n (level + 1) ('*' :: '/' :: text)
    else if ← startsWith "*/" then
      take 2
      if level = 0 then return text.reverse
      else restOfComment n (level - 1) ('/' :: '*' :: text)
    else restOfComment n level ((← next) :: text)

def blockComment (n : Nat) : Scan (List Char) := do
  exactly "/*"
  restOfComment n 0 []

def plainComment (n : Nat) : Scan Unit := do
  if ← startsWith "//" then
    if (← startsWith "//!") || ((← startsWith "///") && !(← startsWith "////")) then failure
    let _ ← restOfLine n []
  else if ← startsWith "/**/" then take 4
  else if (← startsWith "/*!") || ((← startsWith "/**") && !(← startsWith "/***")) then failure
  else
    let _ ← blockComment n

def gap (n : Nat) : Scan Bool :=
  (do let _ ← nextIf isBlank; return true) <|> (do plainComment n; return true) <|> return false

def gaps : Nat → Scan Unit
  | 0 => return ()
  | n + 1 => do if ← gap (n + 1) then gaps n

end Scan

end SyntaxGraph.Source
