namespace SyntaxGraph.Text

def replacement : Char := '\ufffd'

def isContinuation (low high b : Nat) : Bool :=
  low ≤ b && b ≤ high

def leadByte? (b : Nat) : Option (Nat × Nat × Nat × Nat) :=
  if 0xc2 ≤ b ∧ b ≤ 0xdf then some (b - 0xc0, 0x80, 0xbf, 0)
  else if b = 0xe0 then some (0, 0xa0, 0xbf, 1)
  else if b = 0xed then some (0xd, 0x80, 0x9f, 1)
  else if 0xe1 ≤ b ∧ b ≤ 0xef then some (b - 0xe0, 0x80, 0xbf, 1)
  else if b = 0xf0 then some (0, 0x90, 0xbf, 2)
  else if 0xf1 ≤ b ∧ b ≤ 0xf3 then some (b - 0xf0, 0x80, 0xbf, 2)
  else if b = 0xf4 then some (4, 0x80, 0x8f, 2)
  else none

/-- The code point begun with `code`, if the bytes continue it, and how many of them do. -/
def continued (code : Nat) : Nat → Nat → Nat → List Nat → Option Nat × Nat
  | _, _, _, [] => (none, 0)
  | low, high, more, b :: rest =>
    if isContinuation low high b then
      let code := code * 64 + (b - 0x80)
      match more with
      | 0 => (some code, 1)
      | n + 1 =>
        let (result, used) := continued code 0x80 0xbf n rest
        (result, used + 1)
    else (none, 0)

def decodeBytes : Nat → List Nat → List Char
  | 0, _ => []
  | _, [] => []
  | n + 1, b :: rest =>
    if b < 0x80 then Char.ofNat b :: decodeBytes n rest
    else
      match leadByte? b with
      | none => replacement :: decodeBytes n rest
      | some (code, low, high, more) =>
        match continued code low high more rest with
        | (some code, used) => Char.ofNat code :: decodeBytes n (rest.drop used)
        | (none, used) => replacement :: decodeBytes n (rest.drop used)

def decodeLossy (bytes : List Nat) : String :=
  String.ofList (decodeBytes bytes.length bytes)

end SyntaxGraph.Text
