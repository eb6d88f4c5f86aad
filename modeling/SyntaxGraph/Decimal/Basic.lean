import SyntaxGraph.Decimal.Binary64

namespace SyntaxGraph

structure Decimal where
  coefficient : Nat
  exponent : Int
  deriving DecidableEq, Repr

namespace Decimal

def digitValue (c : Char) : Nat :=
  c.toNat - '0'.toNat

def ofDigits (digits : List Char) : Nat :=
  digits.foldl (fun n c => 10 * n + digitValue c) 0

def digitCount (n : Nat) : Nat :=
  (Nat.toDigits 10 n).length

def toFloat (d : Decimal) : Float :=
  let leading := (digitCount d.coefficient : Int) + d.exponent
  if d.coefficient = 0 ∨ leading < -330 then 0
  else if 310 < leading then nearest (Nat.pow 10 310) 1
  else if 0 ≤ d.exponent then nearest (d.coefficient * Nat.pow 10 d.exponent.toNat) 1
  else nearest d.coefficient (Nat.pow 10 (-d.exponent).toNat)

def readExponent : List Char → Option Int
  | [] => some 0
  | e :: rest =>
    if e ≠ 'e' ∧ e ≠ 'E' then none
    else
      let (negative, digits) := match rest with
        | '-' :: r => (true, r)
        | '+' :: r => (false, r)
        | r => (false, r)
      if digits.isEmpty || digits.any (!·.isDigit) then none
      else some (if negative then -(ofDigits digits : Int) else ofDigits digits)

def readUnsigned (text : List Char) : Option Decimal :=
  let whole := text.takeWhile Char.isDigit
  let (fraction, rest) := match text.dropWhile Char.isDigit with
    | '.' :: r => (r.takeWhile Char.isDigit, r.dropWhile Char.isDigit)
    | r => ([], r)
  if whole.isEmpty && fraction.isEmpty then none
  else (readExponent rest).map fun e => ⟨ofDigits (whole ++ fraction), e - fraction.length⟩

def readFloat (text : String) : Option Float :=
  let (negative, digits) := match text.toList with
    | '-' :: r => (true, r)
    | '+' :: r => (false, r)
    | r => (false, r)
  let word := String.ofList (digits.map Char.toLower)
  let value :=
    if word = "inf" ∨ word = "infinity" then some (1 / 0)
    else if word = "nan" then some (0 / 0)
    else (readUnsigned digits).map toFloat
  value.map fun x => if negative then -x else x

end Decimal

end SyntaxGraph
