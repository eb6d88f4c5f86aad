namespace SyntaxGraph.Decimal

structure Dyadic where
  mantissa : Nat
  exponent : Int
  deriving DecidableEq, Repr

inductive Magnitude where
  | finite (value : Dyadic)
  | infinite
  | undefined
  deriving DecidableEq, Repr

def isNegative (x : Float) : Bool :=
  x.toBits.toNat / Nat.pow 2 63 == 1

def magnitude (x : Float) : Magnitude :=
  let bits := x.toBits.toNat
  let biased : Nat := bits / Nat.pow 2 52 % Nat.pow 2 11
  let fraction : Nat := bits % Nat.pow 2 52
  if biased = 2047 then
    if fraction = 0 then .infinite else .undefined
  else if biased = 0 then .finite ⟨fraction, -1074⟩
  else .finite ⟨Nat.pow 2 52 + fraction, (biased : Int) - 1075⟩

def roundHalfEven (num den : Nat) : Nat :=
  let q := num / den
  let r := num % den
  if 2 * r < den then q
  else if den < 2 * r then q + 1
  else q + q % 2

def scaled (num den : Nat) (exponent : Int) : Nat × Nat :=
  if 0 ≤ exponent then (num, den * Nat.pow 2 exponent.toNat) else (num * Nat.pow 2 (-exponent).toNat, den)

def binaryExponent (num den : Nat) : Int :=
  let guess := max ((num.log2 : Int) - den.log2 - 53) (-1074)
  let (n, d) := scaled num den guess
  if n / d < Nat.pow 2 53 then guess else guess + 1

def nearest (num den : Nat) : Float :=
  if num = 0 then 0
  else
    let exponent := binaryExponent num den
    let (n, d) := scaled num den exponent
    let mantissa := roundHalfEven n d
    let bits := if mantissa < Nat.pow 2 52 then mantissa else (exponent + 1074).toNat * Nat.pow 2 52 + mantissa
    Float.ofBits (min bits (2047 * Nat.pow 2 52)).toUInt64

end SyntaxGraph.Decimal
