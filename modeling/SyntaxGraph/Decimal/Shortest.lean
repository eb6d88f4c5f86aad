import SyntaxGraph.Decimal.Basic

/-!
The shortest decimal that reads back as a given double. A double stands for the interval of the
reals nearest to it; the first decimal grid with a point inside the interval gives the digits.
-/

namespace SyntaxGraph.Decimal

/-- The reals that round to a double, as multiples of `unit`: all between `low` and `high`, and
these two as well when `closed`. -/
structure RoundingInterval where
  low : Nat
  value : Nat
  high : Nat
  closed : Bool
  unit : Int

def Dyadic.interval (d : Dyadic) : RoundingInterval where
  low := if d.mantissa = Nat.pow 2 52 ∧ -1074 < d.exponent then 4 * d.mantissa - 1 else 4 * d.mantissa - 2
  value := 4 * d.mantissa
  high := 4 * d.mantissa + 2
  closed := d.mantissa % 2 = 0
  unit := d.exponent - 2

def leadingExponent (num den : Nat) : Int :=
  if den ≤ num then (digitCount (num / den) : Int) - 1
  else -(digitCount ((den + num - 1) / num - 1) : Int)

def compareScaled (a : Nat) (unit : Int) (n : Nat) (place : Int) : Nat × Nat :=
  let left := if 0 ≤ unit then a * Nat.pow 2 unit.toNat else a
  let right := if 0 ≤ unit then n else n * Nat.pow 2 (-unit).toNat
  if 0 ≤ place then (left, right * Nat.pow 10 place.toNat) else (left * Nat.pow 10 (-place).toNat, right)

def RoundingInterval.contains (i : RoundingInterval) (n : Nat) (place : Int) : Bool :=
  let (low, fromLow) := compareScaled i.low i.unit n place
  let (high, toHigh) := compareScaled i.high i.unit n place
  if i.closed then decide (low ≤ fromLow) && decide (toHigh ≤ high)
  else decide (low < fromLow) && decide (toHigh < high)

def RoundingInterval.gridPoint? (i : RoundingInterval) (place : Int) : Option Nat :=
  let (value, one) := compareScaled i.value i.unit 1 place
  let below := value / one
  match i.contains below place, i.contains (below + 1) place with
  | true, true => some (if 2 * (value % one) < one then below else below + 1)
  | true, false => some below
  | false, true => some (below + 1)
  | false, false => none

def trim : Nat → Decimal → Decimal
  | 0, d => d
  | n + 1, d => if d.coefficient % 10 = 0 then trim n ⟨d.coefficient / 10, d.exponent + 1⟩ else d

def RoundingInterval.firstPoint (i : RoundingInterval) (place : Int) : Nat → Decimal
  | 0 => ⟨(i.gridPoint? place).getD 0, place⟩
  | n + 1 =>
    match i.gridPoint? place with
    | some point => ⟨point, place⟩
    | none => i.firstPoint (place - 1) n

/-- The fewest digits that read back as the number, and of those the nearest to it. -/
def Dyadic.shortest (d : Dyadic) : Decimal :=
  if d.mantissa = 0 then ⟨0, 0⟩
  else
    let (num, den) := scaled d.mantissa 1 (-d.exponent)
    let point := d.interval.firstPoint (leadingExponent num den) 17
    trim 20 point

end SyntaxGraph.Decimal
