import SyntaxGraph.Decimal.Basic
import SyntaxGraph.Json.Cursor
import SyntaxGraph.Json.Value

namespace SyntaxGraph.Json

def gather (limit : Nat) : Nat → List Char → Nat × List Char
  | n, [] => (n, [])
  | n, c :: rest =>
    let next := 10 * n + Decimal.digitValue c
    if limit < next then (n, c :: rest) else gather limit next rest

def powerOfTen (n : Nat) : Float :=
  Decimal.toFloat ⟨1, n⟩

def divideByPower (x : Float) (n : Nat) : Float :=
  if n ≤ 308 then x / powerOfTen n
  else if x == 0 then x
  else divideByPower (x / powerOfTen 308) (n - 308)
termination_by n

def scaleDigits (digits : Nat) (exponent : Int) : Option Float :=
  let x := Decimal.nearest digits 1
  if exponent < 0 then some (divideByPower x (-exponent).toNat)
  else if 308 < exponent then (if x == 0 then some x else none)
  else
    let y := x * powerOfTen exponent.toNat
    if y.isInf then none else some y

namespace Reader

def digitRun : Reader (List Char) :=
  takeWhile Char.isDigit

def scaled (positive : Bool) (digits : Nat) (exponent : Int) : Reader Number :=
  match scaleDigits digits exponent with
  | some x => return .float (if positive then x else -x)
  | none => fail .numberOutOfRange

def sign : Reader Bool := do
  match ← peek with
  | some '+' => skip; return true
  | some '-' => skip; return false
  | _ => return true

def exponentPart (positive : Bool) (digits : Nat) (start : Int) : Reader Number := do
  skip
  let upward ← sign
  match ← peek with
  | none => fail .endInValue
  | some c =>
    if !c.isDigit then failNext .invalidNumber
    else
      let run := (← get).rest.takeWhile Char.isDigit
      let (exponent, left) := gather (Nat.pow 2 31 - 1) 0 run
      if left.isEmpty then
        let _ ← digitRun
        scaled positive digits (if upward then start + exponent else start - exponent)
      else if digits ≠ 0 ∧ upward then
        modify fun s => ⟨s.rest, (run.take (run.length - left.length + 1)).foldl Place.char s.place⟩
        fail .numberOutOfRange
      else
        let _ ← digitRun
        return .float (if positive then 0 else -0.0)

def afterDigits (positive : Bool) (digits : Nat) (exponent : Int) : Reader Number := do
  match ← peek with
  | some 'e' => exponentPart positive digits exponent
  | some 'E' => exponentPart positive digits exponent
  | _ => scaled positive digits exponent

def fractionPart (positive : Bool) (digits : Nat) (exponent : Int) : Reader Number := do
  skip
  let run ← digitRun
  let (digits, left) := gather (Nat.pow 2 64 - 1) digits run
  let used := run.length - left.length
  if run.isEmpty then
    match ← peek with
    | some _ => failNext .invalidNumber
    | none => failNext .endInValue
  else afterDigits positive digits (exponent - used)

def wholeNumber (positive : Bool) (digits : Nat) : Number :=
  if positive then .natural digits.toUInt64
  else if 0 < digits ∧ digits ≤ Nat.pow 2 63 then .negative (Int64.ofInt (-digits))
  else .float (-(Decimal.nearest digits 1))

def afterWhole (positive : Bool) (digits : Nat) (lost : Nat) : Reader Number := do
  match ← peek with
  | some '.' => fractionPart positive digits lost
  | some 'e' => exponentPart positive digits lost
  | some 'E' => exponentPart positive digits lost
  | _ => if lost = 0 then return wholeNumber positive digits else scaled positive digits lost

def unsignedNumber (positive : Bool) : Reader Number := do
  match ← peek with
  | none => fail .endInValue
  | some '0' =>
    skip
    match ← peek with
    | some c => if c.isDigit then failNext .invalidNumber else afterWhole positive 0 0
    | none => afterWhole positive 0 0
  | some c =>
    if !c.isDigit then failNext .invalidNumber
    else
      let (digits, left) := gather (Nat.pow 2 64 - 1) 0 (← digitRun)
      afterWhole positive digits left.length

def number : Reader Number := do
  match ← peek with
  | some '-' => skip; unsignedNumber false
  | _ => unsignedNumber true

end Reader

end SyntaxGraph.Json
