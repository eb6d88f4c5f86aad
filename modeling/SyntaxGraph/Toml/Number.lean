import SyntaxGraph.Decimal.Basic
import SyntaxGraph.Text.Digit
import SyntaxGraph.Text.Scan
import SyntaxGraph.Toml.Value

namespace SyntaxGraph.Toml

open Text (Scan hexValue?)
open Text.Scan

namespace Scan

def moreDigits (test : Char → Bool) : Nat → List Char → Scan (List Char)
  | 0, found => return found.reverse
  | n + 1, found => do
    match ← peek with
    | some '_' =>
      take 1
      moreDigits test n ((← nextIf test) :: found)
    | some c =>
      if test c then
        take 1
        moreDigits test n (c :: found)
      else return found.reverse
    | none => return found.reverse

def digits (test : Char → Bool) : Scan (List Char) := do
  let first ← nextIf test
  moreDigits test (← get).rest.length [first]

def sign : Scan (List Char) :=
  (return [← nextIf fun c => c = '+' || c = '-']) <|> return []

def wholeDigits : Scan (List Char) := do
  if ← startsWith "0" then
    take 1
    return ['0']
  else digits Char.isDigit

def exponent : Scan (List Char) := do
  let mark ← nextIf fun c => c = 'e' || c = 'E'
  return mark :: (← sign) ++ (← digits Char.isDigit)

def fraction : Scan (List Char) := do
  exactly "."
  return '.' :: (← digits Char.isDigit)

def finite : Scan Float := do
  let whole := (← sign) ++ (← wholeDigits)
  let rest ← exponent <|> do return (← fraction) ++ (← exponent <|> return [])
  match Decimal.readFloat (String.ofList (whole ++ rest)) with
  | some x => if x == 1 / 0 then failure else return x
  | none => failure

def special : Scan Float := do
  let negative := (← sign) = ['-']
  let value ← (do exactly "inf"; return 1 / 0) <|> (do exactly "nan"; return 0 / 0)
  return if negative then -value else value

def float : Scan Float :=
  finite <|> special

def int64 (i : Int) : Scan Int64 :=
  if -Int.pow 2 63 ≤ i ∧ i < Int.pow 2 63 then return Int64.ofInt i else failure

def basedInteger (start : String) (base : Nat) : Scan Int64 := do
  exactly start
  let found ← digits fun c => (hexValue? c).any (· < base)
  int64 (found.foldl (fun n c => base * n + (hexValue? c).getD 0) 0)

def decimalInteger : Scan Int64 := do
  let negative := (← sign) = ['-']
  let value : Int := Decimal.ofDigits (← wholeDigits)
  int64 (if negative then -value else value)

def integer : Scan Int64 := do
  if ← startsWith "0x" then basedInteger "0x" 16
  else if ← startsWith "0o" then basedInteger "0o" 8
  else if ← startsWith "0b" then basedInteger "0b" 2
  else decimalInteger

def fixedDigits : Nat → Scan (List Char)
  | 0 => return []
  | n + 1 => return (← nextIf Char.isDigit) :: (← fixedDigits n)

def part (n low high : Nat) : Scan (List Char) := do
  let found ← fixedDigits n
  let value := Decimal.ofDigits found
  if low ≤ value ∧ value ≤ high then return found else failure

def monthLength (year month : Nat) : Nat :=
  if month = 2 then
    if year % 4 = 0 ∧ (year % 100 ≠ 0 ∨ year % 400 = 0) then 29 else 28
  else if [4, 6, 9, 11].contains month then 30
  else 31

def date : Scan (List Char) := do
  let year ← fixedDigits 4
  exactly "-"
  let month ← part 2 1 12
  exactly "-"
  let day ← part 2 1 (monthLength (Decimal.ofDigits year) (Decimal.ofDigits month))
  return year ++ '-' :: month ++ '-' :: day

def secondFraction : Scan (List Char) := do
  exactly "."
  let first ← nextIf Char.isDigit
  let found := (first :: (← takeWhile Char.isDigit)).take 9
  let significant := (found.reverse.dropWhile (· = '0')).reverse
  return if significant.isEmpty then [] else '.' :: significant

def timeOfDay : Scan (List Char) := do
  let hour ← part 2 0 23
  exactly ":"
  let minute ← part 2 0 59
  exactly ":"
  let second ← part 2 0 60
  let fraction ← secondFraction <|> return []
  return hour ++ ':' :: minute ++ ':' :: second ++ fraction

def timeOffset : Scan (List Char) :=
  (do let _ ← nextIf fun c => c = 'Z' || c = 'z'; return ['Z']) <|> do
    let mark ← nextIf fun c => c = '+' || c = '-'
    let hour ← part 2 0 23
    exactly ":"
    let minute ← part 2 0 59
    let zero := Decimal.ofDigits (hour ++ minute) = 0
    return (if zero then '+' else mark) :: hour ++ ':' :: minute

def timeBehindDate : Scan (List Char) := do
  let _ ← nextIf fun c => c = 'T' || c = 't' || c = ' '
  return 'T' :: (← timeOfDay) ++ (← timeOffset <|> return [])

def datetime : Scan String := do
  let found ← (do return (← date) ++ (← timeBehindDate <|> return [])) <|> timeOfDay
  return String.ofList found

end Scan

end SyntaxGraph.Toml
