import SyntaxGraph.Decimal.Shortest

namespace SyntaxGraph.Decimal

structure Notation where
  lowest : Int
  highest : Int

def Notation.plain : Notation := ⟨-4, 15⟩

def Notation.report : Notation := ⟨-5, 15⟩

def zeros (n : Nat) : String :=
  String.ofList (List.replicate n '0')

def positional (digits : List Char) (exponent : Int) : String :=
  let point := (digits.length : Int) + exponent
  if 0 ≤ exponent then String.ofList digits ++ zeros exponent.toNat ++ ".0"
  else if 0 < point then
    String.ofList (digits.take point.toNat) ++ "." ++ String.ofList (digits.drop point.toNat)
  else "0." ++ zeros (-point).toNat ++ String.ofList digits

def scientific (digits : List Char) (leading : Int) : String :=
  let fraction := match digits.drop 1 with
    | [] => ""
    | ds => "." ++ String.ofList ds
  String.ofList (digits.take 1) ++ fraction ++ "e" ++ toString leading

def Notation.write (n : Notation) (d : Decimal) : String :=
  let digits := Nat.toDigits 10 d.coefficient
  let leading := (digits.length : Int) + d.exponent - 1
  if d.coefficient = 0 ∨ (n.lowest ≤ leading ∧ leading ≤ n.highest) then positional digits d.exponent
  else scientific digits leading

def Notation.float (n : Notation) (x : Float) : String :=
  let sign := if isNegative x then "-" else ""
  match magnitude x with
  | .undefined => "NaN"
  | .infinite => sign ++ "inf"
  | .finite d => sign ++ n.write d.shortest

end SyntaxGraph.Decimal
