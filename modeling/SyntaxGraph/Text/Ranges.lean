namespace SyntaxGraph.Text

def searchRanges (ranges : Array (Nat × Nat)) (code : Nat) : Nat → Nat → Nat → Bool
  | 0, _, _ => false
  | n + 1, low, high =>
    if low < high then
      let middle := (low + high) / 2
      match ranges[middle]? with
      | none => false
      | some (first, last) =>
        if code < first then searchRanges ranges code n low middle
        else if last < code then searchRanges ranges code n (middle + 1) high
        else true
    else false

def inRanges (ranges : Array (Nat × Nat)) (c : Char) : Bool :=
  searchRanges ranges c.toNat ranges.size 0 ranges.size

end SyntaxGraph.Text
