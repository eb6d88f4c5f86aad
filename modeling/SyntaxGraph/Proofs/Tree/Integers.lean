import SyntaxGraph.Proofs.Json.Canonical
import SyntaxGraph.Tree.Document

namespace SyntaxGraph

structure Scalar.Denotes (s : Scalar) (z : Int) : Prop where
  signed : z < Nat.pow 2 63 → ∃ i : Int64, s = .int i ∧ i.toInt = z
  unsigned : Nat.pow 2 63 ≤ z → z < Nat.pow 2 64 → ∃ u : UInt64, s = .uint u ∧ u.toNat = z
  digits : Nat.pow 2 64 ≤ z → s = .str (toString z)

namespace Scalar

theorem Denotes.text_eq {s : Scalar} {z : Int} (h : s.Denotes z) : s.text = toString z := by
  by_cases hsigned : z < Nat.pow 2 63
  · obtain ⟨i, rfl, rfl⟩ := h.signed hsigned
    rfl
  · by_cases hunsigned : z < Nat.pow 2 64
    · obtain ⟨u, rfl, rfl⟩ := h.unsigned (Int.not_lt.mp hsigned) hunsigned
      rfl
    · rw [h.digits (Int.not_lt.mp hunsigned)]
      rfl

theorem denotes_int (i : Int64) : (int i).Denotes i.toInt := by
  have hlt : i.toInt < Nat.pow 2 63 := i.toInt_lt
  have hle : Nat.pow 2 63 ≤ Nat.pow 2 64 := by decide
  constructor
  case signed => exact fun _ => ⟨i, rfl, rfl⟩
  case unsigned => omega
  case digits => omega

theorem toInt_toInt64 {n : UInt64} (h : n.toNat < Nat.pow 2 63) : n.toInt64.toInt = n.toNat := by
  rw [← UInt64.ofNat_toNat (x := n), UInt64.toInt64_ofNat', Int64.toInt_ofNat_of_lt h, UInt64.ofNat_toNat]

theorem denotes_ofUInt64 (n : UInt64) : (ofUInt64 n).Denotes n.toNat := by
  have hlt : n.toNat < Nat.pow 2 64 := n.toNat_lt
  unfold ofUInt64
  split
  · next hsigned =>
    rw [← toInt_toInt64 hsigned]
    exact denotes_int _
  · next hge =>
    constructor
    case signed => omega
    case unsigned => exact fun _ _ => ⟨n, rfl, rfl⟩
    case digits => omega

end Scalar

namespace Json

theorem Number.denotes_scalar {m : Number} {z : Int} (h : m.integer? = some z) : m.scalar.Denotes z := by
  cases m with
  | natural n =>
    cases h
    exact Scalar.denotes_ofUInt64 n
  | negative i =>
    cases h
    exact Scalar.denotes_int i
  | float x => cases h

end Json

end SyntaxGraph
