import SyntaxGraph.Proofs.Tree.Spans

namespace SyntaxGraph.Tree

structure Sound (t : Tree) : Prop where
  rooted : 0 < t.size ∧ t.root = some ⟨t.size - 1⟩
  heldBefore : t.HeldBefore
  heldOnce : ∀ i, i + 1 < t.size → (t.nodes.toList.flatMap Node.held).count ⟨i⟩ = 1
  contiguous : ∀ i < t.size, ∃ first ≤ i, ∀ j, t.Reaches ⟨i⟩ ⟨j⟩ ↔ first ≤ j ∧ j ≤ i

def Forest (t : Tree) (roots : List NodeId) : Prop :=
  t.Spans 0 t.size roots

section

variable {t : Tree} {ids below : List NodeId} {n : Node} {root : NodeId}

theorem forest_empty : empty.Forest [] :=
  .nil

theorem Forest.add (h : t.Forest (ids ++ below)) (hn : n.held.Perm below) :
    (t.add n).Forest (ids ++ [t.next]) := by
  have hwithin := t.within_add n
  have hnext : (t.add n).node? ⟨t.size⟩ = some n := by
    rw [node?_add]
    exact if_pos rfl
  obtain ⟨mid, hids, hbelow⟩ := h.split
  unfold Forest
  rw [size_add]
  exact (hids.mono hwithin).append (.cons (hbelow.mono hwithin) hnext hn .nil)

theorem Forest.heldBefore (h : t.Forest ids) : t.HeldBefore := by
  intro i hi id hid
  have hheld : t.Holds ⟨i⟩ id := ⟨_, Array.getElem?_eq_getElem hi, hid⟩
  exact (Spans.holds h (Nat.zero_le _) hi hheld).2

theorem Forest.count (h : t.Forest ids) (id : NodeId) :
    (t.nodes.toList.flatMap Node.held).count id + ids.count id = if id.index < t.size then 1 else 0 := by
  have hall : t.heldIn 0 t.size = t.nodes.toList.flatMap Node.held := by
    have hlen : t.size - 0 = t.nodes.toList.length := rfl
    rw [heldIn, List.drop_zero, hlen, List.take_length]
  simpa [hall] using Spans.count h id

theorem Forest.root_last (h : t.Forest [root]) : root.index + 1 = t.size := by
  have hspans : t.Spans 0 t.size [root] := h
  generalize t.size = hi at hspans ⊢
  cases hspans with
  | cons _ _ _ hr =>
    cases hr
    rfl

theorem Forest.sound (h : t.Forest [root]) : (t.withRoot root).Sound where
  rooted := by
    have hlast := h.root_last
    have hsize : (t.withRoot root).size = t.size := rfl
    rw [hsize, ← hlast]
    exact ⟨Nat.succ_pos _, rfl⟩
  heldBefore := h.heldBefore
  heldOnce i hi := by
    have hi' : i + 1 < t.size := hi
    have hlast := h.root_last
    have hcount := h.count ⟨i⟩
    have hne : root ≠ ⟨i⟩ := by
      rintro rfl
      exact absurd hlast (Nat.ne_of_lt hi')
    have hlt : (⟨i⟩ : NodeId).index < t.size := Nat.lt_of_succ_lt hi'
    rw [if_pos hlt, List.count_singleton, if_neg (by simpa using hne)] at hcount
    exact hcount
  contiguous i hi := (Spans.mono (t.within_withRoot root) h).interval (Nat.zero_le i) hi

end

end SyntaxGraph.Tree
