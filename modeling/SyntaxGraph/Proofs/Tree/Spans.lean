import SyntaxGraph.Proofs.Tree.Held
import Mathlib.Logic.Relation
import Mathlib.Data.List.Basic

/-!
Subtrees that stand one after the other in a tree. Every node stands behind the nodes below it, and what
is below it is made up of subtrees in the same way, those of the nodes that it holds.
-/

namespace SyntaxGraph.Tree

open Relation

/-- The nodes from `lo` up to `hi` are subtrees one after the other, with the given roots. A node may
hold the roots below it in another order. -/
inductive Spans (t : Tree) : Nat → Nat → List NodeId → Prop
  | nil {k} : Spans t k k []
  | cons {lo mid hi n below rest} (hb : Spans t lo mid below) (hn : t.node? ⟨mid⟩ = some n)
    (hh : n.held.Perm below) (hr : Spans t (mid + 1) hi rest) : Spans t lo hi (⟨mid⟩ :: rest)

abbrev Reaches (t : Tree) : NodeId → NodeId → Prop :=
  ReflTransGen t.Holds

def heldIn (t : Tree) (lo hi : Nat) : List NodeId :=
  ((t.nodes.toList.drop lo).take (hi - lo)).flatMap Node.held

section

variable {t t' : Tree} {lo mid hi i : Nat} {ids ids' : List NodeId} {a b : NodeId} {n : Node}

theorem Spans.le (h : t.Spans lo hi ids) : lo ≤ hi := by
  induction h with
  | nil => exact Nat.le_refl _
  | cons _ _ _ _ ihb ihr => omega

theorem Spans.append (h : t.Spans lo mid ids) (h' : t.Spans mid hi ids') :
    t.Spans lo hi (ids ++ ids') := by
  induction h with
  | nil => exact h'
  | cons hb hn hh _ _ ihr => exact .cons hb hn hh (ihr h')

theorem Spans.split (h : t.Spans lo hi (ids ++ ids')) :
    ∃ mid, t.Spans lo mid ids ∧ t.Spans mid hi ids' := by
  induction ids generalizing lo with
  | nil => exact ⟨lo, .nil, h⟩
  | cons id ids ih =>
    cases h with
    | cons hb hn hh hr =>
      obtain ⟨mid, hl, hr⟩ := ih hr
      exact ⟨mid, .cons hb hn hh hl, hr⟩

theorem Spans.mono (ht : t.Within t') (h : t.Spans lo hi ids) : t'.Spans lo hi ids := by
  induction h with
  | nil => exact .nil
  | cons _ hn hh _ ihb ihr => exact .cons ihb (ht _ _ hn) hh ihr

theorem Spans.bounds (h : t.Spans lo hi ids) : ∀ id ∈ ids, lo ≤ id.index ∧ id.index < hi := by
  induction h with
  | nil => simp
  | @cons lo mid hi n below rest hb _ _ hr _ ihr =>
    have hlo := hb.le
    have hhi := hr.le
    intro id hid
    rcases List.mem_cons.mp hid with rfl | hid
    · exact ⟨hlo, hhi⟩
    · have := ihr id hid
      omega

theorem Spans.exists_below (h : t.Spans lo hi ids) (hlo : lo ≤ i) (hhi : i < hi) :
    ∃ n first below, t.node? ⟨i⟩ = some n ∧ n.held.Perm below ∧ lo ≤ first ∧ t.Spans first i below := by
  induction h with
  | nil => omega
  | @cons lo mid hi n below rest hb hn hh hr ihb ihr =>
    have hle := hb.le
    rcases Nat.lt_trichotomy i mid with hlt | rfl | hgt
    · exact ihb hlo hlt
    · exact ⟨n, lo, below, hn, hh, Nat.le_refl lo, hb⟩
    · obtain ⟨m, first, below', hm, hp, hf, hs⟩ := ihr hgt hhi
      exact ⟨m, first, below', hm, hp, by omega, hs⟩

theorem Spans.holds (h : t.Spans lo hi ids) (hlo : lo ≤ a.index) (hhi : a.index < hi)
    (hab : t.Holds a b) : lo ≤ b.index ∧ b.index < a.index := by
  obtain ⟨n, first, below, hn, hp, hf, hs⟩ := h.exists_below hlo hhi
  obtain ⟨n', hn', hb⟩ := hab
  obtain rfl : n' = n := Option.some.inj (hn'.symm.trans hn)
  have := hs.bounds b (hp.mem_iff.mp hb)
  omega

theorem Spans.reaches (h : t.Spans lo hi ids) (hlo : lo ≤ a.index) (hhi : a.index < hi)
    (hab : t.Reaches a b) : lo ≤ b.index ∧ b.index ≤ a.index := by
  induction hab with
  | refl => exact ⟨hlo, Nat.le_refl _⟩
  | tail _ hbc ih =>
    have := h.holds ih.1 (by omega) hbc
    omega

theorem Spans.covered (h : t.Spans lo hi ids) (hlo : lo ≤ i) (hhi : i < hi) :
    ∃ root ∈ ids, t.Reaches root ⟨i⟩ := by
  induction h with
  | nil => omega
  | @cons lo mid hi n below rest hb hn hh hr ihb ihr =>
    rcases Nat.lt_trichotomy i mid with hlt | rfl | hgt
    · obtain ⟨root, hroot, hreach⟩ := ihb hlo hlt
      have hholds : t.Holds ⟨mid⟩ root := ⟨n, hn, hh.mem_iff.mpr hroot⟩
      exact ⟨_, List.mem_cons_self, hreach.head hholds⟩
    · exact ⟨_, List.mem_cons_self, .refl⟩
    · obtain ⟨root, hroot, hreach⟩ := ihr hgt hhi
      exact ⟨root, List.mem_cons_of_mem _ hroot, hreach⟩

theorem Spans.interval (h : t.Spans lo hi ids) (hlo : lo ≤ i) (hhi : i < hi) :
    ∃ first ≤ i, ∀ j, t.Reaches ⟨i⟩ ⟨j⟩ ↔ first ≤ j ∧ j ≤ i := by
  obtain ⟨n, first, below, hn, hp, _, hs⟩ := h.exists_below hlo hhi
  have hle := hs.le
  refine ⟨first, hle, fun j => ⟨fun hij => ?_, fun hij => ?_⟩⟩
  · rcases ReflTransGen.cases_head hij with heq | ⟨c, hc, hcj⟩
    · cases heq
      exact ⟨hle, Nat.le_refl i⟩
    · obtain ⟨n', hn', hmem⟩ := hc
      obtain rfl : n' = n := Option.some.inj (hn'.symm.trans hn)
      have hbounds := hs.bounds c (hp.mem_iff.mp hmem)
      have hreach := hs.reaches hbounds.1 hbounds.2 hcj
      exact ⟨hreach.1, Nat.le_trans hreach.2 (Nat.le_of_lt hbounds.2)⟩
  · rcases Nat.lt_or_ge j i with hlt | hge
    · obtain ⟨root, hroot, hreach⟩ := hs.covered hij.1 hlt
      exact hreach.head ⟨n, hn, hp.mem_iff.mpr hroot⟩
    · obtain rfl : j = i := by omega
      exact .refl

theorem heldIn_self (t : Tree) (k : Nat) : t.heldIn k k = [] := by
  simp [heldIn]

theorem heldIn_append (hlo : lo ≤ mid) (hhi : mid ≤ hi) :
    t.heldIn lo mid ++ t.heldIn mid hi = t.heldIn lo hi := by
  have hlen : hi - lo = (mid - lo) + (hi - mid) := by omega
  have hdrop : (t.nodes.toList.drop lo).drop (mid - lo) = t.nodes.toList.drop mid := by
    rw [List.drop_drop]
    congr 1
    omega
  unfold heldIn
  rw [hlen, List.take_add, hdrop, List.flatMap_append]

theorem heldIn_succ (hn : t.node? ⟨i⟩ = some n) : t.heldIn i (i + 1) = n.held := by
  obtain ⟨hlt, hi⟩ := Array.getElem?_eq_some_iff.mp hn
  have hlt' : i < t.nodes.toList.length := hlt
  unfold heldIn
  rw [List.drop_eq_getElem_cons hlt', Nat.add_sub_cancel_left]
  simpa using congrArg Node.held hi

theorem Spans.count (h : t.Spans lo hi ids) (id : NodeId) :
    (t.heldIn lo hi).count id + ids.count id = if lo ≤ id.index ∧ id.index < hi then 1 else 0 := by
  induction h with
  | nil => simp [heldIn_self]
  | @cons lo mid hi n below rest hb hn hh hr ihb ihr =>
    have hlo := hb.le
    have hhi := hr.le
    have hheld : t.heldIn lo hi = t.heldIn lo mid ++ (n.held ++ t.heldIn (mid + 1) hi) := by
      rw [← heldIn_succ hn, heldIn_append (Nat.le_succ mid) hhi, heldIn_append hlo (by omega)]
    -- What the root in the middle holds are the roots below it, which nothing before it holds.
    rw [hheld, List.count_append, List.count_append, hh.count_eq, List.count_cons]
    by_cases hid : id.index = mid
    · obtain rfl : id = ⟨mid⟩ := by rw [← hid]
      rw [if_neg (by omega)] at ihb ihr
      rw [if_pos (by simp), if_pos ⟨hlo, hhi⟩]
      omega
    · have hne : ¬ ((⟨mid⟩ : NodeId) == id) = true := by
        rw [beq_iff_eq]
        rintro rfl
        exact hid rfl
      rw [if_neg hne]
      split_ifs at ihb ihr ⊢ <;> omega

end

end SyntaxGraph.Tree
