import Mathlib.Data.List.Basic
import Mathlib.Data.List.Induction

namespace SyntaxGraph

variable {α : Type} [DecidableEq α]

theorem eraseDups_concat (as : List α) (a : α) :
    (as ++ [a]).eraseDups = if a ∈ as.eraseDups then as.eraseDups else as.eraseDups ++ [a] := by
  rw [List.eraseDups_append]
  by_cases h : a ∈ as <;> simp [h, List.removeAll, List.eraseDups_cons]

theorem find?_eraseDups (as : List α) (test : α → Bool) : as.eraseDups.find? test = as.find? test := by
  induction as using List.reverseRecOn with
  | nil => rfl
  | append_singleton as a ih =>
    rw [eraseDups_concat, List.find?_append, ← ih]
    split
    · next hmem =>
      cases hfind : as.eraseDups.find? test with
      | some b => rfl
      | none =>
        have ha := List.find?_eq_none.mp hfind a hmem
        simp [ha]
    · rw [List.find?_append]

theorem find?_eq_some_iff_idxOf {as : List α} {test : α → Bool} {a : α} :
    as.find? test = some a ↔ a ∈ as ∧ test a = true ∧
      ∀ b ∈ as, test b = true → as.idxOf a ≤ as.idxOf b := by
  induction as with
  | nil => simp
  | cons x as ih =>
    by_cases hx : test x = true
    · rw [List.find?_cons_of_pos hx, Option.some.injEq]
      constructor
      · rintro rfl
        refine ⟨List.mem_cons_self, hx, fun b _ _ => ?_⟩
        rw [List.idxOf_cons_self]
        exact Nat.zero_le _
      · rintro ⟨_, _, hfirst⟩
        have hle := hfirst x List.mem_cons_self hx
        rw [List.idxOf_cons_self] at hle
        by_contra hne
        rw [List.idxOf_cons_ne _ hne] at hle
        exact Nat.not_succ_le_zero _ hle
    · have hne {b : α} (hb : test b = true) : x ≠ b := fun heq => hx (heq ▸ hb)
      rw [List.find?_cons_of_neg hx, ih]
      constructor
      · rintro ⟨ha, hta, hfirst⟩
        refine ⟨List.mem_cons_of_mem x ha, hta, fun b hb htb => ?_⟩
        rw [List.idxOf_cons_ne _ (hne hta), List.idxOf_cons_ne _ (hne htb)]
        exact Nat.succ_le_succ (hfirst b ((List.mem_cons.mp hb).resolve_left (hne htb).symm) htb)
      · rintro ⟨ha, hta, hfirst⟩
        refine ⟨(List.mem_cons.mp ha).resolve_left (hne hta).symm, hta, fun b hb htb => ?_⟩
        have hle := hfirst b (List.mem_cons_of_mem x hb) htb
        rw [List.idxOf_cons_ne _ (hne hta), List.idxOf_cons_ne _ (hne htb)] at hle
        exact Nat.le_of_succ_le_succ hle

theorem find?_congr_of_idxOf {as bs : List α} {test : α → Bool} (hmem : ∀ a, a ∈ as ↔ a ∈ bs)
    (horder : ∀ a ∈ as, ∀ b ∈ as, test a = true → test b = true →
      (as.idxOf a < as.idxOf b ↔ bs.idxOf a < bs.idxOf b)) :
    as.find? test = bs.find? test := by
  apply Option.ext
  intro a
  rw [find?_eq_some_iff_idxOf, find?_eq_some_iff_idxOf, ← hmem]
  apply and_congr_right
  intro ha
  apply and_congr_right
  intro hta
  apply forall_congr'
  intro b
  rw [← hmem]
  apply forall₂_congr
  intro hb htb
  rw [← Nat.not_lt, ← Nat.not_lt, horder b hb a ha htb hta]

end SyntaxGraph
