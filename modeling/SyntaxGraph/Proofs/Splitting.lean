import Mathlib.Data.List.Basic

namespace SyntaxGraph

variable {α : Type} [DecidableEq α]

theorem not_mem_of_mem_splitOn {c : α} {as piece : List α} (h : piece ∈ as.splitOn c) : c ∉ piece := by
  induction as generalizing piece with
  | nil =>
    rw [List.splitOn_nil, List.mem_singleton] at h
    simp [h]
  | cons d as ih =>
    rw [List.splitOn_cons_eq_if_modifyHead] at h
    split at h
    · rcases List.mem_cons.mp h with rfl | h
      · exact List.not_mem_nil
      · exact ih h
    · next hd =>
      cases hs : as.splitOn c with
      | nil => simp [hs] at h
      | cons first rest =>
        rw [hs] at h ih
        rcases List.mem_cons.mp h with rfl | h
        · have hne : c ≠ d := fun heq => hd (by simp [heq])
          rw [List.mem_cons, not_or]
          exact ⟨hne, ih List.mem_cons_self⟩
        · exact ih (List.mem_cons_of_mem first h)

theorem subset_of_mem_splitOn {c : α} {as piece : List α} (h : piece ∈ as.splitOn c) : piece ⊆ as := by
  induction as generalizing piece with
  | nil =>
    rw [List.splitOn_nil, List.mem_singleton] at h
    simp [h]
  | cons d as ih =>
    rw [List.splitOn_cons_eq_if_modifyHead] at h
    split at h
    · rcases List.mem_cons.mp h with rfl | h
      · exact List.nil_subset _
      · exact List.subset_cons_of_subset d (ih h)
    · cases hs : as.splitOn c with
      | nil => simp [hs] at h
      | cons first rest =>
        rw [hs] at h ih
        rcases List.mem_cons.mp h with rfl | h
        · exact List.cons_subset_cons d (ih List.mem_cons_self)
        · exact List.subset_cons_of_subset d (ih (List.mem_cons_of_mem first h))

theorem length_splitOn (c : α) (as : List α) : (as.splitOn c).length = as.count c + 1 := by
  induction as with
  | nil => rfl
  | cons d as ih =>
    rw [List.splitOn_cons_eq_if_modifyHead, List.count_cons]
    split <;> simp [ih]

theorem splitOn_intercalate_eq_flatMap (c : α) {pieces : List (List α)} (h : pieces ≠ []) :
    ([c].intercalate pieces).splitOn c = pieces.flatMap (List.splitOn c) := by
  induction pieces with
  | nil => exact absurd rfl h
  | cons first rest ih =>
    cases rest with
    | nil => simp
    | cons second rest =>
      have hsplit := ih (List.cons_ne_nil second rest)
      rw [List.flatMap_cons, ← hsplit, List.intercalate_cons_cons, List.append_assoc,
        List.singleton_append, List.splitOn_append_cons_self]

theorem flatMap_splitOn_of_not_mem {c : α} {pieces : List (List α)} (h : ∀ piece ∈ pieces, c ∉ piece) :
    pieces.flatMap (List.splitOn c) = pieces := by
  induction pieces with
  | nil => rfl
  | cons first rest ih =>
    obtain ⟨hfirst, hrest⟩ := List.forall_mem_cons.mp h
    rw [List.flatMap_cons, List.splitOn_eq_singleton hfirst, ih hrest]
    rfl

end SyntaxGraph
