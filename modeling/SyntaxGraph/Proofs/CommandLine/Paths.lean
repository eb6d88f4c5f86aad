import SyntaxGraph.CommandLine.Run
import SyntaxGraph.Proofs.Splitting

namespace SyntaxGraph

open Word (IsLetter spelling ofSpelling ofText)

variable {ω : Type} [Word ω]

namespace Path

def SlashFree (name : ω) : Prop :=
  '/' ∉ spelling name

theorem spelling_ofSpelling_of_subset {letters : List Char} {w : ω} (h : letters ⊆ spelling w) :
    spelling (ofSpelling letters : ω) = letters :=
  Word.spelling_ofSpelling fun _ hc => Word.isLetter_of_mem (h hc)

theorem slashFree_of_mem_parts {path part : ω} (h : part ∈ parts path) : SlashFree part := by
  obtain ⟨piece, hpiece, rfl⟩ := List.mem_map.mp h
  unfold SlashFree
  rw [spelling_ofSpelling_of_subset (subset_of_mem_splitOn hpiece)]
  exact not_mem_of_mem_splitOn hpiece

theorem splitAtDot_subset (name : ω) : spelling (splitAtDot name).1 ⊆ spelling name := by
  unfold splitAtDot
  dsimp only
  split
  · exact List.Subset.refl _
  · exact List.Subset.refl _
  · next c before hne hd =>
    have hsuffix := List.dropWhile_suffix (fun d => decide (d ≠ '.')) (l := (spelling name).reverse)
    rw [hd] at hsuffix
    have hsubset : before.reverse ⊆ spelling name := by
      intro d hmem
      exact List.mem_reverse.mp (hsuffix.subset (List.mem_cons_of_mem _ (List.mem_reverse.mp hmem)))
    rwa [spelling_ofSpelling_of_subset hsubset]

section

variable [DecidableEq ω]

theorem mem_parts_of_mem_components {path part : ω} (h : part ∈ components path) : part ∈ parts path := by
  unfold components at h
  cases hp : parts path with
  | nil => simp [hp] at h
  | cons first rest =>
    rw [hp] at h
    rcases List.mem_append.mp h with h | h
    · split at h
      · cases h
      · rw [List.mem_singleton.mp h]
        exact List.mem_cons_self
    · exact List.mem_cons_of_mem _ (List.mem_of_mem_filter h)

theorem slashFree_stem {path stem : ω} (h : stem? path = some stem) : SlashFree stem := by
  obtain ⟨name, hname, rfl⟩ := Option.map_eq_some_iff.mp h
  have hparts : name ∈ parts path := by
    unfold fileName? at hname
    cases hlast : (components path).getLast? with
    | none => simp [hlast] at hname
    | some last =>
      simp only [hlast] at hname
      split at hname
      · cases hname
      · cases hname
        exact mem_parts_of_mem_components (List.mem_of_getLast? hlast)
  exact fun hmem => slashFree_of_mem_parts hparts (splitAtDot_subset name hmem)

end

theorem parts_of_slashFree {name : ω} (h : SlashFree name) : parts name = [name] := by
  unfold parts
  rw [List.splitOn_eq_singleton h]
  simp [Word.ofSpelling_spelling]

theorem endsWithSlash_iff {path : ω} :
    endsWithSlash path = true ↔ ∃ before, spelling path = before ++ ['/'] := by
  rw [endsWithSlash, decide_eq_true_iff, List.getLast?_eq_some_iff]

theorem exists_spelling_join (directory : ω) : ∃ front : List Char,
    (front = [] ∨ ∃ before, front = before ++ ['/']) ∧
      ∀ name, spelling (join directory name) = front ++ spelling name := by
  have hletters {front : List Char} (hfront : front ⊆ '/' :: spelling directory) (name : ω) :
      spelling (ofSpelling (front ++ spelling name) : ω) = front ++ spelling name := by
    apply Word.spelling_ofSpelling
    intro c hc
    rcases List.mem_append.mp hc with hc | hc
    · rcases List.mem_cons.mp (hfront hc) with rfl | hc
      · exact Word.isLetter_slash
      · exact Word.isLetter_of_mem hc
    · exact Word.isLetter_of_mem hc
  have hdirectory : spelling directory ⊆ '/' :: spelling directory := List.subset_cons_self _ _
  by_cases h : spelling directory = [] ∨ endsWithSlash directory = true
  · refine ⟨spelling directory, h.imp_right endsWithSlash_iff.mp, fun name => ?_⟩
    rw [join, if_pos h]
    exact hletters hdirectory name
  · refine ⟨spelling directory ++ ['/'], Or.inr ⟨_, rfl⟩, fun name => ?_⟩
    rw [join, if_neg h, ← List.singleton_append, ← List.append_assoc]
    exact hletters (List.append_subset.mpr ⟨hdirectory, by simp⟩) name

theorem exists_parts_join (directory : ω) :
    ∃ front, ∀ name, SlashFree name → parts (join directory name) = front ++ [name] := by
  obtain ⟨front, hfront, hjoin⟩ := exists_spelling_join directory
  rcases hfront with rfl | ⟨before, rfl⟩
  · refine ⟨[], fun name h => ?_⟩
    rw [← parts_of_slashFree h, parts, hjoin]
    rfl
  · refine ⟨(before.splitOn '/').map ofSpelling, fun name h => ?_⟩
    rw [← parts_of_slashFree h, parts, hjoin, List.append_assoc, List.singleton_append,
      List.splitOn_append_cons_self, List.map_append]
    rfl

theorem exists_parts_last (path : ω) : ∃ front last, parts path = front ++ [last] ∧
    (last = ofText "" → path = ofText "" ∨ endsWithSlash path = true) := by
  by_cases h : '/' ∈ spelling path
  · obtain ⟨after, before, hreverse, hfree⟩ := List.eq_append_cons_of_mem (List.mem_reverse.mpr h)
    have hlist : spelling path = before.reverse ++ '/' :: after.reverse := by
      have hback := congrArg List.reverse hreverse
      simpa using hback
    have hlast : after.reverse.splitOn '/' = [after.reverse] :=
      List.splitOn_eq_singleton fun hmem => hfree (List.mem_reverse.mp hmem)
    refine ⟨(before.reverse.splitOn '/').map ofSpelling, ofSpelling after.reverse, ?_, fun hempty => ?_⟩
    · unfold parts
      rw [hlist, List.splitOn_append_cons_self, hlast, List.map_append]
      rfl
    · refine Or.inr (endsWithSlash_iff.mpr ⟨before.reverse, ?_⟩)
      have hsubset : after.reverse ⊆ spelling path := by
        rw [hlist]
        exact List.subset_append_of_subset_right _ (List.subset_cons_self _ _)
      rw [Word.eq_ofText_empty_iff, spelling_ofSpelling_of_subset hsubset] at hempty
      rw [hlist, hempty]
  · refine ⟨[], path, ?_, Or.inl⟩
    rw [parts_of_slashFree h]
    rfl

end Path

end SyntaxGraph
