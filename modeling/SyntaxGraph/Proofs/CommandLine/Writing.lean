import SyntaxGraph.CommandLine.Workspace
import SyntaxGraph.Proofs.CommandLine.Paths

namespace SyntaxGraph.CommandLine

open Word (spelling ofText)

variable {ω : Type}

namespace Places

section

variable [DecidableEq ω] {p : Places ω} {l : Location ω}

theorem child_eq (p : Places ω) (l : Location ω) (name : ω) :
    p.child l name = { l with names := l.names ++ [name] } ∨
      ∃ n, l = { base := .above (n + 1) } ∧ p.working[n]? = some name ∧ p.child l name = { base := .above n } := by
  obtain ⟨⟨levels⟩, names⟩ := l
  cases names with
  | cons first rest => exact Or.inl rfl
  | nil =>
    cases levels with
    | zero => exact Or.inl rfl
    | succ n =>
      by_cases h : p.working[n]? = some name
      · exact Or.inr ⟨n, rfl, h, if_pos h⟩
      · exact Or.inl (if_neg h)

theorem child_ne (p : Places ω) (l : Location ω) (name : ω) : p.child l name ≠ l := by
  intro h
  rcases p.child_eq l name with hchild | ⟨n, rfl, _, hchild⟩
  · have hlen := congrArg (fun l => l.names.length) (hchild.symm.trans h)
    simp at hlen
  · have hlevels := congrArg (fun l => l.base.levels) (hchild.symm.trans h)
    simp at hlevels

theorem child_inj {name name' : ω} : p.child l name = p.child l name' ↔ name = name' := by
  refine ⟨fun h => ?_, congrArg _⟩
  rcases p.child_eq l name with hchild | ⟨n, rfl, hname, hchild⟩ <;>
    rcases p.child_eq _ name' with hchild' | ⟨n', hl, hname', hchild'⟩ <;>
      rw [hchild, hchild'] at h
  · simpa using h
  · simp at h
  · simp at h
  · simp only [Location.mk.injEq, Base.above.injEq, Nat.add_right_cancel_iff, and_true] at hl
    rw [hl, hname'] at hname
    exact (Option.some.inj hname).symm

end

theorem exists_start_join [Word ω] (p : Places ω) (directory : ω) : ∃ base, ∀ name, Path.SlashFree name →
    p.start (Path.join directory name) = base := by
  obtain ⟨front, hfront, hjoin⟩ := Path.exists_spelling_join directory
  rcases hfront with rfl | ⟨before, rfl⟩
  · refine ⟨{}, fun name h => ?_⟩
    have hhead : (spelling name).head? ≠ some '/' := fun heq => h (List.mem_of_head? heq)
    rw [start, if_neg]
    simpa [Path.startsWithSlash, hjoin] using hhead
  · refine ⟨if (before ++ ['/']).head? = some '/' then { base := .above p.working.length } else {},
      fun name _ => ?_⟩
    rw [start, Path.startsWithSlash, hjoin, List.head?_append_of_ne_nil _ (by simp)]
    simp only [decide_eq_true_iff]

end Places

namespace Workspace

section

variable [DecidableEq ω] {l l' : Location ω}

theorem lookup_filter_of_ne (files : List (Location ω × Content)) (h : l' ≠ l) :
    (files.filter (·.1 ≠ l)).lookup l' = files.lookup l' := by
  induction files with
  | nil => rfl
  | cons f files ih =>
    obtain ⟨m, c⟩ := f
    rw [List.filter_cons, List.lookup_cons]
    by_cases hm : m = l
    · have hne : l' ≠ m := fun heq => h (heq.trans hm)
      rw [if_neg (by simp [hm]), ih, beq_false_of_ne hne]
    · rw [if_pos (by simpa using hm), List.lookup_cons, ih]

theorem file?_put (w : Workspace ω) (l : Location ω) (c : Content) (l' : Location ω) :
    (w.put l c).file? l' = if l' = l then some c else w.file? l' := by
  unfold put file?
  rw [List.lookup_cons]
  by_cases h : l' = l
  · simp [h]
  · rw [if_neg h, beq_false_of_ne h]
    exact lookup_filter_of_ne w.files h

end

variable [DecidableEq ω] [Word ω]

section

variable {w w' : Workspace ω} {l l' : Location ω} {names : List ω} {name path : ω}

theorem step_eq_ok_iff : w.step l name = .ok l' ↔ w.isDirectory l = true ∧
    l' = if name = ofText "" ∨ name = ofText "." then l
      else if name = ofText ".." then w.parent l else w.child l name := by
  unfold step
  split
  · next hd =>
    split
    · simp [hd, eq_comm]
    · split <;> simp [hd, eq_comm]
  · next hd => split <;> simp [hd]

theorem step_congr (hd : w'.toPlaces = w.toPlaces) (h : w.step l name = .ok l') :
    w'.step l name = .ok l' := by
  rw [step_eq_ok_iff] at h ⊢
  rwa [hd]

theorem walk_cons_eq_ok_iff : w.walk l (name :: names) = .ok l' ↔
    ∃ m, w.step l name = .ok m ∧ w.walk m names = .ok l' := by
  unfold walk
  rw [List.foldlM_cons]
  cases w.step l name <;> simp [bind, Except.bind]

theorem walk_append_eq_ok_iff {others : List ω} : w.walk l (names ++ others) = .ok l' ↔
    ∃ m, w.walk l names = .ok m ∧ w.walk m others = .ok l' := by
  unfold walk
  rw [List.foldlM_append]
  cases List.foldlM w.step l names <;> simp [bind, Except.bind]

theorem walk_congr (hd : w'.toPlaces = w.toPlaces) (h : w.walk l names = .ok l') :
    w'.walk l names = .ok l' := by
  induction names generalizing l with
  | nil => exact h
  | cons name names ih =>
    obtain ⟨m, hs, hw⟩ := walk_cons_eq_ok_iff.mp h
    exact walk_cons_eq_ok_iff.mpr ⟨m, step_congr hd hs, ih hw⟩

theorem locate_congr (hd : w'.toPlaces = w.toPlaces) (h : w.locate path = .ok l) :
    w'.locate path = .ok l := by
  rw [locate, hd]
  exact walk_congr hd h

theorem target_eq_ok_iff_step : w.target path = .ok l ↔ ∃ name above directory,
    reversedComponents path = name :: above ∧ w.walk (w.start path) above.reverse = .ok directory ∧
      w.step directory name = .ok l ∧ ¬ (Path.endsWithSlash path = true ∨ w.isDirectory l = true) ∧
        ¬ (l = directory ∨ name = ofText "..") := by
  unfold target
  cases hc : reversedComponents path with
  | nil => simp [throw, throwThe, MonadExceptOf.throw]
  | cons name above =>
    dsimp only
    constructor
    · intro h
      cases hw : w.walk (w.start path) above.reverse with
      | error e =>
        rw [hw] at h
        cases h
      | ok directory =>
        cases hs : w.step directory name with
        | error e =>
          simp only [bind, Except.bind, hw, hs] at h
          cases h
        | ok l' =>
          simp only [bind, Except.bind, hw, hs] at h
          split at h
          · cases h
          · next hplace =>
            split at h
            · cases h
            · next hname =>
              cases h
              exact ⟨name, above, directory, rfl, hw, hs, hplace, hname⟩
    · rintro ⟨name', above', directory, heq, hwalk, hs, hplace, hname⟩
      cases heq
      simp only [hwalk, bind, Except.bind, hs]
      rw [if_neg hplace, if_neg hname]
      rfl

theorem step_child_iff : w.step l name = .ok l' ∧ ¬ (l' = l ∨ name = ofText "..") ↔
    w.isDirectory l = true ∧ name ∉ [ofText "", ofText ".", ofText ".."] ∧ l' = w.child l name := by
  have hchild := w.child_ne l name
  simp only [step_eq_ok_iff, List.mem_cons, List.not_mem_nil, or_false, not_or]
  constructor
  · rintro ⟨⟨hd, hl⟩, hne, hname⟩
    have hplain : ¬ (name = ofText "" ∨ name = ofText ".") := by
      intro h
      rw [if_pos h] at hl
      exact hne hl
    rw [if_neg hplain, if_neg hname] at hl
    rw [not_or] at hplain
    exact ⟨hd, ⟨hplain.1, hplain.2, hname⟩, hl⟩
  · rintro ⟨hd, ⟨hempty, hdot, hname⟩, rfl⟩
    exact ⟨⟨hd, by simp [hempty, hdot, hname]⟩, hchild, hname⟩

theorem target_eq_ok_iff : w.target path = .ok l ↔ Path.endsWithSlash path = false ∧
    ∃ name above directory, reversedComponents path = name :: above ∧
      w.walk (w.start path) above.reverse = .ok directory ∧ w.isDirectory directory = true ∧
      name ∉ [ofText "", ofText ".", ofText ".."] ∧ l = w.child directory name ∧ w.isDirectory l = false := by
  rw [target_eq_ok_iff_step]
  constructor
  · rintro ⟨name, above, directory, hc, hwalk, hs, hplace, hname⟩
    obtain ⟨hdir, hplain, hl⟩ := step_child_iff.mp ⟨hs, hname⟩
    simp only [not_or, Bool.not_eq_true] at hplace
    exact ⟨hplace.1, name, above, directory, hc, hwalk, hdir, hplain, hl, hplace.2⟩
  · rintro ⟨hslash, name, above, directory, hc, hwalk, hdir, hplain, hl, hfree⟩
    obtain ⟨hs, hname⟩ := step_child_iff.mpr ⟨hdir, hplain, hl⟩
    exact ⟨name, above, directory, hc, hwalk, hs, by simp [hslash, hfree], hname⟩

theorem target_congr (hd : w'.toPlaces = w.toPlaces) :
    w'.target path = .ok l ↔ w.target path = .ok l := by
  have hforward {w w' : Workspace ω} (hd : w'.toPlaces = w.toPlaces) (h : w.target path = .ok l) :
      w'.target path = .ok l := by
    obtain ⟨hslash, name, above, directory, hc, hwalk, hdir, hname, hl, hfree⟩ :=
      target_eq_ok_iff.mp h
    apply target_eq_ok_iff.mpr
    rw [hd]
    exact ⟨hslash, name, above, directory, hc, walk_congr hd hwalk, hdir, hname, hl, hfree⟩
  exact ⟨hforward hd.symm, hforward hd⟩

theorem readFile_of_locate {s : String} (hl : w.locate path = .ok l) (hd : w.isDirectory l = false)
    (hf : w.file? l = some (.text s)) : w.readFile path = .ok s := by
  simp only [readFile, hl, hd, hf, bind, Except.bind]
  rfl

theorem locate_of_target (h : w.target path = .ok l) : w.locate path = .ok l := by
  obtain ⟨hslash, name, above, d, hc, hwalk, hdir, hname, hl, _⟩ := target_eq_ok_iff.mp h
  obtain ⟨front, last, hparts, hlast⟩ := Path.exists_parts_last path
  have hne : last ≠ ofText "" := by
    intro hempty
    rcases hlast hempty with rfl | hends
    · rw [reversedComponents, Path.parts_of_slashFree (by simp [Path.SlashFree, Word.spelling_ofText_empty])] at hc
      simp at hc
    · cases hslash.symm.trans hends
  have hcomponents : reversedComponents path = last :: front.reverse := by
    rw [reversedComponents, hparts, List.reverse_append]
    simp [hne]
  obtain ⟨rfl, rfl⟩ := List.cons.inj (hc.symm.trans hcomponents)
  rw [List.reverse_reverse] at hwalk
  simp only [List.mem_cons, List.not_mem_nil, or_false, not_or] at hname
  have hs : w.step d name = .ok l := step_eq_ok_iff.mpr ⟨hdir, by simp [hname, hl]⟩
  rw [locate, hparts]
  exact walk_append_eq_ok_iff.mpr ⟨d, hwalk, walk_cons_eq_ok_iff.mpr ⟨l, hs, rfl⟩⟩

theorem readFile_of_target {s : String} (h : w.target path = .ok l) (hf : w.file? l = some (.text s)) :
    w.readFile path = .ok s := by
  obtain ⟨_, _, _, _, _, _, _, _, _, hfree⟩ := target_eq_ok_iff.mp h
  exact readFile_of_locate (locate_of_target h) hfree hf

theorem readFile_put (h : w.target path = .ok l) (s : String) : (w.put l (.text s)).readFile path = .ok s := by
  have hd : (w.put l (.text s)).toPlaces = w.toPlaces := rfl
  apply readFile_of_target ((target_congr hd).mpr h)
  rw [file?_put, if_pos rfl]

end

section

variable {w : Workspace ω} {directory : ω} {l : Location ω}

theorem exists_target_join (w : Workspace ω) (directory : ω) : ∃ base front, ∀ name l, name ≠ ofText "" →
    Path.SlashFree name → w.target (Path.join directory name) = .ok l →
      ∃ d, w.walk base front = .ok d ∧ l = w.child d name := by
  obtain ⟨base, hbase⟩ := w.exists_start_join directory
  obtain ⟨front, hfront⟩ := Path.exists_parts_join directory
  refine ⟨base, front, fun name l hne hfree ht => ?_⟩
  obtain ⟨_, last, above, d, hc, hwalk, _, _, hl, _⟩ := target_eq_ok_iff.mp ht
  have hcomponents : reversedComponents (Path.join directory name) = name :: front.reverse := by
    rw [reversedComponents, hfront name hfree, List.reverse_append]
    simp [hne]
  obtain ⟨rfl, rfl⟩ := List.cons.inj (hcomponents.symm.trans hc)
  rw [List.reverse_reverse, hbase name hfree] at hwalk
  exact ⟨d, hwalk, hl⟩

end

end Workspace

end SyntaxGraph.CommandLine
