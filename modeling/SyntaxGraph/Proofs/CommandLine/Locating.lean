import SyntaxGraph.Proofs.CommandLine.Writing
import Mathlib.Data.List.Induction

namespace SyntaxGraph

open Word (ofText)

variable {ω : Type} [DecidableEq ω]

namespace Path

variable [Word ω] {path c : ω} {front dots : List ω}

theorem getLast?_components (hparts : parts path = front ++ c :: dots) (hc : ¬ (c = ofText "" ∨ c = ofText "."))
    (hdots : ∀ d ∈ dots, d = ofText "" ∨ d = ofText ".") : (components path).getLast? = some c := by
  have hnone : (dots.filter fun d => d ≠ ofText "" ∧ d ≠ ofText ".") = [] := by
    rw [List.filter_eq_nil_iff]
    intro d hd
    rw [decide_eq_true_iff, ← not_or, not_not]
    exact hdots d hd
  rw [not_or] at hc
  unfold components
  rw [hparts]
  cases front with
  | nil =>
    rw [List.nil_append]
    dsimp only
    rw [hnone, if_neg hc.1]
    rfl
  | cons first front =>
    rw [List.cons_append]
    dsimp only
    rw [List.filter_append, List.filter_cons_of_pos (by simpa using hc), hnone, ← List.append_assoc,
      List.getLast?_concat]

theorem exists_dots (names : List ω) : ∃ front dots, names = front ++ dots ∧
    (∀ d ∈ dots, d = ofText "" ∨ d = ofText ".") ∧
      (front = [] ∨ ∃ before c, front = before ++ [c] ∧ ¬ (c = ofText "" ∨ c = ofText ".")) := by
  induction names using List.reverseRecOn with
  | nil => exact ⟨[], [], rfl, fun d hd => absurd hd List.not_mem_nil, Or.inl rfl⟩
  | append_singleton names c ih =>
    by_cases hc : c = ofText "" ∨ c = ofText "."
    · obtain ⟨front, dots, rfl, hdots, hfront⟩ := ih
      refine ⟨front, dots ++ [c], List.append_assoc .., ?_, hfront⟩
      exact List.forall_mem_append.mpr ⟨hdots, List.forall_mem_singleton.mpr hc⟩
    · exact ⟨names ++ [c], [], (List.append_nil _).symm, fun d hd => absurd hd List.not_mem_nil,
        Or.inr ⟨names, c, rfl, hc⟩⟩

theorem exists_parts_of_nameless (h : fileName? path = none) : ∃ front dots,
    parts path = front ++ dots ∧ (∀ d ∈ dots, d = ofText "" ∨ d = ofText ".") ∧
      (front = [] ∨ ∃ before, front = before ++ [ofText ".."]) := by
  obtain ⟨front, dots, hparts, hdots, hfront⟩ := exists_dots (parts path)
  refine ⟨front, dots, hparts, hdots, hfront.imp_right ?_⟩
  rintro ⟨before, c, rfl, hc⟩
  rw [List.append_assoc] at hparts
  have hlast := getLast?_components hparts hc hdots
  simp only [fileName?, hlast, ite_eq_left_iff, reduceCtorEq, imp_false, not_not] at h
  obtain rfl : c = ofText ".." := h.resolve_left (not_or.mp hc).2
  exact ⟨before, rfl⟩

end Path

namespace CommandLine

theorem Places.names_start {ω : Type} [Word ω] (p : Places ω) (path : ω) : (p.start path).names = [] := by
  unfold start
  split <;> rfl

namespace Workspace

section

variable {w w' w'' : Workspace ω} {l : Location ω}

/-- There may be further directories, but no file has changed and none has become a directory. -/
structure Grows (w' w : Workspace ω) : Prop where
  files : w'.files = w.files
  working : w'.working = w.working
  kept : ∀ l, w.isDirectory l = true → w'.isDirectory l = true
  free : ∀ l, w'.isDirectory l = true → w.isDirectory l = true ∨ w.file? l = none

theorem Grows.refl (w : Workspace ω) : w.Grows w :=
  ⟨rfl, rfl, fun _ h => h, fun _ h => Or.inl h⟩

theorem Grows.file? (h : w'.Grows w) (l : Location ω) : w'.file? l = w.file? l :=
  congrArg (List.lookup l) h.files

theorem Grows.trans (h' : w''.Grows w') (h : w'.Grows w) : w''.Grows w where
  files := h'.files.trans h.files
  working := h'.working.trans h.working
  kept l hl := h'.kept l (h.kept l hl)
  free l hl := by
    rcases h'.free l hl with hold | hfree
    · exact h.free l hold
    · exact Or.inr ((h.file? l).symm.trans hfree)

theorem isDirectory_cons (w : Workspace ω) (l m : Location ω) :
    { w with directories := l :: w.directories }.isDirectory m = true ↔ m = l ∨ w.isDirectory m = true := by
  simp [Places.isDirectory, or_left_comm]

theorem Grows.child (h : w'.Grows w) (l : Location ω) (name : ω) : w'.child l name = w.child l name := by
  unfold Places.child
  rw [h.working]

theorem Grows.parent (h : w'.Grows w) (l : Location ω) : w'.parent l = w.parent l := by
  unfold Places.parent
  rw [h.working]

def Entered (w : Workspace ω) (l : Location ω) : Prop :=
  ∀ n < l.names.length, w.isDirectory { l with names := l.names.take n } = true

theorem entered_of_nil (h : l.names = []) : w.Entered l := by
  intro n hn
  rw [h] at hn
  cases hn

theorem Entered.isDirectory_parent (h : w.Entered l) (hd : w.isDirectory l = true) :
    w.isDirectory (w.parent l) = true := by
  obtain ⟨base, names⟩ := l
  cases names with
  | nil => rfl
  | cons first rest =>
    have hlt : rest.length < (first :: rest).length := Nat.lt_succ_self _
    have hparent := h rest.length hlt
    rw [Places.parent, List.dropLast_eq_take]
    exact hparent

theorem Entered.parent (h : w.Entered l) : w.Entered (w.parent l) := by
  obtain ⟨base, names⟩ := l
  cases names with
  | nil => exact entered_of_nil rfl
  | cons first rest =>
    intro n hn
    rw [Places.parent, List.length_dropLast] at hn
    have hlt : n < (first :: rest).length := Nat.lt_of_lt_pred hn
    have habove := h n hlt
    rw [Places.parent, List.dropLast_eq_take, List.take_take]
    rwa [Nat.min_eq_left (Nat.le_of_lt hn)]

theorem Entered.child (h : w.Entered l) (hd : w.isDirectory l = true) (name : ω) :
    w.Entered (w.child l name) := by
  rcases w.child_eq l name with hchild | ⟨n, _, _, hchild⟩
  · intro n hn
    rw [hchild] at hn ⊢
    rw [List.length_append, List.length_singleton] at hn
    dsimp only
    rw [List.take_append_of_le_length (Nat.le_of_lt_succ hn)]
    rcases Nat.lt_succ_iff_lt_or_eq.mp hn with hlt | rfl
    · exact h n hlt
    · rwa [List.take_length]
  · exact entered_of_nil (by rw [hchild])

end

variable [Word ω]

section

variable {w w' w'' : Workspace ω} {l l' : Location ω} {names : List ω} {name path : ω} {s : String}

theorem readFile_eq_ok_iff : w.readFile path = .ok s ↔
    ∃ l, w.locate path = .ok l ∧ w.isDirectory l = false ∧ w.file? l = some (.text s) := by
  constructor
  · intro h
    unfold readFile at h
    cases hl : w.locate path with
    | error e =>
      rw [hl] at h
      cases h
    | ok l =>
      simp only [hl, bind, Except.bind] at h
      cases hd : w.isDirectory l with
      | true =>
        rw [hd] at h
        cases h
      | false =>
        cases hf : w.file? l with
        | none =>
          rw [hd, hf] at h
          cases h
        | some content =>
          rw [hd, hf] at h
          cases content with
          | bytes => cases h
          | text t =>
            cases h
            exact ⟨l, rfl, hd, hf⟩
  · rintro ⟨l, hl, hd, hf⟩
    exact readFile_of_locate hl hd hf

theorem grows_makeOne (w : Workspace ω) (path : ω) : (w.makeOne path).2.Grows w := by
  unfold makeOne
  split
  · exact .refl w
  · split
    · exact .refl w
    · next l _ =>
      split
      · exact .refl w
      · next hfree =>
        rw [not_or, Option.not_isSome_iff_eq_none] at hfree
        refine ⟨rfl, rfl, fun m hm => (isDirectory_cons w l m).mpr (Or.inr hm), fun m hm => ?_⟩
        rcases (isDirectory_cons w l m).mp hm with rfl | hold
        · exact Or.inr hfree.2
        · exact Or.inl hold

theorem grows_ensureOne (w : Workspace ω) (path : ω) : (w.ensureOne path).2.Grows w := by
  have hmade := grows_makeOne w path
  unfold ensureOne
  split
  · next w' hw' =>
    rw [hw'] at hmade
    split <;> exact hmade
  · exact hmade

theorem grows_makeDirectories (w : Workspace ω) (root : List Char) (path : ω) (above : List ω) :
    (w.makeDirectories root path above).2.Grows w := by
  induction above generalizing w path with
  | nil => exact grows_ensureOne w path
  | cons name above ih =>
    have hensured := grows_ensureOne w path
    unfold makeDirectories
    split
    · next w₁ hw₁ =>
      rw [hw₁] at hensured
      have houter := ih w₁ (Word.ofSpelling (root ++ ['/'].intercalate ((name :: above).reverse.map Word.spelling)))
      dsimp only
      split
      · next w₂ hw₂ =>
        rw [hw₂] at houter
        exact (grows_ensureOne w₂ path).trans (houter.trans hensured)
      · exact houter.trans hensured
    · exact hensured

theorem grows_makeDirectory {r : Except FileError Unit} (h : w.makeDirectory path = (r, w')) : w'.Grows w := by
  obtain rfl : (w.makeDirectory path).2 = w' := congrArg Prod.snd h
  exact grows_makeDirectories w _ path _

theorem Grows.start (h : w'.Grows w) (path : ω) : w'.start path = w.start path := by
  unfold Places.start
  rw [h.working]

theorem Grows.step (h : w'.Grows w) (hs : w.step l name = .ok l') : w'.step l name = .ok l' := by
  rw [step_eq_ok_iff] at hs ⊢
  rw [h.parent, h.child]
  exact ⟨h.kept l hs.1, hs.2⟩

theorem Grows.walk (h : w'.Grows w) (hw : w.walk l names = .ok l') : w'.walk l names = .ok l' := by
  induction names generalizing l with
  | nil => exact hw
  | cons name names ih =>
    obtain ⟨m, hs, hw⟩ := walk_cons_eq_ok_iff.mp hw
    exact walk_cons_eq_ok_iff.mpr ⟨m, h.step hs, ih hw⟩

theorem Grows.locate (h : w'.Grows w) (hl : w.locate path = .ok l) : w'.locate path = .ok l := by
  rw [Workspace.locate, h.start]
  exact h.walk hl

theorem Grows.readFile (h : w'.Grows w) (hr : w.readFile path = .ok s) : w'.readFile path = .ok s := by
  obtain ⟨l, hl, hd, hf⟩ := readFile_eq_ok_iff.mp hr
  refine readFile_of_locate (h.locate hl) ?_ ((h.file? l).trans hf)
  rw [← Bool.not_eq_true] at hd ⊢
  intro hd'
  rcases h.free l hd' with hold | hfree
  · exact hd hold
  · cases hf.symm.trans hfree

end

section

variable {w : Workspace ω} {l l' : Location ω} {names dots : List ω} {name path : ω} {s : String}

theorem Entered.step (h : w.Entered l) (hs : w.step l name = .ok l') : w.Entered l' := by
  obtain ⟨hd, rfl⟩ := step_eq_ok_iff.mp hs
  split
  · exact h
  · split
    · exact h.parent
    · exact h.child hd name

theorem Entered.walk (h : w.Entered l) (hw : w.walk l names = .ok l') : w.Entered l' := by
  induction names generalizing l with
  | nil =>
    cases hw
    exact h
  | cons name names ih =>
    obtain ⟨m, hs, hw⟩ := walk_cons_eq_ok_iff.mp hw
    exact ih (h.step hs) hw

theorem eq_of_walk_dots (hdots : ∀ d ∈ dots, d = ofText "" ∨ d = ofText ".") (hw : w.walk l dots = .ok l') : l' = l := by
  induction dots generalizing l with
  | nil =>
    cases hw
    rfl
  | cons d dots ih =>
    obtain ⟨hd, hrest⟩ := List.forall_mem_cons.mp hdots
    obtain ⟨m, hs, hw⟩ := walk_cons_eq_ok_iff.mp hw
    obtain ⟨_, hm⟩ := step_eq_ok_iff.mp hs
    rw [if_pos hd] at hm
    exact (ih hrest hw).trans hm

theorem isDirectory_of_nameless (h : Path.fileName? path = none) (hl : w.locate path = .ok l) :
    w.isDirectory l = true := by
  obtain ⟨front, dots, hparts, hdots, hfront⟩ := Path.exists_parts_of_nameless h
  rw [locate, hparts] at hl
  obtain ⟨m, hwalk, hrest⟩ := walk_append_eq_ok_iff.mp hl
  obtain rfl := eq_of_walk_dots hdots hrest
  rcases hfront with rfl | ⟨before, rfl⟩
  · cases hwalk
    rw [Places.isDirectory, Places.names_start]
    rfl
  · obtain ⟨m, hbefore, hlast⟩ := walk_append_eq_ok_iff.mp hwalk
    obtain ⟨l', hs, hend⟩ := walk_cons_eq_ok_iff.mp hlast
    cases hend
    obtain ⟨hd, rfl⟩ := step_eq_ok_iff.mp hs
    rw [if_neg (by simp [Word.ofText_inj]), if_pos rfl]
    exact ((entered_of_nil (w.names_start path)).walk hbefore).isDirectory_parent hd

theorem exists_stem_of_readFile (hr : w.readFile path = .ok s) : ∃ stem, Path.stem? path = some stem := by
  obtain ⟨l, hl, hd, _⟩ := readFile_eq_ok_iff.mp hr
  unfold Path.stem?
  cases hname : Path.fileName? path with
  | none => cases hd.symm.trans (isDirectory_of_nameless hname hl)
  | some name => exact ⟨_, rfl⟩

end

end Workspace

end CommandLine

end SyntaxGraph
