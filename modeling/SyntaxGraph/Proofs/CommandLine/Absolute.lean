import SyntaxGraph.Proofs.CommandLine.Locating

namespace SyntaxGraph.CommandLine

open Word (ofText)

variable {ω : Type}

namespace Places

variable {p : Places ω} {l l' : Location ω} {name : ω}

structure Nearest (p : Places ω) (l : Location ω) : Prop where
  levels_le : l.base.levels ≤ p.working.length
  head : ∀ n, l.base.levels = n + 1 → ∀ name, p.working[n]? = some name → l.names.head? ≠ some name

theorem nearest_of_nil (h : l.names = []) (hl : l.base.levels ≤ p.working.length) : p.Nearest l where
  levels_le := hl
  head n _ name _ := by rw [h]; simp

theorem Nearest.parent (h : p.Nearest l) : p.Nearest (p.parent l) := by
  obtain ⟨⟨levels⟩, names⟩ := l
  cases names with
  | nil => exact nearest_of_nil rfl (Nat.min_le_right _ _)
  | cons first rest =>
    refine ⟨h.levels_le, fun n hn name hname hhead => h.head n hn name hname ?_⟩
    cases rest with
    | nil => simp [Places.parent] at hhead
    | cons second rest => simpa [Places.parent] using hhead

theorem reverse_drop {names : List ω} {n : ℕ} (h : names[n]? = some name) :
    (names.drop n).reverse = (names.drop (n + 1)).reverse ++ [name] := by
  obtain ⟨hn, rfl⟩ := List.getElem?_eq_some_iff.mp h
  rw [List.drop_eq_getElem_cons hn, List.reverse_cons]

theorem absolute_parent (p : Places ω) (l : Location ω) : p.absolute (p.parent l) = (p.absolute l).dropLast := by
  obtain ⟨⟨levels⟩, names⟩ := l
  cases names with
  | cons first rest => rw [absolute, absolute, List.dropLast_append_of_ne_nil (List.cons_ne_nil _ _), parent]
  | nil =>
    rw [absolute, absolute, parent, List.append_nil, List.append_nil]
    dsimp only
    by_cases h : levels < p.working.length
    · rw [reverse_drop (List.getElem?_eq_getElem h), List.dropLast_concat, Nat.min_eq_left h]
    · have hle := Nat.le_of_not_lt h
      rw [Nat.min_eq_right (Nat.le_succ_of_le hle), List.drop_eq_nil_of_le hle, List.drop_length]
      rfl

theorem absolute_ne_of_lt (h' : p.Nearest l') (hlt : l.base.levels < l'.base.levels) :
    p.absolute l ≠ p.absolute l' := by
  intro heq
  obtain ⟨⟨levels'⟩, names'⟩ := l'
  obtain ⟨n, rfl⟩ : ∃ n, levels' = n + 1 := ⟨levels' - 1, (Nat.succ_pred (Nat.ne_zero_of_lt hlt)).symm⟩
  have hn : n < p.working.length := h'.levels_le
  -- The way down to the nearer location goes through the working directory's own way.
  have hdrop : ∃ rest, (p.working.drop l.base.levels).reverse =
      (p.working.drop (n + 1)).reverse ++ p.working[n] :: rest := by
    have hle : l.base.levels ≤ n := Nat.le_of_lt_succ hlt
    refine ⟨((p.working.drop l.base.levels).take (n - l.base.levels)).reverse, ?_⟩
    rw [← List.singleton_append, ← List.append_assoc, ← reverse_drop (List.getElem?_eq_getElem hn),
      ← List.reverse_append]
    congr 1
    have hsplit := List.take_append_drop (n - l.base.levels) (p.working.drop l.base.levels)
    rwa [List.drop_drop, Nat.add_sub_cancel' hle, eq_comm] at hsplit
  obtain ⟨rest, hrest⟩ := hdrop
  rw [absolute, absolute, hrest, List.append_assoc, List.cons_append] at heq
  have hnames := List.append_cancel_left heq
  refine h'.head n rfl _ (List.getElem?_eq_getElem hn) ?_
  rw [← hnames]
  rfl

theorem absolute_inj (h : p.Nearest l) (h' : p.Nearest l') : p.absolute l = p.absolute l' ↔ l = l' := by
  refine ⟨fun heq => ?_, congrArg _⟩
  rcases Nat.lt_trichotomy l.base.levels l'.base.levels with hlt | hlevels | hlt
  · exact absurd heq (absolute_ne_of_lt h' hlt)
  · rw [absolute, absolute, hlevels] at heq
    obtain ⟨⟨levels⟩, names⟩ := l
    obtain ⟨⟨levels'⟩, names'⟩ := l'
    cases hlevels
    exact congrArg _ (List.append_cancel_left heq)
  · exact absurd heq.symm (absolute_ne_of_lt h hlt)

theorem nearest_start [Word ω] (p : Places ω) (path : ω) : p.Nearest (p.start path) := by
  refine nearest_of_nil (p.names_start path) ?_
  unfold start
  split
  · exact Nat.le_refl _
  · exact Nat.zero_le _

theorem absolute_start [Word ω] (p : Places ω) (path : ω) :
    p.absolute (p.start path) = if Path.startsWithSlash path then [] else p.working.reverse := by
  unfold start
  split <;> simp [absolute]

variable [DecidableEq ω]

theorem Nearest.child (h : p.Nearest l) (name : ω) : p.Nearest (p.child l name) := by
  obtain ⟨⟨levels⟩, names⟩ := l
  cases names with
  | cons first rest => exact ⟨h.levels_le, h.head⟩
  | nil =>
    cases levels with
    | zero => exact ⟨h.levels_le, fun n hn => by cases hn⟩
    | succ n =>
      unfold Places.child
      dsimp only
      split
      · exact nearest_of_nil rfl (Nat.le_of_succ_le h.levels_le)
      · next hname =>
        refine ⟨h.levels_le, fun m hm other hother hhead => hname ?_⟩
        obtain rfl := Nat.succ.inj hm
        rw [hother]
        simpa using hhead.symm

theorem absolute_child (p : Places ω) (l : Location ω) (name : ω) :
    p.absolute (p.child l name) = p.absolute l ++ [name] := by
  rcases p.child_eq l name with hchild | ⟨n, rfl, hname, hchild⟩
  · rw [hchild, absolute, absolute, List.append_assoc]
  · rw [hchild, absolute, absolute, List.append_nil, List.append_nil, reverse_drop hname]

variable [Word ω]

def follow (names : List ω) (name : ω) : List ω :=
  if name = ofText "" ∨ name = ofText "." then names
  else if name = ofText ".." then names.dropLast
  else names ++ [name]

def resolve (p : Places ω) (path : ω) : List ω :=
  (Path.parts path).foldl follow (if Path.startsWithSlash path then [] else p.working.reverse)

end Places

namespace Workspace

variable [DecidableEq ω] [Word ω] {w : Workspace ω} {l l' : Location ω} {names : List ω} {name path other : ω}

theorem absolute_of_step (h : w.Nearest l) (hs : w.step l name = .ok l') :
    w.Nearest l' ∧ w.absolute l' = Places.follow (w.absolute l) name := by
  obtain ⟨_, rfl⟩ := step_eq_ok_iff.mp hs
  unfold Places.follow
  split
  · exact ⟨h, rfl⟩
  · split
    · exact ⟨h.parent, w.absolute_parent l⟩
    · exact ⟨h.child name, w.absolute_child l name⟩

theorem absolute_of_walk (h : w.Nearest l) (hw : w.walk l names = .ok l') :
    w.Nearest l' ∧ w.absolute l' = names.foldl Places.follow (w.absolute l) := by
  induction names generalizing l with
  | nil =>
    cases hw
    exact ⟨h, rfl⟩
  | cons name names ih =>
    obtain ⟨m, hs, hw⟩ := walk_cons_eq_ok_iff.mp hw
    obtain ⟨hm, habsolute⟩ := absolute_of_step h hs
    rw [List.foldl_cons, ← habsolute]
    exact ih hm hw

theorem absolute_of_locate (hl : w.locate path = .ok l) : w.Nearest l ∧ w.absolute l = w.resolve path := by
  rw [Places.resolve, ← w.absolute_start path]
  exact absolute_of_walk (w.nearest_start path) hl

theorem locate_inj (hl : w.locate path = .ok l) (hl' : w.locate other = .ok l') :
    l = l' ↔ w.resolve path = w.resolve other := by
  obtain ⟨hnearest, habsolute⟩ := absolute_of_locate hl
  obtain ⟨hnearest', habsolute'⟩ := absolute_of_locate hl'
  rw [← habsolute, ← habsolute', Places.absolute_inj hnearest hnearest']

example : let w : Workspace := { working := ["proj", "home"] }
    w.target "../proj/x.json" = w.target "x.json" ∧ w.target "/home/proj/x.json" = w.target "x.json" := by
  decide +kernel

end Workspace

end SyntaxGraph.CommandLine
