import SyntaxGraph.CommandLine.Run
import SyntaxGraph.CommandLine.Workspace

namespace SyntaxGraph.CommandLine

section

variable {ω α β : Type} {x : Attempt (StateM (Workspace ω)) α} {f : α → Attempt (StateM (Workspace ω)) β}
  {w w' w'' : Workspace ω} {a : α} {b : β} {e : RunError}

theorem run_bind {x : StateM (Workspace ω) α} {f : α → StateM (Workspace ω) β} (h : x.run w = (a, w')) :
    (x >>= f).run w = (f a).run w' := by
  rw [StateT.run_bind, h]
  rfl

def Attempt.on (x : Attempt (StateM (Workspace ω)) α) (w : Workspace ω) : Except RunError α × Workspace ω :=
  x.run.run w

theorem on_bind_ok (h : x.on w = (.ok a, w')) : Attempt.on (x >>= f) w = (f a).on w' := by
  unfold Attempt.on at h ⊢
  rw [ExceptT.run_bind]
  exact run_bind h

theorem on_bind_error (h : x.on w = (.error e, w')) : Attempt.on (x >>= f) w = (.error e, w') := by
  unfold Attempt.on at h ⊢
  rw [ExceptT.run_bind]
  exact run_bind h

theorem of_on_bind_ok (h : Attempt.on (x >>= f) w = (.ok b, w'')) :
    ∃ a w', x.on w = (.ok a, w') ∧ (f a).on w' = (.ok b, w'') := by
  cases hx : x.on w with
  | mk result w' =>
    cases result with
    | error e =>
      rw [on_bind_error hx] at h
      cases h
    | ok a =>
      rw [on_bind_ok hx] at h
      exact ⟨a, w', rfl, h⟩

def Attempt.Reads (x : Attempt (StateM (Workspace ω)) α) : Prop :=
  ∀ w, (x.on w).2 = w

theorem Attempt.Reads.of_on_bind_ok (hx : Attempt.Reads x) (h : Attempt.on (x >>= f) w = (.ok b, w'')) :
    ∃ a, x.on w = (.ok a, w) ∧ (f a).on w = (.ok b, w'') := by
  obtain ⟨a, w', ha, hb⟩ := CommandLine.of_on_bind_ok h
  have hw := hx w
  rw [ha] at hw
  obtain rfl : w' = w := hw
  exact ⟨a, ha, hb⟩

theorem Attempt.reads_pure (a : α) : Attempt.Reads (pure a : Attempt (StateM (Workspace ω)) α) :=
  fun _ => rfl

theorem Attempt.Reads.on_bind_cases (hx : Attempt.Reads x) (w : Workspace ω) :
    (Attempt.on (x >>= f) w).2 = w ∨
      ∃ a, x.on w = (.ok a, w) ∧ Attempt.on (x >>= f) w = (f a).on w := by
  have hw := hx w
  cases h : x.on w with
  | mk result w' =>
    rw [h] at hw
    obtain rfl : w' = w := hw
    cases result with
    | error e => exact Or.inl (congrArg Prod.snd (on_bind_error h))
    | ok a => exact Or.inr ⟨a, rfl, on_bind_ok h⟩

theorem Attempt.Reads.bind (hx : Attempt.Reads x) (hf : ∀ a, Attempt.Reads (f a)) :
    Attempt.Reads (x >>= f) := by
  intro w
  rcases hx.on_bind_cases w with hw | ⟨a, _, hw⟩
  · exact hw
  · rw [hw]
    exact hf a w

theorem snd_on_bind (hf : ∀ a, Attempt.Reads (f a)) (w : Workspace ω) :
    (Attempt.on (x >>= f) w).2 = (x.on w).2 := by
  cases h : x.on w with
  | mk result w' =>
    cases result with
    | error e => rw [on_bind_error h]
    | ok a =>
      rw [on_bind_ok h]
      exact hf a w'

theorem on_liftM (result : Except RunError α) (w : Workspace ω) :
    Attempt.on (liftM result) w = (result, w) := by
  cases result <;> rfl

theorem reads_liftM (result : Except RunError α) :
    Attempt.Reads (liftM result : Attempt (StateM (Workspace ω)) α) := by
  intro w
  rw [on_liftM]

theorem on_lift (x : StateM (Workspace ω) α) (w : Workspace ω) :
    Attempt.on (ExceptT.lift x) w = (.ok (x.run w).1, (x.run w).2) :=
  rfl

theorem on_attempt (operation : StateM (Workspace ω) (Except FileError α)) (failed : FileError → RunError)
    (w : Workspace ω) :
    (attempt operation failed).on w = ((operation.run w).1.mapError failed, (operation.run w).2) := by
  refine (on_bind_ok (on_lift operation w)).trans ?_
  cases (operation.run w).1 <;> rfl

variable [Word ω] [DecidableEq ω]

theorem on_readFile (path : ω) (failed : FileError → RunError) (w : Workspace ω) :
    Attempt.on (attempt (Host.readFile path) failed) w = ((w.readFile path).mapError failed, w) :=
  on_attempt _ failed w

theorem on_writeFile (path : ω) (text : String) (failed : FileError → RunError) (w : Workspace ω) :
    Attempt.on (attempt (Host.writeFile path text) failed) w =
      ((w.writeFile path text).1.mapError failed, (w.writeFile path text).2) :=
  on_attempt _ failed w

theorem on_makeDirectory (path : ω) (failed : FileError → RunError) (w : Workspace ω) :
    Attempt.on (attempt (Host.makeDirectory path) failed) w =
      ((w.makeDirectory path).1.mapError failed, (w.makeDirectory path).2) :=
  on_attempt _ failed w

theorem on_pipeToDot (format : String) (path : ω) (text : String) (failed : FileError → RunError) (w : Workspace ω) :
    Attempt.on (attempt (Host.pipeToDot format path text) failed) w =
      ((w.pipeToDot format path text).1.mapError failed, (w.pipeToDot format path text).2) :=
  on_attempt _ failed w

end

end SyntaxGraph.CommandLine
