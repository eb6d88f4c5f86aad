import SyntaxGraph.Proofs.CommandLine.Delivery

namespace SyntaxGraph.CommandLine

open Word (text)

variable {ω : Type}

theorem isEmpty_files {a : Arguments ω} (hfiles : 2 ≤ a.files.length) : a.files.isEmpty = false := by
  cases hf : a.files with
  | nil => simp [hf] at hfiles
  | cons path paths => rfl

variable [Word ω] [DecidableEq ω]

def Workspace.source (w : Workspace ω) (asked : Option Language) (path : ω) :
    Except RunError SourceText :=
  ((w.readFile path).mapError (.unreadableFile (text path))).map fun code =>
    ⟨text path, chooseLanguage asked path, code⟩

structure Prepared (a : Arguments ω) (w : Workspace ω) where
  settings : Settings
  kinds : Hierarchy
  asked : Option Language
  settings_eq : (readSettings a.config).on w = (.ok settings, w)
  kinds_eq : settings.kinds = .ok kinds
  asked_eq : a.language.mapM languageOf = .ok asked

namespace Prepared

variable {a : Arguments ω} {w : Workspace ω}

def draw (c : Prepared a w) (t : SourceText) : Except PipelineError String :=
  Pipeline.picture { registry := .standard c.settings c.kinds }
    (a.outputFormat.textFormat c.settings.layout) t

def picture (c : Prepared a w) (path : ω) : Except RunError String := do
  (c.draw (← w.source c.asked path)).mapError .pipeline

def results (c : Prepared a w) (directory : ω) : List (Except RunError String × ω) :=
  a.files.map fun path => (c.picture path, targetOf directory a.outputFormat path)

end Prepared

section

variable {a : Arguments ω} {w w' : Workspace ω} {asked : Option Language} {paths : List ω}
  {texts : List SourceText}

theorem on_readFile_source (asked : Option Language) (path : ω) (w : Workspace ω) :
    Attempt.on (do
      let code ← attempt (Host.readFile path) (.unreadableFile (text path))
      return (⟨text path, chooseLanguage asked path, code⟩ : SourceText)) w = (w.source asked path, w) := by
  have hread := on_readFile path (.unreadableFile (text path)) w
  unfold Workspace.source
  cases hr : w.readFile path with
  | error e =>
    rw [hr] at hread
    exact on_bind_error hread
  | ok code =>
    rw [hr] at hread
    exact on_bind_ok hread

theorem on_readFiles (asked : Option Language) (paths : List ω) (w : Workspace ω) :
    (readFiles asked paths).on w = (paths.mapM (w.source asked), w) := by
  unfold readFiles
  induction paths with
  | nil => rfl
  | cons path paths ih =>
    have hfirst := on_readFile_source asked path w
    rw [List.mapM_cons, List.mapM_cons]
    cases hs : w.source asked path with
    | error e =>
      rw [hs] at hfirst
      exact on_bind_error hfirst
    | ok t =>
      rw [hs] at hfirst
      refine (on_bind_ok hfirst).trans ?_
      cases hrest : paths.mapM (w.source asked) with
      | error e =>
        rw [hrest] at ih
        exact on_bind_error ih
      | ok ts =>
        rw [hrest] at ih
        exact on_bind_ok ih

theorem reads_readSettings (config : Option ω) : Attempt.Reads (ω := ω) (readSettings config) := by
  intro w
  cases config with
  | none => rfl
  | some path =>
    have hread := on_readFile path (.unreadableConfig (text path)) w
    unfold readSettings
    dsimp only
    cases hr : w.readFile path with
    | error e =>
      rw [hr] at hread
      rw [on_bind_error hread]
    | ok text =>
      rw [hr] at hread
      rw [on_bind_ok hread]
      cases Settings.read text <;> rfl

theorem Prepared.map_picture (c : Prepared a w) (target : ω → ω)
    (h : paths.mapM (w.source c.asked) = .ok texts) :
    (paths.map fun path => (c.picture path, target path)) =
      ((texts.map c.draw).zip (paths.map target)).map fun r => (r.1.mapError .pipeline, r.2) := by
  induction paths generalizing texts with
  | nil =>
    cases h
    rfl
  | cons path paths ih =>
    obtain ⟨t, rest, ht, hrest, rfl⟩ := Except.mapM_cons_eq_ok_iff.mp h
    have hpicture : c.picture path = (c.draw t).mapError .pipeline := by
      simp [picture, ht, bind, Except.bind]
    rw [List.map_cons, ih hrest, hpicture]
    rfl

end

namespace Workspace

variable {ε ε' : Type} {w : Workspace ω}

theorem stores_mapError (f : ε → ε') (picture : Except ε String) (path : ω) :
    w.stores (picture.mapError f) path = w.stores picture path := by
  cases picture <;> rfl

theorem store_mapError (f : ε → ε') (picture : Except ε String) (path : ω) :
    w.store (picture.mapError f) path = w.store picture path := by
  cases picture with
  | error e => rfl
  | ok text =>
    unfold store
    cases w.target path <;> rfl

theorem storeAll_mapError (f : ε → ε') (results : List (Except ε String × ω)) (w : Workspace ω) :
    w.storeAll (results.map fun r => (r.1.mapError f, r.2)) = w.storeAll results := by
  induction results generalizing w with
  | nil => rfl
  | cons r results ih => rw [List.map_cons, storeAll_cons, storeAll_cons, store_mapError, ih]

end Workspace

section

variable {a : Arguments ω} {w w₀ : Workspace ω} {directory : ω}

def Prepared.failures (c : Prepared a w) (directory : ω) (w₀ : Workspace ω) : Nat :=
  (c.results directory).countP fun r => !w₀.stores r.1 r.2

theorem on_readTexts (c : Prepared a w) (hfiles : a.files.isEmpty = false) :
    (readTexts a).on w = (a.files.mapM (w.source c.asked), w) := by
  have hasked : Attempt.on (liftM (a.language.mapM languageOf)) w = (.ok c.asked, w) := by
    rw [on_liftM, c.asked_eq]
  unfold readTexts
  refine (on_bind_ok hasked).trans ?_
  rw [hfiles]
  exact on_readFiles c.asked a.files w

theorem on_chooseTargets_none (hfiles : 2 ≤ a.files.length) (houtput : a.output = none) (w : Workspace ω) :
    (chooseTargets a).on w = (.error .noDirectory, w) := by
  unfold chooseTargets
  dsimp only
  rw [if_neg (by omega), houtput]
  rfl

theorem on_chooseTargets_some (hfiles : 2 ≤ a.files.length) (hdirectory : a.output = some directory)
    (w : Workspace ω) : (chooseTargets a).on w =
      (((w.makeDirectory directory).1.mapError (.noSuchDirectory (text directory))).map fun _ =>
        a.files.map fun path => some (targetOf directory a.outputFormat path),
      (w.makeDirectory directory).2) := by
  have hmake := on_makeDirectory directory (.noSuchDirectory (text directory)) w
  unfold chooseTargets
  dsimp only
  rw [if_neg (by omega), hdirectory]
  cases hmade : w.makeDirectory directory with
  | mk result w₀ =>
    rw [hmade] at hmake
    cases result with
    | error e => exact on_bind_error hmake
    | ok _ => exact on_bind_ok hmake

theorem on_chooseTargets (hfiles : 2 ≤ a.files.length) (hdirectory : a.output = some directory)
    (hmade : w.makeDirectory directory = (.ok (), w₀)) :
    (chooseTargets a).on w = (.ok (a.files.map fun path => some (targetOf directory a.outputFormat path)), w₀) := by
  rw [on_chooseTargets_some hfiles hdirectory, hmade]
  rfl

theorem Prepared.exists_deliveries (c : Prepared a w) {texts : List SourceText}
    (htexts : a.files.mapM (w.source c.asked) = .ok texts) (directory : ω) :
    ∃ deliveries : List (Except PipelineError String × ω),
      ((texts.map c.draw).zip (a.files.map fun path => some (targetOf directory a.outputFormat path))) =
          (deliveries.map fun r => (r.1, some r.2)) ∧
        c.results directory = deliveries.map fun r => (r.1.mapError .pipeline, r.2) := by
  have hsome : (a.files.map fun path => some (targetOf directory a.outputFormat path)) =
      (a.files.map (targetOf directory a.outputFormat)).map some := by
    rw [List.map_map]
    rfl
  refine ⟨(texts.map c.draw).zip (a.files.map (targetOf directory a.outputFormat)), ?_, c.map_picture _ htexts⟩
  rw [hsome, List.zip_map_right]
  rfl

theorem run_deliverAll_results (c : Prepared a w) (hformat : a.outputFormat.isImage = false)
    {texts : List SourceText} (htexts : a.files.mapM (w.source c.asked) = .ok texts) (w₀ : Workspace ω) :
    (deliverAll (m := StateM (Workspace ω)) a.outputFormat ((texts.map c.draw).zip
      (a.files.map fun path => some (targetOf directory a.outputFormat path)))).run w₀ =
        (c.failures directory w₀, w₀.storeAll (c.results directory)) := by
  obtain ⟨deliveries, hzip, hresults⟩ := c.exists_deliveries htexts directory
  rw [hzip, run_deliverAll hformat, Prepared.failures, hresults, Workspace.storeAll_mapError, List.countP_map]
  simp only [Function.comp_def, Workspace.stores_mapError]

theorem Prepared.on_kinds (c : Prepared a w) :
    Attempt.on (liftM (c.settings.kinds.mapError RunError.cycle)) w = (.ok c.kinds, w) := by
  rw [on_liftM, c.kinds_eq]
  rfl

theorem on_execute_error (c : Prepared a w) {e : RunError} (h : (readTexts a).on w = (.error e, w)) :
    (execute a).on w = (.error e, w) := by
  unfold execute
  exact (on_bind_ok c.settings_eq).trans ((on_bind_ok c.on_kinds).trans (on_bind_error h))

theorem pictures_ne_singleton (hfiles : 2 ≤ a.files.length) {asked : Option Language}
    {texts : List SourceText} (htexts : a.files.mapM (w.source asked) = .ok texts) (p : Pipeline)
    (format : TextFormat) (picture : Except PipelineError String) : p.pictures format texts ≠ [picture] := by
  intro h
  have hlength := congrArg List.length h
  rw [Pipeline.pictures, List.length_map, Except.length_of_mapM htexts, List.length_singleton] at hlength
  omega

theorem on_execute (c : Prepared a w) (hfiles : 2 ≤ a.files.length)
    (hformat : a.outputFormat.isImage = false) (hdirectory : a.output = some directory)
    {texts : List SourceText} (htexts : a.files.mapM (w.source c.asked) = .ok texts)
    (hmade : w.makeDirectory directory = (.ok (), w₀)) :
    (execute a).on w =
      (if c.failures directory w₀ = 0 then .ok ""
        else .error (.failures (c.failures directory w₀) a.files.length),
      w₀.storeAll (c.results directory)) := by
  have hread := on_readTexts c (isEmpty_files hfiles)
  rw [htexts] at hread
  have htargets := on_chooseTargets hfiles hdirectory hmade
  have hlength := Except.length_of_mapM htexts
  unfold execute
  refine (on_bind_ok c.settings_eq).trans ((on_bind_ok c.on_kinds).trans ((on_bind_ok hread).trans
    ((on_bind_ok htargets).trans ?_)))
  dsimp only
  split
  · next hpictures _ => exact absurd hpictures (pictures_ne_singleton hfiles htexts _ _ _)
  · have hpictures : Pipeline.pictures { registry := .standard c.settings c.kinds }
        (a.outputFormat.textFormat c.settings.layout) texts = texts.map c.draw := rfl
    refine (on_bind_ok (on_lift _ w₀)).trans ?_
    rw [hpictures, run_deliverAll_results c hformat htexts]
    dsimp only
    split
    · rfl
    · rw [hlength]
      rfl

theorem of_on_readTexts_ok (hfiles : 2 ≤ a.files.length) {texts : List SourceText} {w' : Workspace ω}
    (h : (readTexts a).on w = (.ok texts, w')) : ∃ asked, a.language.mapM languageOf = .ok asked ∧
      a.files.mapM (w.source asked) = .ok texts ∧ w' = w := by
  unfold readTexts at h
  obtain ⟨asked, hasked, h⟩ := (reads_liftM _).of_on_bind_ok h
  rw [on_liftM] at hasked
  rw [isEmpty_files hfiles] at h
  have hread : (readFiles asked a.files).on w = (.ok texts, w') := h
  rw [on_readFiles] at hread
  obtain ⟨hsources, hw⟩ := Prod.mk.inj hread
  exact ⟨asked, (Prod.mk.inj hasked).1, hsources, hw.symm⟩

theorem of_on_chooseTargets_ok (hfiles : 2 ≤ a.files.length) {targets : List (Option ω)}
    {w' : Workspace ω} (h : (chooseTargets a).on w = (.ok targets, w')) :
    ∃ directory w₀, a.output = some directory ∧ w.makeDirectory directory = (.ok (), w₀) := by
  cases hdirectory : a.output with
  | none =>
    rw [on_chooseTargets_none hfiles hdirectory] at h
    cases h
  | some directory =>
    rw [on_chooseTargets_some hfiles hdirectory] at h
    obtain ⟨_, hmade, _⟩ := Except.map_eq_ok_iff.mp (Prod.mk.inj h).1
    have hok : (w.makeDirectory directory).1 = .ok () := Except.of_mapError_eq_ok hmade
    exact ⟨directory, (w.makeDirectory directory).2, rfl, Prod.ext hok rfl⟩

theorem of_on_execute_ok (hfiles : 2 ≤ a.files.length) {output : String} {w' : Workspace ω}
    (h : (execute a).on w = (.ok output, w')) :
    ∃ (c : Prepared a w) (directory : ω) (texts : List SourceText) (w₀ : Workspace ω),
      a.output = some directory ∧ a.files.mapM (w.source c.asked) = .ok texts ∧
        w.makeDirectory directory = (.ok (), w₀) := by
  unfold execute at h
  obtain ⟨settings, hsettings, h⟩ := (reads_readSettings a.config).of_on_bind_ok h
  obtain ⟨kinds, hkinds, h⟩ := (reads_liftM _).of_on_bind_ok h
  obtain ⟨texts, w₁, htexts, h⟩ := of_on_bind_ok h
  obtain ⟨targets, w₂, htargets, _⟩ := of_on_bind_ok h
  rw [on_liftM] at hkinds
  have haccepted : settings.kinds = .ok kinds := Except.of_mapError_eq_ok (Prod.mk.inj hkinds).1
  obtain ⟨asked, hasked, hsources, rfl⟩ := of_on_readTexts_ok hfiles htexts
  obtain ⟨directory, w₀, hdirectory, hmade⟩ := of_on_chooseTargets_ok hfiles htargets
  exact ⟨⟨settings, kinds, asked, hsettings, haccepted, hasked⟩, directory, texts, w₀, hdirectory,
    hsources, hmade⟩

end

end SyntaxGraph.CommandLine
