import SyntaxGraph.Proofs.CommandLine.Batch
import SyntaxGraph.Proofs.CommandLine.Locating

/-!
What becomes of the files that a batch is read from. No target is compared with the inputs, so a picture may be
written over one of them; a file that no picture goes to stays as it is.
-/

namespace SyntaxGraph.CommandLine

variable {ω : Type} [Word ω] [DecidableEq ω]

section

variable {ε ε' : Type} {w w' : Workspace ω} {results : List (Except ε String × ω)}

theorem Workspace.Overwrites.mapError (h : w'.Overwrites w results) (f : ε → ε') :
    w'.Overwrites w (results.map fun r => (r.1.mapError f, r.2)) where
  toPlaces := h.toPlaces
  file? l hl := by
    apply h.file? l
    intro r hr hok
    refine hl (r.1.mapError f, r.2) (List.mem_map.mpr ⟨r, hr, rfl⟩) ?_
    cases hpicture : r.1 with
    | error e =>
      rw [hpicture] at hok
      cases hok
    | ok text => rfl

end

section

variable {a : Arguments ω} {w w₀ : Workspace ω} {directory : ω}

theorem reads_readTexts (hfiles : 2 ≤ a.files.length) : Attempt.Reads (ω := ω) (readTexts a) := by
  unfold readTexts
  refine (reads_liftM _).bind fun asked => ?_
  rw [isEmpty_files hfiles]
  intro w
  exact congrArg Prod.snd (on_readFiles asked a.files w)

theorem on_chooseTargets_cases (hfiles : 2 ≤ a.files.length) (w : Workspace ω) :
    (∃ e w', (chooseTargets a).on w = (.error e, w') ∧ w'.Grows w) ∨
      ∃ directory w₀, a.output = some directory ∧ w₀.Grows w ∧ (chooseTargets a).on w =
        (.ok (a.files.map fun path => some (targetOf directory a.outputFormat path)), w₀) := by
  cases hdirectory : a.output with
  | none => exact Or.inl ⟨_, w, on_chooseTargets_none hfiles hdirectory w, .refl w⟩
  | some directory =>
    have htargets := on_chooseTargets_some hfiles hdirectory w
    cases hmade : w.makeDirectory directory with
    | mk result w₀ =>
      have hgrows := Workspace.grows_makeDirectory hmade
      rw [hmade] at htargets
      cases result with
      | error e => exact Or.inl ⟨_, w₀, htargets, hgrows⟩
      | ok _ => exact Or.inr ⟨directory, w₀, rfl, hgrows, htargets⟩

theorem Prepared.overwrites_deliverAll (c : Prepared a w) {texts : List SourceText}
    (htexts : a.files.mapM (w.source c.asked) = .ok texts) (w₀ : Workspace ω) :
    ((deliverAll (m := StateM (Workspace ω)) a.outputFormat ((texts.map c.draw).zip
      (a.files.map fun path => some (targetOf directory a.outputFormat path)))).run w₀).2.Overwrites w₀
        (c.results directory) := by
  obtain ⟨deliveries, hzip, hresults⟩ := c.exists_deliveries htexts directory
  rw [hzip, hresults]
  exact (CommandLine.overwrites_deliverAll a.outputFormat deliveries w₀).mapError RunError.pipeline

theorem snd_on_execute (hfiles : 2 ≤ a.files.length) (w : Workspace ω) :
    ((execute a).on w).2.Grows w ∨ ∃ (c : Prepared a w) (directory : ω) (w₀ : Workspace ω),
      a.output = some directory ∧ w₀.Grows w ∧ ((execute a).on w).2.Overwrites w₀ (c.results directory) := by
  have hstop {w' : Workspace ω} (h : w' = w) : w'.Grows w := by
    rw [h]
    exact .refl w
  unfold execute
  rcases (reads_readSettings a.config).on_bind_cases w with hw | ⟨settings, hsettings, hw⟩
  · exact Or.inl (hstop hw)
  rw [hw]
  rcases (reads_liftM _).on_bind_cases w with hw | ⟨kinds, hkinds, hw⟩
  · exact Or.inl (hstop hw)
  rw [hw]
  rcases (reads_readTexts hfiles).on_bind_cases w with hw | ⟨texts, htexts, hw⟩
  · exact Or.inl (hstop hw)
  rw [hw]
  obtain ⟨asked, hasked, hsources, _⟩ := of_on_readTexts_ok hfiles htexts
  rcases on_chooseTargets_cases hfiles w with ⟨e, w', htargets, hgrows⟩ | ⟨directory, w₀, hdirectory, hgrows, htargets⟩
  · rw [on_bind_error htargets]
    exact Or.inl hgrows
  rw [on_liftM] at hkinds
  let c : Prepared a w :=
    ⟨settings, kinds, asked, hsettings, Except.of_mapError_eq_ok (Prod.mk.inj hkinds).1, hasked⟩
  refine Or.inr ⟨c, directory, w₀, hdirectory, hgrows, ?_⟩
  rw [on_bind_ok htargets]
  dsimp only
  split
  · next picture target hpictures _ => exact absurd hpictures (pictures_ne_singleton hfiles hsources _ _ _)
  · have hreads (failed : Nat) : Attempt.Reads (ω := ω) (if failed = 0 then pure "" else
        throw (RunError.failures failed texts.length)) := by
      split
      · exact Attempt.reads_pure ""
      · exact fun _ => rfl
    rw [snd_on_bind hreads, on_lift]
    exact c.overwrites_deliverAll hsources w₀

/-- What has become of the file that an input was read from. -/
structure SourceFate (a : Arguments ω) (w after : Workspace ω) (path : ω) (l : Location ω) : Prop where
  found : after.locate path = .ok l
  kept : (∀ (c : Prepared a w) directory, a.output = some directory →
      ∀ other ∈ a.files, ¬ c.GoesTo directory after l other) → after.file? l = w.file? l
  replaced : a.outputFormat.isImage = false → ∀ (c : Prepared a w) directory w₀,
    a.output = some directory → (∀ other ∈ a.files, ∃ code, w.readFile other = .ok code) →
      w.makeDirectory directory = (.ok (), w₀) → ∀ earlier last later,
        a.files = earlier ++ last :: later → c.GoesTo directory after l last →
          (∀ other ∈ later, ¬ c.GoesTo directory after l other) →
            ∃ text, c.picture last = .ok text ∧ after.file? l = some (.text text)

theorem batch_source_fate {words : List ω} (hp : Arguments.parse words = .ok a)
    (hfiles : 2 ≤ a.files.length) {outcome : Outcome} {after : Workspace ω}
    (hrun : (run (m := StateM (Workspace ω)) words).run w = (outcome, after)) :
    ∀ path ∈ a.files, ∀ l, w.locate path = .ok l → SourceFate a w after path l := by
  intro path _ l hl
  have hafter : after = ((execute a).on w).2 := by
    rw [run_eq hp (rfl : (execute a).on w = (((execute a).on w).1, ((execute a).on w).2))] at hrun
    exact (Prod.mk.inj hrun).2.symm
  constructor
  case found =>
    rcases snd_on_execute hfiles w with hgrows | ⟨c, directory, w₀, _, hgrows, hover⟩
    · rw [hafter]
      exact hgrows.locate hl
    · rw [hafter]
      exact Workspace.locate_congr hover.toPlaces (hgrows.locate hl)
  case kept =>
    intro hnone
    rcases snd_on_execute hfiles w with hgrows | ⟨c, directory, w₀, hdirectory, hgrows, hover⟩
    · rw [hafter]
      exact hgrows.file? l
    · rw [← hafter] at hover
      refine (hover.file? l fun r hr hok hl => ?_).trans (hgrows.file? l)
      obtain ⟨other, hother, rfl⟩ := List.mem_map.mp hr
      exact hnone c directory hdirectory other hother
        ⟨hok, (Workspace.target_congr hover.toPlaces).mpr hl⟩
  case replaced =>
    intro hformat c directory w₀ hdirectory hreadable hmade earlier last later hsplit hlast hlater
    obtain ⟨texts, htexts⟩ := Except.exists_mapM_eq_ok_iff.mpr fun path hpath =>
      source_eq_ok_iff.mpr (hreadable path hpath)
    rw [on_execute c hfiles hformat hdirectory htexts hmade] at hafter
    subst hafter
    exact c.file?_storeAll hsplit hlast hlater

end

def ownDirectory : Workspace where
  files := [
    (⟨.above 0, ["x.json"]⟩, .text "\x7b\"kind\": \"Pass\"\x7d"),
    (⟨.above 0, ["y.json"]⟩, .text "\x7b\"kind\": \"Break\"\x7d"),
    (⟨.above 0, ["z.txt"]⟩, .text "\x7b\"kind\": \"Break\"\x7d")]

theorem batch_overwrites_ownDirectory :
    let a : Arguments := { files := ["x.json", "y.json"], output := some ".", format := some .json }
    let words := ["x.json", "y.json", "-o", ".", "-f", "json"]
    let ran := (run (m := StateM Workspace) words).run ownDirectory
    Arguments.parse words = .ok a ∧ 2 ≤ a.files.length ∧ ran.1 = {} ∧
      ∀ path ∈ a.files, (ownDirectory.readFile path).isOk = true ∧
        (ran.2.readFile path).isOk = true ∧ ran.2.readFile path ≠ ownDirectory.readFile path := by
  decide +kernel

def ownDirectoryWords : List String :=
  ["x.json", "z.txt", "-l", "json", "-o", ".", "-f", "json"]

def ownDirectoryArguments : Arguments where
  files := ["x.json", "z.txt"]
  output := some "."
  format := some .json
  language := some "json"

theorem kinds_unconfigured : Settings.kinds {} = .ok .standard :=
  rfl

theorem asked_ownDirectory : ownDirectoryArguments.language.mapM languageOf = .ok (some .jsonTree) := by
  have hname : Language.ofName? "json" = some .jsonTree := by decide +kernel
  change (languageOf "json" >>= fun l => pure (some l)) = _
  rw [languageOf, hname]
  rfl

def ownDirectoryPrepared : Prepared ownDirectoryArguments ownDirectory where
  settings := {}
  kinds := .standard
  asked := some .jsonTree
  settings_eq := rfl
  kinds_eq := kinds_unconfigured
  asked_eq := asked_ownDirectory

theorem batch_source_fate_ownDirectory :
    let ran := (run (m := StateM Workspace) ownDirectoryWords).run ownDirectory
    Arguments.parse ownDirectoryWords = .ok ownDirectoryArguments ∧
      2 ≤ ownDirectoryArguments.files.length ∧
      ran.2.file? ⟨.above 0, ["z.txt"]⟩ = ownDirectory.file? ⟨.above 0, ["z.txt"]⟩ ∧
      ∃ text, ownDirectoryPrepared.picture "x.json" = .ok text ∧
        ran.2.file? ⟨.above 0, ["x.json"]⟩ = some (.text text) := by
  intro ran
  have hp : Arguments.parse ownDirectoryWords = .ok ownDirectoryArguments := by decide +kernel
  have hfate := batch_source_fate hp (Nat.le_refl 2) (rfl : _ = (ran.1, ran.2))
  have hx := hfate "x.json" List.mem_cons_self ⟨.above 0, ["x.json"]⟩ (by decide +kernel)
  have hz := hfate "z.txt" (List.mem_cons_of_mem _ List.mem_cons_self) ⟨.above 0, ["z.txt"]⟩ (by decide +kernel)
  refine ⟨hp, Nat.le_refl 2, ?_, ?_⟩
  · apply hz.kept
    intro c directory hdirectory other hother hgoes
    have htarget : ∀ path ∈ ownDirectoryArguments.files,
        ran.2.target (targetOf "." .json path) ≠ .ok ⟨.above 0, ["z.txt"]⟩ := by
      decide +kernel
    cases hdirectory
    exact htarget other hother hgoes.2
  · have hreadable : ∀ path ∈ ownDirectoryArguments.files, ∃ code, ownDirectory.readFile path = .ok code := by
      intro path hpath
      apply Except.isOk_iff_exists.mp
      revert path
      decide +kernel
    refine hx.replaced rfl ownDirectoryPrepared "." _ rfl hreadable rfl [] "x.json" ["z.txt"] rfl ?_ ?_
    · constructor <;> decide +kernel
    · intro other hother hgoes
      obtain rfl := List.mem_singleton.mp hother
      have hother : ran.2.target (targetOf "." .json "z.txt") ≠ .ok ⟨.above 0, ["x.json"]⟩ := by decide +kernel
      exact hother hgoes.2

end SyntaxGraph.CommandLine
