import SyntaxGraph.Proofs.CommandLine.Batch
import SyntaxGraph.Proofs.CommandLine.Locating
import Mathlib.Data.List.Nodup

/-!
A batch and runs on its inputs alone. Languages, places and failures are worked out in two ways, and come to
the same: the batch writes what the lone runs write, and counts those that fail.
-/

namespace SyntaxGraph.CommandLine

variable {ω : Type} [Word ω] [DecidableEq ω]

section

variable {w v : Workspace ω} {s : Settings} {config : Option ω}

theorem Workspace.Grows.on_readSettings (h : v.Grows w) (hs : (readSettings config).on w = (.ok s, w)) :
    (readSettings config).on v = (.ok s, v) := by
  cases config with
  | none =>
    cases hs
    rfl
  | some path =>
    unfold readSettings at hs ⊢
    obtain ⟨text, _, hread, hparse⟩ := of_on_bind_ok hs
    rw [on_readFile] at hread
    have htext : w.readFile path = .ok text := Except.of_mapError_eq_ok (Prod.mk.inj hread).1
    have hread' := on_readFile path (.unreadableConfig (Word.text path)) v
    rw [h.readFile htext] at hread'
    refine (on_bind_ok hread').trans ?_
    cases hsettings : Settings.read text with
    | error e =>
      rw [hsettings] at hparse
      cases hparse
    | ok s' =>
      rw [hsettings] at hparse
      cases hparse
      rfl

end

section

variable {a : Arguments ω} {w v w₀ : Workspace ω} {directory path place : ω}

def Arguments.alone (a : Arguments ω) (path place : ω) : Arguments ω :=
  { a with files := [path], output := some place }

def Prepared.alone (c : Prepared a w) (h : v.Grows w) (path place : ω) :
    Prepared (a.alone path place) v where
  settings := c.settings
  kinds := c.kinds
  asked := c.asked
  settings_eq := h.on_readSettings c.settings_eq
  kinds_eq := c.kinds_eq
  asked_eq := c.asked_eq

theorem Workspace.Grows.source_eq (h : v.Grows w) (asked : Option Language)
    (hreadable : ∃ code, w.readFile path = .ok code) : v.source asked path = w.source asked path := by
  obtain ⟨code, hcode⟩ := hreadable
  rw [source, source, hcode, h.readFile hcode]

theorem Prepared.picture_alone (c : Prepared a w) (h : v.Grows w)
    (hreadable : ∃ code, w.readFile path = .ok code) :
    (c.alone h path place).picture path = c.picture path := by
  unfold picture
  rw [h.source_eq _ hreadable]
  rfl

theorem on_execute_alone (c : Prepared (a.alone path place) w) (hformat : a.outputFormat.isImage = false)
    (hreadable : ∃ code, w.readFile path = .ok code) :
    ∃ result, result.isOk = w.stores (c.picture path) place ∧
      (execute (a.alone path place)).on w = (result, w.store (c.picture path) place) := by
  obtain ⟨t, ht⟩ : ∃ t, w.source c.asked path = .ok t := source_eq_ok_iff.mpr hreadable
  have hread := on_readTexts c rfl
  have hpicture : c.picture path = (c.draw t).mapError .pipeline := by
    simp [Prepared.picture, ht, bind, Except.bind]
  obtain ⟨result, hok, hdeliver⟩ := on_deliverPicture hformat (c.draw t) place w
  rw [hpicture, Workspace.stores_mapError, Workspace.store_mapError]
  refine ⟨result, hok, ?_⟩
  have hone : (a.alone path place).files.mapM (w.source c.asked) = .ok [t] := by
    change [path].mapM (w.source c.asked) = .ok [t]
    rw [List.mapM_cons, ht]
    rfl
  rw [hone] at hread
  unfold execute
  refine (on_bind_ok c.settings_eq).trans ((on_bind_ok c.on_kinds).trans ((on_bind_ok hread).trans ?_))
  exact hdeliver

/-- Command lines with the options of a batch, each for one of its inputs and a file to write to. -/
structure LoneRuns (a : Arguments ω) where
  words : ω → List ω
  place : ω → ω
  parse_eq : ∀ path ∈ a.files, Arguments.parse (words path) = .ok (a.alone path (place path))

namespace LoneRuns

def ran (lone : LoneRuns a) (v : Workspace ω) (path : ω) : Outcome × Workspace ω :=
  (run (m := StateM (Workspace ω)) (lone.words path)).run v

def failures (lone : LoneRuns a) (v : Workspace ω) : Nat :=
  a.files.countP fun path => (lone.ran v path).1.status ≠ 0

theorem status_ofResult (traceback : Bool) (result : Except RunError String) :
    (Outcome.ofResult traceback result).status = 0 ↔ result.isOk = true := by
  cases result <;> simp [Outcome.ofResult, Except.isOk, Except.toBool]

theorem ran_spec (lone : LoneRuns a) (c : Prepared a w) (h : v.Grows w)
    (hformat : a.outputFormat.isImage = false) (hpath : path ∈ a.files)
    (hreadable : ∃ code, w.readFile path = .ok code) :
    ((lone.ran v path).1.status = 0 ↔ v.stores (c.picture path) (lone.place path) = true) ∧
      (lone.ran v path).2 = v.store (c.picture path) (lone.place path) := by
  obtain ⟨code, hcode⟩ := hreadable
  obtain ⟨result, hok, hexecute⟩ :=
    on_execute_alone (c.alone h path (lone.place path)) hformat ⟨code, h.readFile hcode⟩
  have hrun : lone.ran v path = _ := run_eq (lone.parse_eq path hpath) hexecute
  rw [c.picture_alone h ⟨code, hcode⟩] at hok hrun
  rw [hrun, status_ofResult, hok]
  exact ⟨Iff.rfl, rfl⟩

end LoneRuns

/-- What the batch writes is what the lone runs write, and nothing else; its failures are theirs. -/
structure AgreesAlone (w v : Workspace ω) (directory : ω) (lone : LoneRuns a) (outcome : Outcome)
    (after : Workspace ω) : Prop where
  written : ∀ path ∈ a.files, (lone.ran v path).1.status = 0 →
    ∃ text, (lone.ran v path).2.readFile (lone.place path) = .ok text ∧
      after.readFile (targetOf directory a.outputFormat path) = .ok text
  omitted : ∀ path ∈ a.files, (lone.ran v path).1.status ≠ 0 → ∀ l,
    after.target (targetOf directory a.outputFormat path) = .ok l → after.file? l = w.file? l
  others : ∀ l, (∀ path ∈ a.files, (lone.ran v path).1.status = 0 →
    after.target (targetOf directory a.outputFormat path) ≠ .ok l) → after.file? l = w.file? l
  counted : outcome = if lone.failures v = 0 then {} else
    { status := 1, report := "Error: " ++ (toString (lone.failures v) ++ " of " ++
        toString a.files.length ++ " inputs failed") }

theorem nodup_outputStem (hreadable : ∀ path ∈ a.files, ∃ code, w.readFile path = .ok code)
    (htext : ∀ path ∈ a.files, ∀ stem, Path.stem? path = some stem → Word.IsText stem)
    (hstems : (a.files.map Path.stem?).Nodup) : (a.files.map outputStem).Nodup := by
  refine (List.nodup_map_iff_inj_on hstems.of_map).mpr fun path hpath other hother heq => ?_
  have hinj := List.inj_on_of_nodup_map hstems hpath hother
  obtain ⟨code, hcode⟩ := hreadable path hpath
  obtain ⟨code', hcode'⟩ := hreadable other hother
  obtain ⟨stem, hstem⟩ := Workspace.exists_stem_of_readFile hcode
  obtain ⟨stem', hstem'⟩ := Workspace.exists_stem_of_readFile hcode'
  simp only [outputStem, hstem, hstem', Option.map_some, Option.getD_some] at heq
  have hsame := Word.eq_of_text_eq (htext path hpath stem hstem) (htext other hother stem' hstem') heq
  exact hinj (by rw [hstem, hstem', hsame])

theorem outputStem_ne_of_nodup (h : (a.files.map outputStem).Nodup) {earlier later : List ω}
    (hsplit : a.files = earlier ++ path :: later) : ∀ other ∈ later, outputStem other ≠ outputStem path := by
  rw [hsplit, List.map_append, List.map_cons] at h
  have hnotin := (List.nodup_cons.mp (List.nodup_append.mp h).2.1).1
  intro other hother heq
  exact hnotin (heq ▸ List.mem_map_of_mem hother)

theorem LoneRuns.status_eq_zero_iff (lone : LoneRuns a) (c : Prepared a w) (h : v.Grows w)
    (hformat : a.outputFormat.isImage = false) (hpath : path ∈ a.files)
    (hreadable : ∃ code, w.readFile path = .ok code)
    (hplace : (v.target (lone.place path)).isOk =
      (w₀.target (targetOf directory a.outputFormat path)).isOk) :
    (lone.ran v path).1.status = 0 ↔
      w₀.stores (c.picture path) (targetOf directory a.outputFormat path) = true := by
  rw [(lone.ran_spec c h hformat hpath hreadable).1, Workspace.stores, Workspace.stores, hplace]

theorem LoneRuns.readFile_place (lone : LoneRuns a) (c : Prepared a w) (h : v.Grows w)
    (hformat : a.outputFormat.isImage = false) (hpath : path ∈ a.files)
    (hreadable : ∃ code, w.readFile path = .ok code) (hstatus : (lone.ran v path).1.status = 0) :
    ∃ text, c.picture path = .ok text ∧ (lone.ran v path).2.readFile (lone.place path) = .ok text := by
  obtain ⟨hstores, hran⟩ := lone.ran_spec c h hformat hpath hreadable
  obtain ⟨hdrawn, hwritable⟩ := (Bool.and_eq_true ..).mp (hstores.mp hstatus)
  obtain ⟨text, hpicture⟩ := Except.isOk_iff_exists.mp hdrawn
  obtain ⟨l, hl⟩ := Except.isOk_iff_exists.mp hwritable
  refine ⟨text, hpicture, ?_⟩
  rw [hran, hpicture, Workspace.store_ok hl]
  exact Workspace.readFile_put hl text

theorem Prepared.failures_eq (c : Prepared a w) {lone : LoneRuns a}
    (hstatus : ∀ path ∈ a.files, (lone.ran v path).1.status = 0 ↔
      w₀.stores (c.picture path) (targetOf directory a.outputFormat path) = true) :
    c.failures directory w₀ = lone.failures v := by
  unfold failures results LoneRuns.failures
  rw [List.countP_map]
  apply List.countP_congr
  intro path hpath
  simp [hstatus path hpath]

theorem Prepared.file?_storeAll_of_lone (c : Prepared a w) {lone : LoneRuns a} (h : w₀.Grows w)
    (hstatus : ∀ path ∈ a.files, (lone.ran v path).1.status = 0 ↔
      w₀.stores (c.picture path) (targetOf directory a.outputFormat path) = true) {l : Location ω}
    (hl : ∀ path ∈ a.files, (lone.ran v path).1.status = 0 →
      (w₀.storeAll (c.results directory)).target (targetOf directory a.outputFormat path) ≠ .ok l) :
    (w₀.storeAll (c.results directory)).file? l = w.file? l := by
  have hover := Workspace.overwrites_storeAll w₀ (c.results directory)
  refine (hover.file? l fun r hr hok htarget => ?_).trans (h.file? l)
  obtain ⟨path, hpath, rfl⟩ := List.mem_map.mp hr
  have hwritable : (w₀.target (targetOf directory a.outputFormat path)).isOk = true :=
    Except.isOk_iff_exists.mpr ⟨l, htarget⟩
  have hstores : w₀.stores (c.picture path) (targetOf directory a.outputFormat path) = true := by
    rw [Workspace.stores, hok, hwritable]
    rfl
  exact hl path hpath ((hstatus path hpath).mpr hstores)
    ((Workspace.target_congr hover.toPlaces).mpr htarget)

theorem Outcome.ofResult_failures (traceback : Bool) (failed total : Nat) :
    Outcome.ofResult traceback (if failed = 0 then .ok "" else .error (.failures failed total)) =
      if failed = 0 then {} else
        { status := 1,
          report := "Error: " ++ (toString failed ++ " of " ++ toString total ++ " inputs failed") } := by
  by_cases h : failed = 0
  · rw [if_pos h, if_pos h]
    rfl
  · rw [if_neg h, if_neg h]
    have hbrief (message : String) : briefReport [message] = "Error: " ++ message := by
      simp [briefReport]
    have hfull (message : String) : fullReport [message] = "Error: " ++ message := by
      simp [fullReport]
    cases traceback
    · exact congrArg (Outcome.mk 1 "") (hbrief _)
    · exact congrArg (Outcome.mk 1 "") (hfull _)

/-- The lone runs may start where the directory of the batch has been made already, and write to any places
that can be written to if and only if those of the batch can. -/
theorem batch_agrees_alone {words : List ω} (hp : Arguments.parse words = .ok a)
    (hfiles : 2 ≤ a.files.length) (hformat : a.outputFormat.isImage = false)
    (hdirectory : a.output = some directory) (c : Prepared a w)
    (hreadable : ∀ path ∈ a.files, ∃ code, w.readFile path = .ok code)
    (htext : ∀ path ∈ a.files, ∀ stem, Path.stem? path = some stem → Word.IsText stem)
    (hstems : (a.files.map Path.stem?).Nodup) (hmade : w.makeDirectory directory = (.ok (), w₀))
    (lone : LoneRuns a) (hv : v = w ∨ v = w₀)
    (hplace : ∀ path ∈ a.files, (v.target (lone.place path)).isOk =
      (w₀.target (targetOf directory a.outputFormat path)).isOk)
    {outcome : Outcome} {after : Workspace ω}
    (hrun : (run (m := StateM (Workspace ω)) words).run w = (outcome, after)) :
    AgreesAlone w v directory lone outcome after := by
  have hgrows := Workspace.grows_makeDirectory hmade
  have hvgrows : v.Grows w := by
    rcases hv with rfl | rfl
    · exact .refl v
    · exact hgrows
  have hnodup := nodup_outputStem hreadable htext hstems
  have hstatus (path : ω) (hpath : path ∈ a.files) :=
    lone.status_eq_zero_iff c hvgrows hformat hpath (hreadable path hpath) (hplace path hpath)
  obtain ⟨texts, htexts⟩ := Except.exists_mapM_eq_ok_iff.mpr fun path hpath =>
    source_eq_ok_iff.mpr (hreadable path hpath)
  rw [run_eq hp (on_execute c hfiles hformat hdirectory htexts hmade)] at hrun
  obtain ⟨rfl, rfl⟩ := Prod.mk.inj hrun
  constructor
  case written =>
    intro path hpath hlone
    obtain ⟨text, hpicture, hread⟩ :=
      lone.readFile_place c hvgrows hformat hpath (hreadable path hpath) hlone
    obtain ⟨_, hwritable⟩ := (Bool.and_eq_true ..).mp ((hstatus path hpath).mp hlone)
    obtain ⟨earlier, later, hsplit⟩ := List.mem_iff_append.mp hpath
    refine ⟨text, hread, c.readFile_storeAll hsplit hpicture hwritable ?_⟩
    exact outputStem_ne_of_nodup hnodup hsplit
  case omitted =>
    intro path hpath hlone l hl
    apply c.file?_storeAll_of_lone hgrows hstatus
    intro other hother hlone' hl'
    have hstem := (location_eq_iff hl' hl).mp rfl
    obtain rfl := List.inj_on_of_nodup_map hnodup hother hpath hstem
    exact hlone hlone'
  case others => exact fun l hl => c.file?_storeAll_of_lone hgrows hstatus hl
  case counted => rw [Outcome.ofResult_failures, c.failures_eq hstatus]

end

def brokenSecondAlone : LoneRuns (secondInput "broken.json") where
  words path := ["-o", "alone.dot", path]
  place _ := "alone.dot"
  parse_eq := by decide +kernel

theorem batch_agrees_alone_brokenSecond :
    let ran := (run (m := StateM Workspace) ["a.json", "broken.json", "-o", "out"]).run brokenSecond
    Arguments.parse ["a.json", "broken.json", "-o", "out"] = .ok (secondInput "broken.json") ∧
      AgreesAlone brokenSecond brokenSecond "out" brokenSecondAlone ran.1 ran.2 ∧
      (brokenSecondAlone.ran brokenSecond "a.json").1.status = 0 ∧
      (brokenSecondAlone.ran brokenSecond "broken.json").1.status = 1 ∧
      ran.1 = { status := 1, report := "Error: 1 of 2 inputs failed" } := by
  intro ran
  have hp : Arguments.parse ["a.json", "broken.json", "-o", "out"] = .ok (secondInput "broken.json") := by
    decide +kernel
  have hreadable : ∀ path ∈ (secondInput "broken.json").files,
      ∃ code, brokenSecond.readFile path = .ok code := by
    intro path hpath
    apply Except.isOk_iff_exists.mp
    revert path
    decide +kernel
  have hagrees : AgreesAlone brokenSecond brokenSecond "out" brokenSecondAlone ran.1 ran.2 := by
    apply batch_agrees_alone hp (Nat.le_refl 2) rfl rfl (brokenSecondPrepared "broken.json") hreadable
      (fun _ _ _ _ => rfl) (by decide +kernel) rfl brokenSecondAlone (Or.inl rfl) _ rfl
    decide +kernel
  refine ⟨hp, hagrees, by decide +kernel, by decide +kernel, ?_⟩
  have hfailures : brokenSecondAlone.failures brokenSecond = 1 := by decide +kernel
  rw [hagrees.counted, hfailures]
  rfl

end SyntaxGraph.CommandLine
