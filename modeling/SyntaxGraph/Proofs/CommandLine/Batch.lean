import SyntaxGraph.Proofs.CommandLine.Execution
import SyntaxGraph.Word.Raw

namespace SyntaxGraph.CommandLine

open Word (ofText)

theorem exists_last_of_mem {α : Type} (key : α → String) {path : α} {paths : List α} (h : path ∈ paths) :
    ∃ before last after, paths = before ++ last :: after ∧ key last = key path ∧
      ∀ other ∈ after, key other ≠ key path := by
  have hfound : (paths.reverse.find? fun p => key p = key path).isSome :=
    List.find?_isSome.mpr ⟨path, List.mem_reverse.mpr h, by simp⟩
  obtain ⟨last, hlast⟩ := Option.isSome_iff_exists.mp hfound
  obtain ⟨hkey, later, earlier, hsplit, hlater⟩ := List.find?_eq_some_iff_append.mp hlast
  have hpaths := congrArg List.reverse hsplit
  refine ⟨earlier.reverse, last, later.reverse, by simpa using hpaths, by simpa using hkey, ?_⟩
  intro other hother
  simpa using hlater other (List.mem_reverse.mp hother)

section

variable {ω : Type} [Word ω] [DecidableEq ω]

section

variable {w w₀ : Workspace ω} {format : OutputFormat} {directory path other : ω} {text : String}
  {l l' : Location ω}

theorem outputName_ne_empty (format : OutputFormat) (path : ω) :
    (ofText (outputStem path ++ "." ++ format.name) : ω) ≠ ofText "" := by
  rw [Ne, Word.ofText_inj]
  intro h
  have hlist := congrArg String.toList h
  simp [String.toList_append] at hlist

theorem slashFree_outputName (format : OutputFormat) (path : ω) :
    Path.SlashFree (ofText (outputStem path ++ "." ++ format.name) : ω) := by
  have hstem : '/' ∉ (outputStem path).toList := by
    unfold outputStem
    cases hs : Path.stem? path with
    | none =>
      rw [Option.map_none, Option.getD_none]
      decide
    | some stem => exact fun hmem => Path.slashFree_stem hs (Word.slash_mem_of_text hmem)
  have hname : '/' ∉ format.name.toList := by
    cases format <;> decide
  intro hmem
  have hslash := Word.slash_mem_of_ofText hmem
  simp [String.toList_append, hstem, hname] at hslash

theorem location_eq_iff (hl : w.target (targetOf directory format path) = .ok l)
    (hl' : w.target (targetOf directory format other) = .ok l') :
    l = l' ↔ outputStem path = outputStem other := by
  obtain ⟨base, front, htarget⟩ := Workspace.exists_target_join w directory
  obtain ⟨d, hd, rfl⟩ :=
    htarget _ l (outputName_ne_empty format path) (slashFree_outputName format path) hl
  obtain ⟨d', hd', rfl⟩ :=
    htarget _ l' (outputName_ne_empty format other) (slashFree_outputName format other) hl'
  obtain rfl : d = d' := Except.ok.inj (hd.symm.trans hd')
  rw [Places.child_inj, Word.ofText_inj, String.append_left_inj, String.append_left_inj]

end

section

variable {a : Arguments ω} {w w₀ : Workspace ω} {directory path : ω} {text : String}

def Prepared.GoesTo (c : Prepared a w) (directory : ω) (after : Workspace ω) (l : Location ω)
    (path : ω) : Prop :=
  (c.picture path).isOk = true ∧ after.target (targetOf directory a.outputFormat path) = .ok l

theorem Prepared.file?_storeAll (c : Prepared a w) {earlier later : List ω} {last : ω}
    {l : Location ω} (hsplit : a.files = earlier ++ last :: later)
    (hlast : c.GoesTo directory (w₀.storeAll (c.results directory)) l last)
    (hlater : ∀ other ∈ later, ¬ c.GoesTo directory (w₀.storeAll (c.results directory)) l other) :
    ∃ text, c.picture last = .ok text ∧
      (w₀.storeAll (c.results directory)).file? l = some (.text text) := by
  have hd := Workspace.toPlaces_storeAll w₀ (c.results directory)
  obtain ⟨hdrawn, htarget⟩ := hlast
  obtain ⟨text, hpicture⟩ := Except.isOk_iff_exists.mp hdrawn
  refine ⟨text, hpicture, ?_⟩
  unfold results
  rw [hsplit, List.map_append, List.map_cons, hpicture]
  apply Workspace.file?_storeAll_last ((Workspace.target_congr hd).mp htarget)
  intro r hr hok hl
  obtain ⟨other, hother, rfl⟩ := List.mem_map.mp hr
  exact hlater other hother ⟨hok, (Workspace.target_congr hd).mpr hl⟩

theorem Prepared.readFile_storeAll (c : Prepared a w) {before after : List ω}
    (hfiles : a.files = before ++ path :: after) (hpicture : c.picture path = .ok text)
    (htarget : (w₀.target (targetOf directory a.outputFormat path)).isOk = true)
    (hafter : ∀ other ∈ after, outputStem other ≠ outputStem path) :
    (w₀.storeAll (c.results directory)).readFile (targetOf directory a.outputFormat path) = .ok text := by
  have hd := Workspace.toPlaces_storeAll w₀ (c.results directory)
  obtain ⟨l, hl⟩ := Except.isOk_iff_exists.mp htarget
  have hl' := (Workspace.target_congr hd).mpr hl
  have hgoes : c.GoesTo directory (w₀.storeAll (c.results directory)) l path :=
    ⟨Except.isOk_iff_exists.mpr ⟨text, hpicture⟩, hl'⟩
  obtain ⟨text', hpicture', hfile⟩ := c.file?_storeAll hfiles hgoes fun other hother hother' =>
    hafter other hother ((location_eq_iff hother'.2 hl').mp rfl)
  obtain rfl : text = text' := Except.ok.inj (hpicture.symm.trans hpicture')
  exact Workspace.readFile_of_target hl' hfile

theorem run_eq {words : List ω} {result : Except RunError String} {w' : Workspace ω}
    (hp : Arguments.parse words = .ok a) (h : (execute a).on w = (result, w')) :
    (run (m := StateM (Workspace ω)) words).run w = (.ofResult a.traceback result, w') := by
  unfold run
  rw [hp]
  exact run_bind h

end

/-- Inputs share a file exactly if they have one stem, and it holds the text of the last of them. -/
structure LastStays {a : Arguments ω} {w : Workspace ω} (c : Prepared a w) (directory : ω)
    (after : Workspace ω) : Prop where
  drawn : ∀ path ∈ a.files, ∃ text, c.picture path = .ok text
  shared : ∀ path ∈ a.files, ∀ other ∈ a.files,
    after.target (targetOf directory a.outputFormat path) =
        after.target (targetOf directory a.outputFormat other) ↔
      outputStem path = outputStem other
  last : ∀ path ∈ a.files, ∃ earlier last later text, a.files = earlier ++ last :: later ∧
    outputStem last = outputStem path ∧ (∀ other ∈ later, outputStem other ≠ outputStem path) ∧
      c.picture last = .ok text ∧
        after.readFile (targetOf directory a.outputFormat path) = .ok text
  kept : (∀ path ∈ a.files, ∀ text, c.picture path = .ok text →
      after.readFile (targetOf directory a.outputFormat path) = .ok text) ↔
    ∀ path ∈ a.files, ∀ other ∈ a.files, outputStem path = outputStem other →
      c.picture path = c.picture other

section

variable {a : Arguments ω} {w w₀ after : Workspace ω} {directory path : ω} {text : String}

theorem targetOf_congr {format : OutputFormat} {path other : ω}
    (h : outputStem path = outputStem other) :
    targetOf directory format path = targetOf directory format other := by
  rw [targetOf, targetOf, h]

example : let path : RawText := ⟨[0xff, 0x2e, 0x72, 0x73]⟩
    let other : RawText := ⟨[0xfe, 0x2e, 0x72, 0x73]⟩
    Path.stem? path ≠ Path.stem? other ∧
      targetOf (.ofText "out") .json path = targetOf (.ofText "out") .json other := by
  decide +kernel

theorem Prepared.stores_of_failures (c : Prepared a w) (h : c.failures directory w₀ = 0)
    (hpath : path ∈ a.files) : (∃ text, c.picture path = .ok text) ∧
      (w₀.target (targetOf directory a.outputFormat path)).isOk = true := by
  unfold failures results at h
  rw [List.countP_eq_zero] at h
  have hstores := h _ (List.mem_map.mpr ⟨path, hpath, rfl⟩)
  simp only [Workspace.stores, Bool.not_and, Bool.or_eq_true, Bool.not_eq_true', not_or,
    Bool.not_eq_false] at hstores
  exact ⟨Except.isOk_iff_exists.mp hstores.1, hstores.2⟩

theorem Prepared.exists_last (c : Prepared a w) (h : c.failures directory w₀ = 0)
    (hpath : path ∈ a.files) : ∃ earlier last later text, a.files = earlier ++ last :: later ∧
      outputStem last = outputStem path ∧ (∀ other ∈ later, outputStem other ≠ outputStem path) ∧
        c.picture last = .ok text ∧ (w₀.storeAll (c.results directory)).readFile
          (targetOf directory a.outputFormat path) = .ok text := by
  obtain ⟨earlier, last, later, hfiles, hstem, hlater⟩ := exists_last_of_mem outputStem hpath
  have hmem : last ∈ a.files := by simp [hfiles]
  obtain ⟨⟨text, hpicture⟩, htarget⟩ := c.stores_of_failures h hmem
  refine ⟨earlier, last, later, text, hfiles, hstem, hlater, hpicture, ?_⟩
  rw [targetOf_congr hstem.symm]
  apply c.readFile_storeAll hfiles hpicture htarget
  intro other hother
  rw [hstem]
  exact hlater other hother

theorem Prepared.lastStays (c : Prepared a w) (h : c.failures directory w₀ = 0) :
    LastStays c directory (w₀.storeAll (c.results directory)) := by
  have hd := Workspace.toPlaces_storeAll w₀ (c.results directory)
  constructor
  case drawn => exact fun path hpath => (c.stores_of_failures h hpath).1
  case shared =>
    intro path hpath other hother
    obtain ⟨l, hl⟩ := Except.isOk_iff_exists.mp (c.stores_of_failures h hpath).2
    obtain ⟨l', hl'⟩ := Except.isOk_iff_exists.mp (c.stores_of_failures h hother).2
    rw [(Workspace.target_congr hd).mpr hl, (Workspace.target_congr hd).mpr hl', Except.ok.injEq]
    exact location_eq_iff hl hl'
  case last => exact fun path hpath => c.exists_last h hpath
  case kept =>
    constructor
    · intro hkept path hpath other hother hstem
      obtain ⟨text, hpicture⟩ := (c.stores_of_failures h hpath).1
      obtain ⟨text', hpicture'⟩ := (c.stores_of_failures h hother).1
      have hread := hkept path hpath text hpicture
      rw [targetOf_congr hstem, hkept other hother text' hpicture'] at hread
      rw [hpicture, hpicture', Except.ok.inj hread]
    · intro hsame path hpath text hpicture
      obtain ⟨earlier, last, later, text', hfiles, hstem, _, hpicture', hread⟩ :=
        c.exists_last h hpath
      have heq := hsame last (by simp [hfiles]) path hpath hstem
      rw [hpicture', hpicture] at heq
      rw [hread, Except.ok.inj heq]

theorem batch_last_stays {words : List ω} (hp : Arguments.parse words = .ok a)
    (hfiles : 2 ≤ a.files.length) (hformat : a.outputFormat.isImage = false) {outcome : Outcome}
    (hrun : (run (m := StateM (Workspace ω)) words).run w = (outcome, after)) (hstatus : outcome.status = 0) :
    ∃ (c : Prepared a w) (directory : ω), a.output = some directory ∧ LastStays c directory after := by
  cases hexecute : (execute a).on w with
  | mk result after' =>
    rw [run_eq hp hexecute] at hrun
    obtain ⟨rfl, rfl⟩ := Prod.mk.inj hrun
    cases result with
    | error e => cases hstatus
    | ok output =>
      obtain ⟨c, directory, texts, w₀, hdirectory, htexts, hmade⟩ := of_on_execute_ok hfiles hexecute
      rw [on_execute c hfiles hformat hdirectory htexts hmade] at hexecute
      obtain ⟨hresult, rfl⟩ := Prod.mk.inj hexecute
      refine ⟨c, directory, hdirectory, c.lastStays ?_⟩
      by_contra hne
      rw [if_neg hne] at hresult
      cases hresult

end

end

def sameStem : Workspace where
  files := [
    (⟨.above 0, ["a", "x.json"]⟩, .text "\x7b\"kind\": \"Pass\"\x7d"),
    (⟨.above 0, ["b", "x.json"]⟩, .text "\x7b\"kind\": \"Break\"\x7d")]
  directories := [⟨.above 0, ["a"]⟩, ⟨.above 0, ["b"]⟩]

def sameStemWords : List String :=
  ["a/x.json", "b/x.json", "-o", "out"]

theorem batch_last_stays_sameStem :
    let a : Arguments := { files := ["a/x.json", "b/x.json"], output := some "out" }
    let ran := (run (m := StateM Workspace) sameStemWords).run sameStem
    Arguments.parse sameStemWords = .ok a ∧ 2 ≤ a.files.length ∧ a.outputFormat.isImage = false ∧
      ran.1.status = 0 ∧ ∃ c : Prepared a sameStem, LastStays c "out" ran.2 ∧
        c.picture "a/x.json" ≠ c.picture "b/x.json" := by
  intro a ran
  have hp : Arguments.parse sameStemWords = .ok a := by decide +kernel
  have hfiles : 2 ≤ a.files.length := Nat.le_refl 2
  have hstatus : ran.1.status = 0 := by decide +kernel
  have hrun : (run (m := StateM Workspace) sameStemWords).run sameStem = (ran.1, ran.2) := rfl
  obtain ⟨c, directory, hdirectory, hc⟩ := batch_last_stays hp hfiles rfl hrun hstatus
  cases hdirectory
  refine ⟨hp, hfiles, rfl, hstatus, c, hc, ?_⟩
  obtain ⟨settings, kinds, asked, hsettings, hkinds, hasked⟩ := c
  cases hsettings
  cases hkinds
  cases hasked
  decide +kernel

section

variable {ω : Type} [Word ω] [DecidableEq ω] {a : Arguments ω} {w w₀ : Workspace ω} {directory : ω}

/-- What a batch does once all its inputs are read: each is written or counted by itself. -/
structure Isolated (c : Prepared a w) (directory : ω) (w₀ : Workspace ω) (outcome : Outcome)
    (after : Workspace ω) : Prop where
  counted : outcome = .ofResult a.traceback
    (if c.failures directory w₀ = 0 then .ok ""
      else .error (.failures (c.failures directory w₀) a.files.length))
  written : ∀ earlier path later text, a.files = earlier ++ path :: later →
    c.picture path = .ok text → (w₀.target (targetOf directory a.outputFormat path)).isOk = true →
      (∀ other ∈ later, outputStem other ≠ outputStem path) →
        after.readFile (targetOf directory a.outputFormat path) = .ok text

theorem source_eq_ok_iff {asked : Option Language} {path : ω} :
    (∃ t, w.source asked path = .ok t) ↔ ∃ code, w.readFile path = .ok code := by
  unfold Workspace.source
  cases w.readFile path with
  | error e => simp [Except.mapError, Except.map]
  | ok code => simp [Except.mapError, Except.map]

theorem batch_isolates {words : List ω} (hp : Arguments.parse words = .ok a)
    (hfiles : 2 ≤ a.files.length) (hformat : a.outputFormat.isImage = false)
    (hdirectory : a.output = some directory) (c : Prepared a w) :
    (∀ earlier path later e, a.files = earlier ++ path :: later →
      (∀ other ∈ earlier, ∃ code, w.readFile other = .ok code) → w.readFile path = .error e →
        (run (m := StateM (Workspace ω)) words).run w =
          (.ofResult a.traceback (.error (.unreadableFile (Word.text path) e)), w)) ∧
    ∀ w₀, (∀ path ∈ a.files, ∃ code, w.readFile path = .ok code) →
      w.makeDirectory directory = (.ok (), w₀) →
        ∃ outcome after, (run (m := StateM (Workspace ω)) words).run w = (outcome, after) ∧
          Isolated c directory w₀ outcome after := by
  constructor
  · -- The inputs are read one after the other before anything is made.
    intro earlier path later e hsplit hearlier hpath
    have hsources : ∀ other ∈ earlier, ∃ t, w.source c.asked other = .ok t :=
      fun other hother => source_eq_ok_iff.mpr (hearlier other hother)
    have herror : w.source c.asked path = .error (.unreadableFile (Word.text path) e) := by
      simp [Workspace.source, hpath, Except.mapError, Except.map]
    have hread := on_readTexts c (isEmpty_files hfiles)
    rw [hsplit, Except.mapM_eq_error hsources herror] at hread
    exact run_eq hp (on_execute_error c hread)
  · intro w₀ hreadable hmade
    obtain ⟨texts, htexts⟩ := Except.exists_mapM_eq_ok_iff.mpr fun path hpath =>
      source_eq_ok_iff.mpr (hreadable path hpath)
    have hrun := run_eq hp (on_execute c hfiles hformat hdirectory htexts hmade)
    refine ⟨_, _, hrun, rfl, ?_⟩
    intro earlier path later text hsplit hpicture htarget hlater
    exact c.readFile_storeAll hsplit hpicture htarget hlater

end

def brokenSecond : Workspace where
  files := [
    (⟨.above 0, ["a.json"]⟩, .text "\x7b\"kind\": \"Pass\"\x7d"),
    (⟨.above 0, ["broken.json"]⟩, .text "\x7b\"kind\"")]

def secondInput (path : String) : Arguments where
  files := ["a.json", path]
  output := some "out"

def brokenSecondPrepared (path : String) : Prepared (secondInput path) brokenSecond where
  settings := {}
  kinds := .standard
  asked := none
  settings_eq := rfl
  kinds_eq := by decide +kernel
  asked_eq := rfl

theorem batch_isolates_brokenSecond :
    (run (m := StateM Workspace) ["a.json", "missing.json", "-o", "out"]).run brokenSecond =
      ({ status := 1, report :=
          "Error: Cannot read input file missing.json: No such file or directory (os error 2)" },
        brokenSecond) ∧
    ∃ text after, (brokenSecondPrepared "broken.json").picture "a.json" = .ok text ∧
      (run (m := StateM Workspace) ["a.json", "broken.json", "-o", "out"]).run brokenSecond =
        ({ status := 1, report := "Error: 1 of 2 inputs failed" }, after) ∧
      after.readFile "out/a.dot" = .ok text := by
  constructor
  · have hp : Arguments.parse ["a.json", "missing.json", "-o", "out"] =
        .ok (secondInput "missing.json") := by decide +kernel
    have hunread := (batch_isolates hp (Nat.le_refl 2) rfl rfl
      (brokenSecondPrepared "missing.json")).1
    have hmissing : brokenSecond.readFile "missing.json" = .error .notFound := by decide +kernel
    apply hunread ["a.json"] "missing.json" [] .notFound rfl _ hmissing
    intro other hother
    obtain rfl := List.mem_singleton.mp hother
    exact Except.isOk_iff_exists.mp (by decide +kernel)
  · have hp : Arguments.parse ["a.json", "broken.json", "-o", "out"] =
        .ok (secondInput "broken.json") := by decide +kernel
    have hread := (batch_isolates hp (Nat.le_refl 2) rfl rfl
      (brokenSecondPrepared "broken.json")).2
    have hreadable : ∀ path ∈ (secondInput "broken.json").files,
        ∃ code, brokenSecond.readFile path = .ok code := by
      intro path hpath
      apply Except.isOk_iff_exists.mp
      revert path
      decide +kernel
    obtain ⟨outcome, after, hrun, hcounted, hwritten⟩ := hread _ hreadable rfl
    obtain ⟨text, hpicture⟩ : ∃ text, (brokenSecondPrepared "broken.json").picture "a.json" = .ok text :=
      Except.isOk_iff_exists.mp (by decide +kernel)
    refine ⟨text, after, hpicture, ?_, ?_⟩
    · rw [hrun, hcounted]
      congr 1
      decide +kernel
    · have htarget : targetOf "out" .dot "a.json" = "out/a.dot" := by decide +kernel
      rw [← htarget]
      apply hwritten [] "a.json" ["broken.json"] text rfl hpicture <;> decide +kernel

end SyntaxGraph.CommandLine
