import SyntaxGraph.Proofs.CommandLine.Attempts
import SyntaxGraph.Proofs.CommandLine.Writing
import SyntaxGraph.Proofs.Except

namespace SyntaxGraph.CommandLine

variable {ω : Type} [Word ω] [DecidableEq ω]

namespace Workspace

section

variable {ε : Type} {w w' : Workspace ω} {picture : Except ε String} {path : ω} {l : Location ω}
  {results before after : List (Except ε String × ω)}

def store (w : Workspace ω) (picture : Except ε String) (path : ω) : Workspace ω :=
  match picture, w.target path with
  | .ok text, .ok l => w.put l (.text text)
  | _, _ => w

theorem store_ok {text : String} (hl : w.target path = .ok l) :
    w.store (.ok text : Except ε String) path = w.put l (.text text) := by
  simp only [store, hl]

def stores (w : Workspace ω) (picture : Except ε String) (path : ω) : Bool :=
  picture.isOk && (w.target path).isOk

def storeAll (w : Workspace ω) (results : List (Except ε String × ω)) : Workspace ω :=
  results.foldl (fun w r => w.store r.1 r.2) w

theorem toPlaces_store (w : Workspace ω) (picture : Except ε String) (path : ω) :
    (w.store picture path).toPlaces = w.toPlaces := by
  unfold store
  split <;> rfl

theorem storeAll_cons (w : Workspace ω) (r : Except ε String × ω)
    (results : List (Except ε String × ω)) :
    w.storeAll (r :: results) = (w.store r.1 r.2).storeAll results :=
  rfl

theorem storeAll_append (w : Workspace ω) (before after : List (Except ε String × ω)) :
    w.storeAll (before ++ after) = (w.storeAll before).storeAll after :=
  List.foldl_append

theorem toPlaces_storeAll (w : Workspace ω) (results : List (Except ε String × ω)) :
    (w.storeAll results).toPlaces = w.toPlaces := by
  induction results generalizing w with
  | nil => rfl
  | cons r results ih => exact (ih _).trans (toPlaces_store w r.1 r.2)

theorem stores_congr (hd : w'.toPlaces = w.toPlaces) :
    w'.stores picture path = w.stores picture path := by
  have htarget : (w'.target path).isOk = (w.target path).isOk := by
    rw [Bool.eq_iff_iff, Except.isOk_iff_exists, Except.isOk_iff_exists]
    simp only [target_congr hd]
  rw [stores, stores, htarget]

/-- Files have changed only where one of the pictures that could be drawn was to be written. -/
structure Overwrites (w' w : Workspace ω) (results : List (Except ε String × ω)) : Prop where
  toPlaces : w'.toPlaces = w.toPlaces
  file? : ∀ l, (∀ r ∈ results, r.1.isOk = true → w.target r.2 ≠ .ok l) → w'.file? l = w.file? l

theorem Overwrites.refl (w : Workspace ω) (results : List (Except ε String × ω)) :
    w.Overwrites w results :=
  ⟨rfl, fun _ _ => rfl⟩

theorem Overwrites.cons {w'' : Workspace ω} {r : Except ε String × ω} (h : w'.Overwrites w [r])
    (h' : w''.Overwrites w' results) : w''.Overwrites w (r :: results) where
  toPlaces := h'.toPlaces.trans h.toPlaces
  file? l hl := by
    obtain ⟨hr, hrest⟩ := List.forall_mem_cons.mp hl
    refine (h'.file? l fun r' hr' hok => ?_).trans (h.file? l (List.forall_mem_singleton.mpr hr))
    rw [Ne, target_congr h.toPlaces]
    exact hrest r' hr' hok

theorem overwrites_put (hp : picture.isOk = true) (hl : w.target path = .ok l) (c : Content) :
    (w.put l c).Overwrites w [(picture, path)] where
  toPlaces := rfl
  file? m hm := by
    rw [file?_put, if_neg]
    rintro rfl
    exact List.forall_mem_singleton.mp hm hp hl

theorem overwrites_store (w : Workspace ω) (picture : Except ε String) (path : ω) :
    (w.store picture path).Overwrites w [(picture, path)] := by
  unfold store
  split
  · next text l hl => exact overwrites_put rfl hl (.text text)
  · exact .refl w _

theorem overwrites_storeAll (w : Workspace ω) (results : List (Except ε String × ω)) :
    (w.storeAll results).Overwrites w results := by
  induction results generalizing w with
  | nil => exact .refl w []
  | cons r results ih => exact (overwrites_store w r.1 r.2).cons (ih _)

theorem file?_storeAll_last {text : String} (hl : w.target path = .ok l)
    (hafter : ∀ r ∈ after, r.1.isOk = true → w.target r.2 ≠ .ok l) :
    (w.storeAll (before ++ (.ok text, path) :: after)).file? l = some (.text text) := by
  have hd := toPlaces_storeAll w before
  have hl' : (w.storeAll before).target path = .ok l := (target_congr hd).mpr hl
  rw [storeAll_append, storeAll_cons, (overwrites_storeAll _ after).file?]
  · rw [store_ok hl', file?_put, if_pos rfl]
  · intro r hr hok
    rw [Ne, target_congr ((toPlaces_store _ _ _).trans hd)]
    exact hafter r hr hok

end

end Workspace

section

variable {w : Workspace ω} {format : OutputFormat}

theorem deliverPicture_text (hf : format.isImage = false) (text : String) (path : ω) :
    deliverPicture (m := StateM (Workspace ω)) format (.ok text) (some path) =
      attempt (Host.writeFile path text) (.unwritable (Word.text path)) >>= fun _ => pure "" := by
  simp [deliverPicture, deliver, hf]

theorem deliverPicture_image (hf : format.isImage = true) (text : String) (path : ω) :
    deliverPicture (m := StateM (Workspace ω)) format (.ok text) (some path) =
      render format text path >>= fun _ => pure "" := by
  simp [deliverPicture, deliver, hf]

theorem on_deliverPicture (hf : format.isImage = false) (picture : Except PipelineError String)
    (path : ω) (w : Workspace ω) : ∃ result, result.isOk = w.stores picture path ∧
      (deliverPicture format picture (some path)).on w = (result, w.store picture path) := by
  cases picture with
  | error e => exact ⟨.error (.pipeline e), rfl, rfl⟩
  | ok text =>
    have hwrite := on_writeFile path text (.unwritable (Word.text path)) w
    rw [deliverPicture_text hf]
    cases ht : w.target path with
    | error e =>
      simp only [Workspace.writeFile, ht] at hwrite
      refine ⟨.error (.unwritable (Word.text path) e), ?_, ?_⟩
      · simp [Workspace.stores, ht, Except.isOk, Except.toBool]
      · simp only [Workspace.store, ht]
        exact on_bind_error hwrite
    | ok l =>
      simp only [Workspace.writeFile, ht] at hwrite
      refine ⟨.ok "", ?_, ?_⟩
      · simp [Workspace.stores, ht, Except.isOk, Except.toBool]
      · simp only [Workspace.store, ht]
        exact on_bind_ok hwrite

theorem run_deliverAll (hf : format.isImage = false) (results : List (Except PipelineError String × ω))
    (w : Workspace ω) :
    (deliverAll (m := StateM (Workspace ω)) format (results.map fun r => (r.1, some r.2))).run w =
      (results.countP fun r => !w.stores r.1 r.2, w.storeAll results) := by
  induction results generalizing w with
  | nil => rfl
  | cons r results ih =>
    obtain ⟨result, hok, hrun⟩ := on_deliverPicture hf r.1 r.2 w
    have hd := Workspace.toPlaces_store w r.1 r.2
    -- What has been written so far is in no other text's way.
    have hcount : (results.countP fun r' => !(w.store r.1 r.2).stores r'.1 r'.2) =
        results.countP fun r' => !w.stores r'.1 r'.2 := by
      simp only [Workspace.stores_congr hd]
    have hrest := ih (w.store r.1 r.2)
    rw [hcount] at hrest
    refine (run_bind hrun).trans ((run_bind hrest).trans ?_)
    rw [List.countP_cons, Workspace.storeAll_cons, ← hok]
    cases result <;> rfl

end

section

variable {w : Workspace ω} {picture : Except PipelineError String} {path : ω} {text : String}

theorem overwrites_writeFile (hp : picture.isOk = true) (w : Workspace ω) (path : ω) (text : String) :
    (w.writeFile path text).2.Overwrites w [(picture, path)] := by
  unfold Workspace.writeFile
  split
  · exact .refl w _
  · next l hl => exact Workspace.overwrites_put hp hl (.text text)

theorem overwrites_pipeToDot (hp : picture.isOk = true) (w : Workspace ω) (format : String) (path : ω) (text : String) :
    (w.pipeToDot format path text).2.Overwrites w [(picture, path)] := by
  unfold Workspace.pipeToDot
  split
  · exact .refl w _
  · split
    · next c l hl _ => exact Workspace.overwrites_put hp hl c
    · exact .refl w _

theorem snd_on_render (format : OutputFormat) (text : String) (path : ω) (w : Workspace ω) :
    ((render format text path).on w).2 = (w.pipeToDot format.name path text).2 := by
  unfold render
  rw [snd_on_bind (fun _ => reads_liftM _), on_pipeToDot]

theorem overwrites_deliverPicture (format : OutputFormat) (picture : Except PipelineError String)
    (path : ω) (w : Workspace ω) :
    ((deliverPicture format picture (some path)).on w).2.Overwrites w [(picture, path)] := by
  cases picture with
  | error e => exact .refl w _
  | ok text =>
    cases hf : format.isImage with
    | true =>
      rw [deliverPicture_image hf, snd_on_bind (fun _ => Attempt.reads_pure _), snd_on_render]
      exact overwrites_pipeToDot rfl w _ path text
    | false =>
      rw [deliverPicture_text hf, snd_on_bind (fun _ => Attempt.reads_pure _), on_writeFile]
      exact overwrites_writeFile rfl w path text

theorem overwrites_deliverAll (format : OutputFormat) (results : List (Except PipelineError String × ω))
    (w : Workspace ω) :
    ((deliverAll (m := StateM (Workspace ω)) format (results.map fun r => (r.1, some r.2))).run w).2.Overwrites
      w results := by
  induction results generalizing w with
  | nil => exact .refl w []
  | cons r results ih =>
    have hfirst := overwrites_deliverPicture format r.1 r.2 w
    cases hf : (deliverPicture format r.1 (some r.2)).on w with
    | mk result w₁ =>
      have hrest := ih w₁
      cases hr : (deliverAll (m := StateM (Workspace ω)) format (results.map fun r => (r.1, some r.2))).run w₁ with
      | mk failed w₂ =>
        rw [hf] at hfirst
        rw [hr] at hrest
        have hrun : ∃ count, (deliverAll (m := StateM (Workspace ω)) format
            ((r :: results).map fun r => (r.1, some r.2))).run w = (count, w₂) :=
          ⟨_, (run_bind hf).trans ((run_bind hr).trans rfl)⟩
        obtain ⟨count, hrun⟩ := hrun
        rw [hrun]
        exact hfirst.cons hrest

end

end SyntaxGraph.CommandLine
