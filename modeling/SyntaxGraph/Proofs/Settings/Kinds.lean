import SyntaxGraph.Settings.Reader
import SyntaxGraph.Proofs.Kind.Declaring
import SyntaxGraph.Proofs.Toml.Names

namespace SyntaxGraph.Settings

open Toml (Value)

theorem names_mapM {entries : List (String × Value)} {texts : List (String × String)}
    (h : entries.mapM (fun (name, v) => (text? v).map (name, ·)) = some texts) :
    texts.map Prod.fst = entries.map Prod.fst := by
  induction entries generalizing texts with
  | nil =>
    cases h
    rfl
  | cons e entries ih =>
    rw [List.mapM_cons] at h
    obtain ⟨text, htext, h⟩ := Option.bind_eq_some_iff.mp h
    obtain ⟨rest, hrest, h⟩ := Option.bind_eq_some_iff.mp h
    obtain ⟨s, _, rfl⟩ := Option.map_eq_some_iff.mp htext
    cases h
    rw [List.map_cons, List.map_cons, ih hrest]

theorem nodup_entries {v : Value} {entries : List (String × Value)} (hv : v.Distinct)
    (h : entries? v = some entries) : (entries.map Prod.fst).Nodup := by
  unfold entries? at h
  split at h
  · cases h
    cases hv with
    | table hnames _ => exact hnames
  · cases h
    exact List.nodup_singleton _
  · cases h

theorem sorted_texts {v : Value} {texts : List (String × String)} (hv : v.Distinct)
    (h : texts? v = some texts) : texts.Pairwise fun a b => a.1 < b.1 := by
  simp only [texts?, Option.bind_eq_bind, Option.bind_eq_some_iff, Option.pure_def,
    Option.some.injEq] at h
  obtain ⟨entries, hentries, found, hfound, rfl⟩ := h
  have hsorted : (found.mergeSort fun a b => a.1 ≤ b.1).Pairwise fun a b => decide (a.1 ≤ b.1) = true :=
    List.pairwise_mergeSort
      (fun a b c hab hbc => by simpa using String.le_trans (by simpa using hab) (by simpa using hbc))
      (fun a b => by simpa using String.le_total a.1 b.1) found
  have hnames : ((found.mergeSort fun a b => a.1 ≤ b.1).map Prod.fst).Nodup := by
    rw [((List.mergeSort_perm ..).map Prod.fst).nodup_iff, names_mapM hfound]
    exact nodup_entries hv hentries
  refine (hsorted.and (List.pairwise_map.mp hnames)).imp fun h => ?_
  exact Std.lt_of_le_of_ne (by simpa using h.1) h.2

theorem sorted_hierarchy {text : String} {s : Settings} (h : read text = .ok s) :
    s.hierarchy.Pairwise fun a b => a.1 < b.1 := by
  unfold read at h
  split at h
  · cases h
  · next entries hread =>
    split at h
    · cases h
    · next s' hs =>
      cases h
      simp only [ofEntries?, Option.bind_eq_bind, Option.bind_eq_some_iff, Option.pure_def,
        Option.some.injEq] at hs
      obtain ⟨_, _, _, _, _, _, _, _, relations, hrelations, rfl⟩ := hs
      unfold entryD at hrelations
      split at hrelations
      · cases hrelations
        exact List.Pairwise.nil
      · next v hlookup =>
        obtain ⟨before, after, rfl, _⟩ := List.lookup_eq_some_iff.mp hlookup
        cases Toml.distinct_read hread with
        | table _ hitems => exact sorted_texts (hitems ("hierarchy", v) (by simp)) hrelations

/-- The relations are accepted if the first of them close no cycle over the stock kinds, however many of
them are taken; the kinds have then the parents that all of them give. Otherwise the first relation that
closes a cycle is refused. If no stock kind is given another parent, their order does not matter. Settings
that are read from a text hold one relation for a kind, in the order of the kinds' names. -/
theorem kinds_accepted_iff (s : Settings) :
    ((∃ h, s.kinds = .ok h) ↔
        ∀ first, first <+: s.hierarchy → (Hierarchy.standard.parents.override first).Acyclic) ∧
      (∀ h, s.kinds = .ok h →
        h.parents = Hierarchy.standard.parents.override s.hierarchy ∧ h.parents.Acyclic) ∧
      (∀ c, s.kinds = .error c →
        ∃ before after, s.hierarchy = before ++ (c.kind, c.parent) :: after ∧
          (∀ first, first <+: before → (Hierarchy.standard.parents.override first).Acyclic) ∧
          ¬ (Hierarchy.standard.parents.override (before ++ [(c.kind, c.parent)])).Acyclic) ∧
      ((s.hierarchy.map Prod.fst).Nodup →
        (∀ r ∈ s.hierarchy, Hierarchy.standard.parent r.1 = none ∨
          Hierarchy.standard.parent r.1 = some r.2) →
        ((∃ h, s.kinds = .ok h) ↔ (Hierarchy.standard.parents.override s.hierarchy).Acyclic)) ∧
      ∀ text, read text = .ok s → s.hierarchy.Pairwise fun a b => a.1 < b.1 := by
  have hc := Hierarchy.acyclic_standard
  have hiff : (∃ h, s.kinds = .ok h) ↔
      ∀ first, first <+: s.hierarchy → (Hierarchy.standard.parents.override first).Acyclic :=
    Hierarchy.declareAll_isOk_iff hc
  refine ⟨hiff, fun h hd => Hierarchy.of_declareAll hc hd, ?_, ?_, fun text => sorted_hierarchy⟩
  · intro c hd
    obtain ⟨before, after, hs, hbefore, hcycle⟩ := Hierarchy.declareAll_error hc hd
    exact ⟨before, after, hs, (Hierarchy.declareAll_isOk_iff hc).mp hbefore, hcycle⟩
  · intro hn hkept
    rw [hiff]
    constructor
    · intro hall
      exact hall _ List.prefix_rfl
    · intro hall first hf
      exact hall.mono fun a b hab => ParentMap.override_mono hn hkept hf hab

theorem kinds_accepted_iff_newKind :
    let s : Settings := { hierarchy := [("MatchCase", "stmt")] }
    read "[hierarchy]\nMatchCase = 'stmt'" = .ok s ∧ (s.hierarchy.Pairwise fun a b => a.1 < b.1) ∧
      (s.hierarchy.map Prod.fst).Nodup ∧
      (∀ r ∈ s.hierarchy, Hierarchy.standard.parent r.1 = none ∨
        Hierarchy.standard.parent r.1 = some r.2) ∧
      (∃ h, s.kinds = .ok h ∧ h.parents = Hierarchy.standard.parents.override s.hierarchy) ∧
      (Hierarchy.standard.parents.override s.hierarchy).Acyclic := by
  intro s
  obtain ⟨_, hparents, _, hiff, hsorted⟩ := kinds_accepted_iff s
  have hread : read "[hierarchy]\nMatchCase = 'stmt'" = .ok s := by decide +kernel
  have hn : (s.hierarchy.map Prod.fst).Nodup := by decide
  have hkept : ∀ r ∈ s.hierarchy, Hierarchy.standard.parent r.1 = none ∨
      Hierarchy.standard.parent r.1 = some r.2 := by
    decide +kernel
  obtain ⟨h, hok⟩ : ∃ h, s.kinds = .ok h := Except.isOk_iff_exists.mp (by decide +kernel)
  exact ⟨hread, hsorted _ hread, hn, hkept, ⟨h, hok, (hparents h hok).1⟩, (hiff hn hkept).mp ⟨h, hok⟩⟩

theorem kinds_refused_movedFamily :
    let s : Settings := { hierarchy := [("AST", "expr"), ("expr", "Thing")] }
    s.kinds = .error ⟨"AST", "expr"⟩ ∧ (Hierarchy.standard.parents.override s.hierarchy).Acyclic := by
  intro s
  have hswap : Hierarchy.standard.parents.override s.hierarchy =
      Hierarchy.standard.parents.override s.hierarchy.reverse := by
    have hne : ("AST" : Kind) ≠ "expr" := by decide
    change ParentMap.override _ [("AST", "expr"), ("expr", "Thing")] =
      ParentMap.override _ [("expr", "Thing"), ("AST", "expr")]
    simp only [ParentMap.override_cons]
    exact congrArg (ParentMap.override · []) (Function.update_comm hne ..)
  obtain ⟨h, hd⟩ : ∃ h, Hierarchy.standard.declareAll s.hierarchy.reverse = .ok h :=
    Except.isOk_iff_exists.mp (by decide +kernel)
  obtain ⟨hp, hc⟩ := Hierarchy.of_declareAll Hierarchy.acyclic_standard hd
  refine ⟨by decide +kernel, ?_⟩
  rwa [hswap, ← hp]

end SyntaxGraph.Settings
