import SyntaxGraph.Proofs.Kind.Declaring

namespace SyntaxGraph

namespace ParentMap

variable {p : ParentMap} {kind parent a b : Kind} {above other : List Kind}

theorem Lineage.unique (h : p.Lineage a above) (h' : p.Lineage a other) : above = other := by
  induction h generalizing other with
  | root hroot =>
    cases h' with
    | root => rfl
    | under hparent _ => cases hroot.symm.trans hparent
  | under hparent _ ih =>
    cases h' with
    | root hroot => cases hroot.symm.trans hparent
    | under hparent' habove =>
      obtain rfl := Option.some.inj (hparent.symm.trans hparent')
      rw [ih habove]

theorem withParent_comm (p : ParentMap) {kind kind' : Kind} (h : kind ≠ kind') (parent parent' : Kind) :
    (p.withParent kind parent).withParent kind' parent' =
      (p.withParent kind' parent').withParent kind parent :=
  Function.update_comm h _ _ p

theorem Lineage.withParent_of_not_mem (h : p.Lineage a above) (hk : kind ∉ above) :
    (p.withParent kind parent).Lineage a above := by
  induction h with
  | root hroot =>
    have hne := mt List.mem_singleton.mpr hk
    exact .root ((withParent_of_ne (Ne.symm hne)).trans hroot)
  | under hparent _ ih =>
    obtain ⟨hne, habove⟩ := not_or.mp (mt List.mem_cons.mpr hk)
    exact .under ((withParent_of_ne (Ne.symm hne)).trans hparent) (ih habove)

theorem Lineage.withParent_of_mem (h : p.Lineage a above) (hk : kind ∈ above)
    (hparent : (p.withParent kind parent).Lineage parent other) :
    (p.withParent kind parent).Lineage a (above.takeWhile (· != kind) ++ kind :: other) := by
  have hkind : (p.withParent kind parent).Lineage kind (kind :: other) :=
    .under (p.withParent_self kind parent) hparent
  induction h with
  | root hroot =>
    obtain rfl := List.mem_singleton.mp hk
    simpa using hkind
  | @under b c above hb _ ih =>
    by_cases hbk : b = kind
    · subst hbk
      simpa using hkind
    · have htest : (b != kind) = true := bne_iff_ne.mpr hbk
      have habove : kind ∈ above := (List.mem_cons.mp hk).resolve_left (Ne.symm hbk)
      rw [List.takeWhile_cons, if_pos htest]
      exact .under ((withParent_of_ne hbk).trans hb) (ih habove)

end ParentMap

namespace Hierarchy

/-- The second hierarchy is the first one with the kind, and all below it, moved to stand under the parent. -/
structure Moved (h h' : Hierarchy) (kind parent : Kind) : Prop where
  elsewhere : ∀ x, h.isSubkind x kind = false → h'.ancestors x = h.ancestors x
  below : ∀ x, h.isSubkind x kind = true →
    h'.ancestors x = (h.ancestors x).takeWhile (· != kind) ++ kind :: h.ancestors parent
  above : h'.ancestors parent = h.ancestors parent

section

variable {h h' : Hierarchy} {kind parent a : Kind}

theorem not_isSubkind_of_declare (hd : h.declare kind parent = .ok h') : h.isSubkind parent kind = false := by
  rw [← Bool.not_eq_true]
  intro hsub
  rw [declare, if_pos hsub] at hd
  cases hd

theorem not_mem_ancestors (hk : h.isSubkind a kind = false) : kind ∉ h.ancestors a := by
  intro hmem
  rw [isSubkind, List.contains_iff_mem.mpr hmem] at hk
  cases hk

theorem ancestors_eq_of_lineage {above : List Kind} (hc : h.parents.Acyclic) (ha : h.parents.Lineage a above) :
    h.ancestors a = above :=
  (lineage_ancestors hc a).unique ha

theorem ancestors_congr (hc : h.parents.Acyclic) (hp : h.parents = h'.parents) (x : Kind) :
    h.ancestors x = h'.ancestors x :=
  ancestors_eq_of_lineage hc (hp ▸ lineage_ancestors (hp ▸ hc) x)

theorem moved_of_declare (hc : h.parents.Acyclic) (hd : h.declare kind parent = .ok h') :
    h.Moved h' kind parent := by
  obtain ⟨hp, hc'⟩ := of_declare hc hd
  have hkept {x : Kind} (hx : h.isSubkind x kind = false) : h'.parents.Lineage x (h.ancestors x) := by
    rw [hp]
    exact (lineage_ancestors hc x).withParent_of_not_mem (not_mem_ancestors hx)
  have hparent := hkept (not_isSubkind_of_declare hd)
  constructor
  case elsewhere => exact fun x hx => ancestors_eq_of_lineage hc' (hkept hx)
  case below =>
    intro x hx
    apply ancestors_eq_of_lineage hc'
    rw [hp] at hparent ⊢
    exact (lineage_ancestors hc x).withParent_of_mem (List.contains_iff_mem.mp hx) hparent
  case above => exact ancestors_eq_of_lineage hc' hparent

theorem declare_moves (hd : h.Declared) (hok : h.declare kind parent = .ok h') :
    h.Moved h' kind parent ∧
      ∀ kind' parent' h₁ h₂ h₃, kind ≠ kind' → h'.declare kind' parent' = .ok h₁ →
        h.declare kind' parent' = .ok h₂ → h₂.declare kind parent = .ok h₃ →
        h₁.parents = h₃.parents ∧ ∀ x, h₁.ancestors x = h₃.ancestors x := by
  refine ⟨moved_of_declare hd.acyclic hok, ?_⟩
  intro kind' parent' h₁ h₂ h₃ hne h₁d h₂d h₃d
  obtain ⟨hp, hc⟩ := of_declare hd.acyclic hok
  obtain ⟨hp₁, hc₁⟩ := of_declare hc h₁d
  obtain ⟨hp₂, hc₂⟩ := of_declare hd.acyclic h₂d
  obtain ⟨hp₃, hc₃⟩ := of_declare hc₂ h₃d
  have hsame : h₁.parents = h₃.parents := by
    rw [hp₁, hp₃, hp, hp₂, ParentMap.withParent_comm _ hne]
  exact ⟨hsame, ancestors_congr hc₁ hsame⟩

end

theorem declare_moves_expressions :
    let h : Hierarchy := ⟨("expr", "stmt") :: standard.relations⟩
    let h₁ : Hierarchy := ⟨("Field", "Name") :: h.relations⟩
    let h₂ : Hierarchy := ⟨("Field", "Name") :: standard.relations⟩
    let h₃ : Hierarchy := ⟨("expr", "stmt") :: h₂.relations⟩
    Declared .standard ∧ standard.declare "expr" "stmt" = .ok h ∧ h.declare "Field" "Name" = .ok h₁ ∧
      standard.declare "Field" "Name" = .ok h₂ ∧ h₂.declare "expr" "stmt" = .ok h₃ ∧
      h.ancestors "Name" = ["Name", "expr", "stmt", "AST"] ∧
      h.ancestors "If" = standard.ancestors "If" ∧ h.ancestors "stmt" = standard.ancestors "stmt" ∧
      h₁.parents = h₃.parents ∧ h₁.ancestors "Field" = h₃.ancestors "Field" := by
  intro h h₁ h₂ h₃
  have hok : standard.declare "expr" "stmt" = .ok h := by decide +kernel
  have h₁d : h.declare "Field" "Name" = .ok h₁ := by decide +kernel
  have h₂d : standard.declare "Field" "Name" = .ok h₂ := by decide +kernel
  have h₃d : h₂.declare "expr" "stmt" = .ok h₃ := by decide +kernel
  obtain ⟨hmoved, hcomm⟩ := declare_moves .standard hok
  obtain ⟨hparents, hancestors⟩ := hcomm "Field" "Name" h₁ h₂ h₃ (by decide) h₁d h₂d h₃d
  have hname : h.ancestors "Name" = ["Name", "expr", "stmt", "AST"] :=
    (hmoved.below "Name" (by decide +kernel)).trans (by decide +kernel)
  exact ⟨.standard, hok, h₁d, h₂d, h₃d, hname, hmoved.elsewhere "If" (by decide +kernel), hmoved.above,
    hparents, hancestors "Field"⟩

end Hierarchy

end SyntaxGraph
