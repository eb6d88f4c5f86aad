import SyntaxGraph.Proofs.Kind.Declaring

namespace SyntaxGraph

open Relation

namespace ParentMap

def Extends (q p : ParentMap) : Prop :=
  ∀ a b, p.Under a b → q.Under a b

section

variable {p q : ParentMap} {kind top a b : Kind} {relations : List (Kind × Kind)}

theorem extends_override (hnew : ∀ r ∈ relations, p r.1 = none) : (p.override relations).Extends p := by
  intro a b hab
  have hlookup : relations.reverse.lookup a = none := by
    rw [List.lookup_eq_none_iff]
    intro r hr
    rw [bne_iff_ne]
    rintro rfl
    cases (hnew r (List.mem_reverse.mp hr)).symm.trans hab
  rw [Under, override, hlookup]
  exact hab

theorem Extends.reaches (h : q.Extends p) (hab : ReflTransGen p.Under a b) : ReflTransGen q.Under a b :=
  hab.lift id h

theorem Extends.reaches_cases (h : q.Extends p) (htop : ReflTransGen p.Under kind top)
    (ha : ReflTransGen q.Under kind a) : ReflTransGen p.Under kind a ∨ ReflTransGen q.Under top a := by
  induction htop using ReflTransGen.head_induction_on with
  | refl => exact Or.inr ha
  | @head b c hbc _ ih =>
    rcases ha.cases_head with rfl | ⟨d, hd, hda⟩
    · exact Or.inl .refl
    · obtain rfl := Option.some.inj ((h b c hbc).symm.trans hd)
      exact (ih hda).imp_left (.head hbc)

theorem Extends.reaches_iff (h : q.Extends p) (hq : q.Acyclic) (hkind : ReflTransGen p.Under kind top)
    (ha : TransGen p.Under a top) : ReflTransGen q.Under kind a ↔ ReflTransGen p.Under kind a := by
  constructor
  · intro hreach
    rcases h.reaches_cases hkind hreach with hold | habove
    · exact hold
    · have hbelow : TransGen q.Under a top := ha.lift id h
      exact absurd (hbelow.trans_right habove) (hq top)
  · exact h.reaches

end

end ParentMap

namespace Hierarchy

variable {h : Hierarchy} {relations : List (Kind × Kind)} {kind a : Kind}

theorem extends_of_declareAll (hnew : ∀ r ∈ relations, standard.parent r.1 = none)
    (hd : standard.declareAll relations = .ok h) :
    h.parents.Extends standard.parents ∧ h.parents.Acyclic := by
  obtain ⟨hp, hc⟩ := of_declareAll acyclic_standard hd
  rw [hp] at hc ⊢
  exact ⟨ParentMap.extends_override hnew, hc⟩

theorem isSubkind_extended (h : Hierarchy) (hc : h.parents.Acyclic)
    (he : h.parents.Extends standard.parents) (hkind : standard.isSubkind kind Kind.root = true)
    (ha : standard.isSubkind a Kind.root = true) (hroot : a ≠ Kind.root) :
    h.isSubkind kind a = standard.isSubkind kind a := by
  rw [isSubkind_iff acyclic_standard] at hkind ha
  have habove : TransGen standard.parents.Under a Kind.root :=
    (reflTransGen_iff_eq_or_transGen.mp ha).resolve_left hroot.symm
  rw [Bool.eq_iff_iff, isSubkind_iff hc, isSubkind_iff acyclic_standard]
  exact he.reaches_iff hc hkind habove

end Hierarchy

end SyntaxGraph
