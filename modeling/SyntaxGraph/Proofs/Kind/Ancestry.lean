import SyntaxGraph.Tree.Basic
import Mathlib.Data.List.Nodup
import Mathlib.Logic.Function.Basic
import Mathlib.Logic.Relation

namespace SyntaxGraph

open Relation

abbrev ParentMap := Kind → Option Kind

namespace ParentMap

def Under (p : ParentMap) (kind parent : Kind) : Prop :=
  p kind = some parent

def Acyclic (p : ParentMap) : Prop :=
  ∀ kind, ¬ TransGen p.Under kind kind

/-- The walk from a kind to its parent, from there to the parent's parent and so on comes to an end, and
these are the kinds on it. -/
inductive Lineage (p : ParentMap) : Kind → List Kind → Prop where
  | root {kind : Kind} : p kind = none → p.Lineage kind [kind]
  | under {kind parent : Kind} {above : List Kind} :
    p kind = some parent → p.Lineage parent above → p.Lineage kind (kind :: above)

def withParent (p : ParentMap) (kind parent : Kind) : ParentMap :=
  Function.update p kind (some parent)

def override (p : ParentMap) (relations : List (Kind × Kind)) : ParentMap :=
  fun kind => (relations.reverse.lookup kind).or (p kind)

section

variable {p : ParentMap} {kind parent a b : Kind} {above : List Kind}

theorem Lineage.mem_iff (h : p.Lineage kind above) : a ∈ above ↔ ReflTransGen p.Under kind a := by
  induction h with
  | root hroot =>
    constructor
    · intro ha
      rw [List.mem_singleton.mp ha]
    · intro ha
      rcases ha.cases_head with rfl | ⟨b, hb, _⟩
      · exact List.mem_cons_self
      · cases hroot.symm.trans hb
  | under hparent _ ih =>
    constructor
    · intro ha
      rcases List.mem_cons.mp ha with rfl | ha
      · exact .refl
      · exact .head hparent (ih.mp ha)
    · intro ha
      rcases ha.cases_head with rfl | ⟨b, hb, hba⟩
      · exact List.mem_cons_self
      · obtain rfl := Option.some.inj (hparent.symm.trans hb)
        exact List.mem_cons_of_mem _ (ih.mpr hba)

theorem comparable (ha : ReflTransGen p.Under kind a) (hb : ReflTransGen p.Under kind b) :
    ReflTransGen p.Under a b ∨ ReflTransGen p.Under b a := by
  apply ReflTransGen.total_of_right_unique _ ha hb
  intro c d e hd he
  exact Option.some.inj (hd.symm.trans he)

theorem Acyclic.antisymm (hp : p.Acyclic) (hab : ReflTransGen p.Under a b)
    (hba : ReflTransGen p.Under b a) : a = b := by
  rcases reflTransGen_iff_eq_or_transGen.mp hab with rfl | hab
  · rfl
  · exact absurd (hab.trans_left hba) (hp a)

theorem withParent_self (p : ParentMap) (kind parent : Kind) :
    p.withParent kind parent kind = some parent :=
  Function.update_self ..

theorem withParent_of_ne (h : a ≠ kind) : p.withParent kind parent a = p a :=
  Function.update_of_ne h ..

theorem Under.withParent (h : p.Under a b) (ha : a ≠ kind) : (p.withParent kind parent).Under a b :=
  (withParent_of_ne ha).trans h

theorem of_under_withParent (h : (p.withParent kind parent).Under a b) :
    a = kind ∧ b = parent ∨ p.Under a b := by
  by_cases ha : a = kind
  · subst ha
    exact Or.inl ⟨rfl, (Option.some.inj ((p.withParent_self a parent).symm.trans h)).symm⟩
  · exact Or.inr ((withParent_of_ne ha).symm.trans h)

theorem reaches_withParent (h : ReflTransGen p.Under a kind) :
    ReflTransGen (p.withParent kind parent).Under a kind := by
  induction h using ReflTransGen.head_induction_on with
  | refl => exact .refl
  | @head b c hbc _ ih =>
    by_cases hb : b = kind
    · rw [hb]
    · exact .head (hbc.withParent hb) ih

theorem of_reaches_withParent (h : TransGen (p.withParent kind parent).Under a b) :
    TransGen p.Under a b ∨ ReflTransGen p.Under a kind ∧ ReflTransGen p.Under parent b := by
  induction h with
  | single hab =>
    rcases of_under_withParent hab with ⟨rfl, rfl⟩ | hab
    · exact Or.inr ⟨.refl, .refl⟩
    · exact Or.inl (.single hab)
  | tail _ hbc ih =>
    rcases of_under_withParent hbc with ⟨rfl, rfl⟩ | hbc
    · rcases ih with hak | ⟨hak, _⟩
      · exact Or.inr ⟨hak.to_reflTransGen, .refl⟩
      · exact Or.inr ⟨hak, .refl⟩
    · rcases ih with hab | ⟨hak, hpb⟩
      · exact Or.inl (hab.tail hbc)
      · exact Or.inr ⟨hak, hpb.tail hbc⟩

theorem Acyclic.withParent_iff (hp : p.Acyclic) :
    (p.withParent kind parent).Acyclic ↔ ¬ ReflTransGen p.Under parent kind := by
  constructor
  · intro hnew hreach
    exact hnew kind (.head' (p.withParent_self kind parent) (reaches_withParent hreach))
  · intro hreach a ha
    rcases of_reaches_withParent ha with ha | ⟨hak, hpa⟩
    · exact hp a ha
    · exact hreach (hpa.trans hak)

theorem acyclic_of_forall_none (h : ∀ kind, p kind = none) : p.Acyclic := by
  intro kind hkind
  obtain ⟨parent, hparent, _⟩ := TransGen.head'_iff.mp hkind
  cases (h kind).symm.trans hparent

theorem Acyclic.mono {q : ParentMap} (hp : p.Acyclic) (h : ∀ a b, q.Under a b → p.Under a b) :
    q.Acyclic :=
  fun kind hkind => hp kind (hkind.lift id h)

theorem override_of_mem {relations : List (Kind × Kind)} (hn : (relations.map Prod.fst).Nodup)
    (h : (a, b) ∈ relations) : p.override relations a = some b := by
  have hlookup : relations.reverse.lookup a = some b := by
    obtain ⟨before, after, hr⟩ := List.append_of_mem (List.mem_reverse.mpr h)
    rw [← List.nodup_reverse, ← List.map_reverse, hr, List.map_append, List.map_cons] at hn
    refine List.lookup_eq_some_iff.mpr ⟨before, after, hr, fun r hrb => ?_⟩
    have hne := (List.nodup_append.mp hn).2.2 r.1 (List.mem_map_of_mem hrb) a List.mem_cons_self
    simpa using hne.symm
  rw [override, hlookup]
  rfl

theorem of_override {relations : List (Kind × Kind)} (h : p.override relations a = some b) :
    (a, b) ∈ relations ∨ p a = some b := by
  rcases Option.or_eq_some_iff.mp h with hlookup | ⟨_, hp⟩
  · obtain ⟨before, after, hr, _⟩ := List.lookup_eq_some_iff.mp hlookup
    exact Or.inl (List.mem_reverse.mp (by simp [hr]))
  · exact Or.inr hp

theorem override_mono {first relations : List (Kind × Kind)} (hn : (relations.map Prod.fst).Nodup)
    (hkept : ∀ r ∈ relations, p r.1 = none ∨ p r.1 = some r.2) (hf : first <+: relations) {a b : Kind}
    (h : (p.override first).Under a b) : (p.override relations).Under a b := by
  rcases of_override h with hmem | hp
  · exact override_of_mem hn (hf.subset hmem)
  · cases hr : p.override relations a with
    | none =>
      have hnone := (Option.or_eq_none_iff.mp hr).2
      cases hnone.symm.trans hp
    | some c =>
      rcases of_override hr with hmem | hp'
      · rcases hkept _ hmem with hnone | hsame
        · cases hnone.symm.trans hp
        · rw [Option.some.inj (hp.symm.trans hsame)]
          exact hr
      · rw [Option.some.inj (hp.symm.trans hp')]
        exact hr

theorem override_nil (p : ParentMap) : p.override [] = p := by
  funext kind
  rfl

theorem override_cons (p : ParentMap) (kind parent : Kind) (relations : List (Kind × Kind)) :
    p.override ((kind, parent) :: relations) = (p.withParent kind parent).override relations := by
  funext a
  simp only [override, List.reverse_cons, List.lookup_append, Option.or_assoc]
  congr 1
  by_cases ha : a = kind
  · subst ha
    simp [withParent_self]
  · simp [withParent_of_ne ha, List.lookup_cons, beq_eq_false_iff_ne.mpr ha]

end

end ParentMap

end SyntaxGraph
