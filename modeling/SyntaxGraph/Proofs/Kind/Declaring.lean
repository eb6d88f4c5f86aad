import SyntaxGraph.Kind.Standard
import SyntaxGraph.Proofs.Except
import SyntaxGraph.Proofs.Kind.Ancestry

/-!
What declarations make of a hierarchy. No sequence of them, refused ones included, puts a kind above
itself, so the ancestors of a kind are all found, and a declaration is refused exactly if it would close
a cycle. The stock hierarchy is what its own relations lead to when they are declared one by one.
-/

namespace SyntaxGraph.Hierarchy

open Relation

abbrev parents (h : Hierarchy) : ParentMap :=
  h.parent

inductive Declared : Hierarchy → Prop where
  | empty : Declared .empty
  | standard : Declared .standard
  | declare {h h' : Hierarchy} {kind parent : Kind} :
    Declared h → h.declare kind parent = .ok h' → Declared h'

def attempt (h : Hierarchy) (relation : Kind × Kind) : Hierarchy :=
  match h.declare relation.1 relation.2 with
  | .ok h' => h'
  | .error _ => h

def attemptAll (h : Hierarchy) (relations : List (Kind × Kind)) : Hierarchy :=
  relations.foldl attempt h

/-- The kinds are partially ordered, those above one kind linearly, and the order is the one that the
relations stand for. -/
structure Ordered (h : Hierarchy) : Prop where
  acyclic : h.parents.Acyclic
  lineage : ∀ kind, h.parents.Lineage kind (h.ancestors kind)
  nodup : ∀ kind, (h.ancestors kind).Nodup
  reaches : ∀ kind a, h.isSubkind kind a = true ↔ ReflTransGen h.parents.Under kind a
  refl : ∀ kind, h.isSubkind kind kind = true
  trans : ∀ a b c, h.isSubkind a b = true → h.isSubkind b c = true → h.isSubkind a c = true
  antisymm : ∀ a b, h.isSubkind a b = true → h.isSubkind b a = true → a = b
  comparable : ∀ kind a b, a ∈ h.ancestors kind → b ∈ h.ancestors kind →
    h.isSubkind a b = true ∨ h.isSubkind b a = true

/-- A declaration that would close a cycle is refused and changes nothing; any other one gives the kind
its parent and changes nothing else. -/
structure Guarded (h : Hierarchy) (kind parent : Kind) : Prop where
  refused : h.declare kind parent = .error ⟨kind, parent⟩ ↔ ¬ (h.parents.withParent kind parent).Acyclic
  unchanged : ¬ (h.parents.withParent kind parent).Acyclic → h.attempt (kind, parent) = h
  changed : (h.parents.withParent kind parent).Acyclic →
    (h.attempt (kind, parent)).parents = h.parents.withParent kind parent

section

variable {h h' : Hierarchy} {kind parent a : Kind} {n : Nat} {relations : List (Kind × Kind)}

theorem mem_relations_of_parent (hp : h.parent kind = some parent) : (kind, parent) ∈ h.relations := by
  obtain ⟨before, after, hrel, _⟩ := List.lookup_eq_some_iff.mp hp
  simp [hrel]

theorem chain_of_root (hp : h.parent kind = none) (n : Nat) : h.chain n kind = [kind] := by
  cases n with
  | zero => rfl
  | succ n => simp [chain, hp]

theorem chain_of_parent (hp : h.parent kind = some parent) (n : Nat) :
    h.chain (n + 1) kind = kind :: h.chain n parent := by
  simp [chain, hp]

theorem self_mem_chain (h : Hierarchy) (n : Nat) (kind : Kind) : kind ∈ h.chain n kind := by
  cases n <;> simp [chain]

theorem self_mem_ancestors (h : Hierarchy) (kind : Kind) : kind ∈ h.ancestors kind :=
  h.self_mem_chain _ kind

theorem reaches_of_mem_chain (ha : a ∈ h.chain n kind) : ReflTransGen h.parents.Under kind a := by
  induction n generalizing kind with
  | zero => rw [List.mem_singleton.mp ha]
  | succ n ih =>
    cases hp : h.parent kind with
    | none =>
      rw [chain_of_root hp] at ha
      rw [List.mem_singleton.mp ha]
    | some parent =>
      rw [chain_of_parent hp] at ha
      rcases List.mem_cons.mp ha with rfl | ha
      · exact .refl
      · exact .head hp (ih ha)

theorem nodup_chain (hc : h.parents.Acyclic) (n : Nat) (kind : Kind) : (h.chain n kind).Nodup := by
  induction n generalizing kind with
  | zero => exact List.nodup_cons.mpr ⟨List.not_mem_nil, List.nodup_nil⟩
  | succ n ih =>
    cases hp : h.parent kind with
    | none =>
      rw [chain_of_root hp]
      exact List.nodup_cons.mpr ⟨List.not_mem_nil, List.nodup_nil⟩
    | some parent =>
      rw [chain_of_parent hp]
      refine List.nodup_cons.mpr ⟨fun hmem => ?_, ih parent⟩
      exact hc kind (.head' hp (reaches_of_mem_chain hmem))

theorem chain_cases (h : Hierarchy) (n : Nat) (kind : Kind) :
    h.parents.Lineage kind (h.chain n kind) ∨
      (h.chain n kind).length = n + 1 ∧ h.chain n kind ⊆ h.relations.map Prod.fst := by
  induction n generalizing kind with
  | zero =>
    cases hp : h.parent kind with
    | none => exact Or.inl (.root hp)
    | some parent =>
      refine Or.inr ⟨rfl, fun a ha => ?_⟩
      rw [List.mem_singleton.mp ha]
      exact List.mem_map.mpr ⟨_, mem_relations_of_parent hp, rfl⟩
  | succ n ih =>
    cases hp : h.parent kind with
    | none =>
      rw [chain_of_root hp]
      exact Or.inl (.root hp)
    | some parent =>
      rw [chain_of_parent hp]
      rcases ih parent with hl | ⟨hlen, hsub⟩
      · exact Or.inl (.under hp hl)
      · refine Or.inr ⟨congrArg (· + 1) hlen, List.cons_subset.mpr ⟨?_, hsub⟩⟩
        exact List.mem_map.mpr ⟨_, mem_relations_of_parent hp, rfl⟩

theorem lineage_ancestors (hc : h.parents.Acyclic) (kind : Kind) :
    h.parents.Lineage kind (h.ancestors kind) := by
  rcases h.chain_cases h.relations.length kind with hl | ⟨hlen, hsub⟩
  · exact hl
  · have hle := (nodup_chain hc h.relations.length kind).length_le_of_subset hsub
    rw [hlen, List.length_map] at hle
    exact absurd hle (Nat.not_succ_le_self _)

theorem isSubkind_iff (hc : h.parents.Acyclic) :
    h.isSubkind kind a = true ↔ ReflTransGen h.parents.Under kind a :=
  List.contains_iff_mem.trans (lineage_ancestors hc kind).mem_iff

theorem parents_cons (h : Hierarchy) (kind parent : Kind) :
    parents ⟨(kind, parent) :: h.relations⟩ = h.parents.withParent kind parent := by
  funext a
  by_cases ha : a = kind
  · subst ha
    rw [ParentMap.withParent_self]
    simp [Hierarchy.parent]
  · rw [ParentMap.withParent_of_ne ha]
    simp [Hierarchy.parent, List.lookup_cons, beq_eq_false_iff_ne.mpr ha]

theorem declare_of_acyclic (hc : h.parents.Acyclic) (hnew : (h.parents.withParent kind parent).Acyclic) :
    h.declare kind parent = .ok ⟨(kind, parent) :: h.relations⟩ := by
  have hsub : ¬ h.isSubkind parent kind = true := mt (isSubkind_iff hc).mp (hc.withParent_iff.mp hnew)
  rw [declare, if_neg hsub]

theorem declare_of_cycle (hc : h.parents.Acyclic) (hnew : ¬ (h.parents.withParent kind parent).Acyclic) :
    h.declare kind parent = .error ⟨kind, parent⟩ := by
  have hsub : h.isSubkind parent kind = true :=
    (isSubkind_iff hc).mpr (not_not.mp (mt hc.withParent_iff.mpr hnew))
  rw [declare, if_pos hsub]

theorem of_declare (hc : h.parents.Acyclic) (hd : h.declare kind parent = .ok h') :
    h'.parents = h.parents.withParent kind parent ∧ h'.parents.Acyclic := by
  by_cases hnew : (h.parents.withParent kind parent).Acyclic
  · cases (declare_of_acyclic hc hnew).symm.trans hd
    rw [parents_cons]
    exact ⟨rfl, hnew⟩
  · cases (declare_of_cycle hc hnew).symm.trans hd

theorem declareAll_cons (h : Hierarchy) (kind parent : Kind) (relations : List (Kind × Kind)) :
    h.declareAll ((kind, parent) :: relations) = (h.declare kind parent).bind (·.declareAll relations) :=
  rfl

theorem of_declareAll (hc : h.parents.Acyclic) (hd : h.declareAll relations = .ok h') :
    h'.parents = h.parents.override relations ∧ h'.parents.Acyclic := by
  induction relations generalizing h with
  | nil =>
    cases hd
    exact ⟨(ParentMap.override_nil _).symm, hc⟩
  | cons r relations ih =>
    obtain ⟨kind, parent⟩ := r
    obtain ⟨h₁, h₁d, hd⟩ := Except.bind_eq_ok_iff.mp hd
    obtain ⟨hp, hc₁⟩ := of_declare hc h₁d
    rw [ParentMap.override_cons, ← hp]
    exact ih hc₁ hd

theorem exists_declareAll_of_prefix {first : List (Kind × Kind)} (hf : first <+: relations)
    (hd : h.declareAll relations = .ok h') : ∃ h₁, h.declareAll first = .ok h₁ := by
  obtain ⟨rest, rfl⟩ := hf
  rw [declareAll, List.foldlM_append] at hd
  obtain ⟨h₁, h₁d, _⟩ := Except.bind_eq_ok_iff.mp hd
  exact ⟨h₁, h₁d⟩

theorem declareAll_error {c : Cycle} (hc : h.parents.Acyclic) (hd : h.declareAll relations = .error c) :
    ∃ before after, relations = before ++ (c.kind, c.parent) :: after ∧
      (∃ h₁, h.declareAll before = .ok h₁) ∧
      ¬ (h.parents.override (before ++ [(c.kind, c.parent)])).Acyclic := by
  induction relations generalizing h with
  | nil => cases hd
  | cons r relations ih =>
    obtain ⟨kind, parent⟩ := r
    by_cases hnew : (h.parents.withParent kind parent).Acyclic
    · have hok := declare_of_acyclic hc hnew
      obtain ⟨hp, hc₁⟩ := of_declare hc hok
      rw [declareAll_cons, hok] at hd
      obtain ⟨before, after, rfl, ⟨h₁, h₁d⟩, hcycle⟩ := ih hc₁ hd
      refine ⟨(kind, parent) :: before, after, rfl, ⟨h₁, ?_⟩, ?_⟩
      · rw [declareAll_cons, hok]
        exact h₁d
      · rwa [List.cons_append, ParentMap.override_cons, ← hp]
    · rw [declareAll_cons, declare_of_cycle hc hnew] at hd
      cases hd
      refine ⟨[], relations, rfl, ⟨h, rfl⟩, ?_⟩
      rwa [List.nil_append, ParentMap.override_cons, ParentMap.override_nil]

theorem declareAll_isOk_iff (hc : h.parents.Acyclic) :
    (∃ h', h.declareAll relations = .ok h') ↔
      ∀ first, first <+: relations → (h.parents.override first).Acyclic := by
  constructor
  · rintro ⟨h', hd⟩ first hf
    obtain ⟨h₁, h₁d⟩ := exists_declareAll_of_prefix hf hd
    obtain ⟨hp, hc₁⟩ := of_declareAll hc h₁d
    rwa [← hp]
  · intro hall
    cases hd : h.declareAll relations with
    | ok h' => exact ⟨h', rfl⟩
    | error c =>
      obtain ⟨before, after, rfl, _, hcycle⟩ := declareAll_error hc hd
      exact absurd (hall _ ⟨after, List.append_assoc ..⟩) hcycle

theorem acyclic_empty : empty.parents.Acyclic :=
  ParentMap.acyclic_of_forall_none fun _ => rfl

theorem declareAll_standard : empty.declareAll standard.relations.reverse = .ok standard := by
  decide +kernel

theorem acyclic_standard : standard.parents.Acyclic :=
  (of_declareAll acyclic_empty declareAll_standard).2

theorem Declared.acyclic (hd : h.Declared) : h.parents.Acyclic := by
  induction hd with
  | empty => exact acyclic_empty
  | standard => exact acyclic_standard
  | declare _ hd ih => exact (of_declare ih hd).2

theorem Declared.attempt (hd : h.Declared) (r : Kind × Kind) : (h.attempt r).Declared := by
  unfold Hierarchy.attempt
  split
  · next hok => exact hd.declare hok
  · exact hd

theorem Declared.attemptAll (hd : h.Declared) (relations : List (Kind × Kind)) :
    (h.attemptAll relations).Declared := by
  induction relations generalizing h with
  | nil => exact hd
  | cons r relations ih => exact ih (hd.attempt r)

theorem Declared.ordered (hd : h.Declared) : h.Ordered := by
  have hreaches (kind a : Kind) : h.isSubkind kind a = true ↔ ReflTransGen h.parents.Under kind a :=
    isSubkind_iff hd.acyclic
  have hmem (kind a : Kind) : a ∈ h.ancestors kind ↔ ReflTransGen h.parents.Under kind a :=
    (lineage_ancestors hd.acyclic kind).mem_iff
  constructor
  case acyclic => exact hd.acyclic
  case lineage => exact lineage_ancestors hd.acyclic
  case nodup => exact nodup_chain hd.acyclic _
  case reaches => exact hreaches
  case refl => exact fun kind => (hreaches kind kind).mpr .refl
  case trans =>
    intro a b c hab hbc
    exact (hreaches a c).mpr (((hreaches a b).mp hab).trans ((hreaches b c).mp hbc))
  case antisymm =>
    intro a b hab hba
    exact hd.acyclic.antisymm ((hreaches a b).mp hab) ((hreaches b a).mp hba)
  case comparable =>
    intro kind a b ha hb
    rw [hreaches, hreaches]
    exact ParentMap.comparable ((hmem kind a).mp ha) ((hmem kind b).mp hb)

theorem Declared.guarded (hd : h.Declared) (kind parent : Kind) : h.Guarded kind parent := by
  have hok (hnew : (h.parents.withParent kind parent).Acyclic) :
      h.declare kind parent = .ok ⟨(kind, parent) :: h.relations⟩ := declare_of_acyclic hd.acyclic hnew
  have herror (hnew : ¬ (h.parents.withParent kind parent).Acyclic) :
      h.declare kind parent = .error ⟨kind, parent⟩ := declare_of_cycle hd.acyclic hnew
  constructor
  case refused =>
    refine ⟨fun hr hnew => ?_, herror⟩
    cases (hok hnew).symm.trans hr
  case unchanged =>
    intro hnew
    simp only [Hierarchy.attempt, herror hnew]
  case changed =>
    intro hnew
    simp only [Hierarchy.attempt, hok hnew]
    exact h.parents_cons kind parent

theorem ordered_attemptAll {start : Hierarchy} (hs : start = empty ∨ start = standard)
    (relations : List (Kind × Kind)) :
    (start.attemptAll relations).Ordered ∧
      ∀ kind parent, (start.attemptAll relations).Guarded kind parent := by
  have hstart : start.Declared := by
    rcases hs with rfl | rfl
    · exact .empty
    · exact .standard
  have hd := hstart.attemptAll relations
  exact ⟨hd.ordered, hd.guarded⟩

end

theorem ordered_attemptAll_movedFamily :
    let h := standard.attemptAll [("expr", "BinOp"), ("expr", "stmt"), ("MatchCase", "expr")]
    h.ancestors "MatchCase" = ["MatchCase", "expr", "stmt", "AST"] ∧ h.Ordered ∧
      h.declare "stmt" "MatchCase" = .error ⟨"stmt", "MatchCase"⟩ ∧
      ¬ (h.parents.withParent "stmt" "MatchCase").Acyclic := by
  obtain ⟨hordered, hguarded⟩ := ordered_attemptAll (Or.inr rfl)
    [("expr", "BinOp"), ("expr", "stmt"), ("MatchCase", "expr")]
  have hrefused : (standard.attemptAll [("expr", "BinOp"), ("expr", "stmt"), ("MatchCase", "expr")]).declare
      "stmt" "MatchCase" = .error ⟨"stmt", "MatchCase"⟩ := by
    decide +kernel
  exact ⟨by decide +kernel, hordered, hrefused, (hguarded "stmt" "MatchCase").refused.mp hrefused⟩

end SyntaxGraph.Hierarchy
