import SyntaxGraph.Drawing.Registry
import SyntaxGraph.Proofs.Kind.Declaring
import SyntaxGraph.Proofs.Occurrences

/-!
What a registry holds after any sequence of registrations. A kind stands where it was registered first
and has the strategy for which it was registered last; a kind that was never registered has the strategy
of the ancestor that was registered before all others.
-/

namespace SyntaxGraph

open Relation

inductive Registration (σ : Type) where
  | own (strategy : σ)
  | chosen (strategy : σ) (kinds : List Kind)

section

variable {σ : Type}

def Registration.pairs [Registrable σ] : Registration σ → List (Kind × σ)
  | own s => (Registrable.ownKinds s).map (·, s)
  | chosen s kinds => kinds.map (·, s)

def Latest (pairs : List (Kind × σ)) (kind : Kind) (s : σ) : Prop :=
  ∃ before after, pairs = before ++ (kind, s) :: after ∧ kind ∉ after.map Prod.fst

def Earliest (property : Kind → Prop) (kinds : List Kind) (a : Kind) : Prop :=
  property a ∧ ∃ before after, kinds = before ++ a :: after ∧ ∀ b ∈ before, ¬ property b

theorem latest_iff {pairs : List (Kind × σ)} {kind : Kind} {s : σ} :
    Latest pairs kind s ↔ pairs.reverse.lookup kind = some s := by
  rw [List.lookup_eq_some_iff]
  constructor
  · rintro ⟨before, after, rfl, hafter⟩
    refine ⟨after.reverse, before.reverse, by simp, fun p hp => ?_⟩
    rw [bne_iff_ne]
    rintro rfl
    exact hafter (List.mem_map_of_mem (List.mem_reverse.mp hp))
  · rintro ⟨after, before, hpairs, hafter⟩
    refine ⟨before.reverse, after.reverse, ?_, fun hmem => ?_⟩
    · rw [← List.reverse_reverse pairs, hpairs]
      simp
    · obtain ⟨p, hp, rfl⟩ := List.mem_map.mp hmem
      simpa using hafter p (List.mem_reverse.mp hp)

namespace Registry

def call [Registrable σ] (r : Registry σ) : Registration σ → Registry σ
  | .own s => r.register s
  | .chosen s kinds => r.registerFor s kinds

def build [Registrable σ] (h : Hierarchy) (calls : List (Registration σ)) : Registry σ :=
  calls.foldl call (builder h)

def insertAll (r : Registry σ) (pairs : List (Kind × σ)) : Registry σ :=
  pairs.foldl (fun r p => r.insert p.2 p.1) r

def own? (r : Registry σ) (kind : Kind) : Option σ :=
  (r.index.lookup kind).bind fun slot => r.entries[slot]?.map Prod.snd

theorem lookup_index_eq_none_iff (r : Registry σ) (kind : Kind) :
    r.index.lookup kind = none ↔ kind ∉ r.kinds := by
  constructor
  · intro h hmem
    obtain ⟨slot, hslot⟩ := List.mem_iff_getElem?.mp hmem
    cases h.symm.trans ((r.lookup_index kind slot).mpr hslot)
  · intro h
    rw [Option.eq_none_iff_forall_ne_some]
    exact fun slot hslot => h (List.mem_of_getElem? ((r.lookup_index kind slot).mp hslot))

theorem own?_of_mem (r : Registry σ) {e : Kind × σ} (he : e ∈ r.entries) : r.own? e.1 = some e.2 := by
  obtain ⟨slot, hslot⟩ := List.mem_iff_getElem?.mp he
  have hkind : r.kinds[slot]? = some e.1 := by rw [kinds, List.getElem?_map, hslot]; rfl
  simp [own?, (r.lookup_index e.1 slot).mpr hkind, hslot]

theorem resolve_eq (r : Registry σ) (kind : Kind) :
    r.resolve kind = (r.own? kind).or (r.inherited kind) := by
  unfold resolve
  split
  · next slot hslot => simp [own?, hslot, List.getElem?_eq_getElem (r.slot_lt hslot)]
  · next hnone => simp [own?, hnone]

theorem inherited_eq (r : Registry σ) (kind : Kind) :
    r.inherited kind = (r.kinds.find? (r.hierarchy.isSubkind kind)).bind r.own? := by
  change (r.entries.find? (r.hierarchy.isSubkind kind ∘ Prod.fst)).map Prod.snd = _
  rw [kinds, List.find?_map]
  cases hfind : r.entries.find? (r.hierarchy.isSubkind kind ∘ Prod.fst) with
  | none => rfl
  | some e => exact (r.own?_of_mem (List.mem_of_find?_eq_some hfind)).symm

theorem draws_eq (r : Registry σ) (kind : Kind) :
    r.draws kind = r.kinds.any (r.hierarchy.isSubkind kind) := by
  have hinherited : (r.inherited kind).isSome = r.kinds.any (r.hierarchy.isSubkind kind) := by
    rw [Bool.eq_iff_iff, inherited, Option.isSome_map, List.find?_isSome, kinds, List.any_map,
      List.any_eq_true]
    rfl
  unfold draws resolve
  split
  · next slot hslot =>
    have hmem : kind ∈ r.kinds := List.mem_of_getElem? ((r.lookup_index kind slot).mp hslot)
    have hself : r.hierarchy.isSubkind kind kind = true :=
      List.contains_iff_mem.mpr (r.hierarchy.self_mem_ancestors kind)
    exact (List.any_eq_true.mpr ⟨kind, hmem, hself⟩).symm
  · exact hinherited

@[simp] theorem hierarchy_builder (h : Hierarchy) : (builder h : Registry σ).hierarchy = h :=
  rfl

@[simp] theorem kinds_builder (h : Hierarchy) : (builder h : Registry σ).kinds = [] :=
  rfl

@[simp] theorem hierarchy_insert (r : Registry σ) (s : σ) (kind : Kind) :
    (r.insert s kind).hierarchy = r.hierarchy := by
  unfold insert
  split <;> rfl

theorem kinds_insert (r : Registry σ) (s : σ) (kind : Kind) :
    (r.insert s kind).kinds = if kind ∈ r.kinds then r.kinds else r.kinds ++ [kind] := by
  unfold insert
  split
  · next slot hslot =>
    rw [if_pos (List.mem_of_getElem? ((r.lookup_index kind slot).mp hslot))]
    exact map_fst_replace r.entries slot s
  · next hnone =>
    rw [if_neg ((r.lookup_index_eq_none_iff kind).mp hnone)]
    exact List.map_append

theorem own?_insert (r : Registry σ) (s : σ) (kind a : Kind) :
    (r.insert s kind).own? a = if a = kind then some s else r.own? a := by
  unfold insert
  split
  · next slot hslot =>
    have hlt := r.slot_lt hslot
    by_cases ha : a = kind
    · subst ha
      simp [own?, hslot, List.getElem?_eq_getElem hlt]
    · rw [if_neg ha]
      unfold own?
      refine Option.bind_congr fun i hi => ?_
      have hne : slot ≠ i := by
        rintro rfl
        have hkinds := ((r.lookup_index a slot).mp hi).symm.trans ((r.lookup_index kind slot).mp hslot)
        exact ha (Option.some.inj hkinds)
      rw [List.getElem?_modify]
      simp [hne]
  · next hnone =>
    by_cases ha : a = kind
    · subst ha
      simp [own?]
    · rw [if_neg ha]
      unfold own?
      rw [List.lookup_cons, beq_eq_false_iff_ne.mpr ha]
      refine Option.bind_congr fun i hi => ?_
      rw [List.getElem?_append_left (r.slot_lt hi)]

theorem call_eq [Registrable σ] (r : Registry σ) (c : Registration σ) :
    r.call c = r.insertAll c.pairs := by
  cases c with
  | own s =>
    rw [insertAll, Registration.pairs, List.foldl_map]
    rfl
  | chosen s kinds =>
    rw [insertAll, Registration.pairs, List.foldl_map]
    rfl

theorem build_eq [Registrable σ] (h : Hierarchy) (calls : List (Registration σ)) :
    build h calls = insertAll (builder h) (calls.flatMap Registration.pairs) := by
  rw [insertAll, List.foldl_flatMap, build]
  congr 1
  funext r c
  exact r.call_eq c

theorem insertAll_concat (r : Registry σ) (pairs : List (Kind × σ)) (p : Kind × σ) :
    r.insertAll (pairs ++ [p]) = (r.insertAll pairs).insert p.2 p.1 :=
  List.foldl_append

theorem hierarchy_insertAll (r : Registry σ) (pairs : List (Kind × σ)) :
    (r.insertAll pairs).hierarchy = r.hierarchy := by
  induction pairs using List.reverseRecOn with
  | nil => rfl
  | append_singleton pairs p ih => rw [insertAll_concat, hierarchy_insert, ih]

theorem kinds_insertAll (h : Hierarchy) (pairs : List (Kind × σ)) :
    (insertAll (builder h) pairs).kinds = (pairs.map Prod.fst).eraseDups := by
  induction pairs using List.reverseRecOn with
  | nil => rfl
  | append_singleton pairs p ih =>
    rw [insertAll_concat, kinds_insert, ih, List.map_append, List.map_singleton, eraseDups_concat]

theorem own?_insertAll (h : Hierarchy) (pairs : List (Kind × σ)) (kind : Kind) :
    (insertAll (builder h) pairs).own? kind = pairs.reverse.lookup kind := by
  induction pairs using List.reverseRecOn with
  | nil => rfl
  | append_singleton pairs p ih =>
    obtain ⟨k, s⟩ := p
    rw [insertAll_concat, own?_insert, ih, List.reverse_append, List.reverse_singleton,
      List.singleton_append]
    by_cases hk : kind = k
    · subst hk
      simp
    · rw [if_neg hk, List.lookup_cons, beq_eq_false_iff_ne.mpr hk]

theorem resolve_insertAll (h : Hierarchy) (pairs : List (Kind × σ)) (kind : Kind) :
    (insertAll (builder h) pairs).resolve kind = (pairs.reverse.lookup kind).or
      (((pairs.map Prod.fst).find? (h.isSubkind kind)).bind fun a => pairs.reverse.lookup a) := by
  rw [resolve_eq, inherited_eq, hierarchy_insertAll, kinds_insertAll, find?_eraseDups, own?_insertAll]
  congr 2
  funext a
  exact own?_insertAll h pairs a

theorem find?_eq_some_iff_earliest {h : Hierarchy} (hc : h.parents.Acyclic) {kinds : List Kind}
    {kind a : Kind} (hkind : kind ∉ kinds) :
    kinds.find? (h.isSubkind kind) = some a ↔ Earliest (TransGen h.parents.Under kind) kinds a := by
  have habove {b : Kind} (hb : b ∈ kinds) :
      h.isSubkind kind b = true ↔ TransGen h.parents.Under kind b := by
    rw [Hierarchy.isSubkind_iff hc, reflTransGen_iff_eq_or_transGen]
    exact or_iff_right fun heq => hkind (heq ▸ hb)
  rw [List.find?_eq_some_iff_append]
  constructor
  · rintro ⟨ha, before, after, rfl, hbefore⟩
    refine ⟨(habove (by simp)).mp ha, before, after, rfl, fun b hb htrans => ?_⟩
    have htest := (habove (List.mem_append_left _ hb)).mpr htrans
    simpa [htest] using hbefore b hb
  · rintro ⟨ha, before, after, rfl, hbefore⟩
    refine ⟨(habove (by simp)).mpr ha, before, after, rfl, fun b hb => ?_⟩
    have htest := mt (habove (List.mem_append_left _ hb)).mp (hbefore b hb)
    simpa using htest

theorem lookup_reverse_eq_none_iff (pairs : List (Kind × σ)) (kind : Kind) :
    pairs.reverse.lookup kind = none ↔ kind ∉ pairs.map Prod.fst := by
  rw [List.lookup_eq_none_iff, List.mem_map]
  constructor
  · rintro h ⟨p, hp, rfl⟩
    simpa using h p (List.mem_reverse.mpr hp)
  · intro h p hp
    rw [bne_iff_ne]
    rintro rfl
    exact h ⟨p, List.mem_reverse.mp hp, rfl⟩

/-- A registered kind is drawn by the strategy it was given last, any other by the one given last to the
ancestor that was registered first. Each registered kind has one entry, in the order in which they were
registered first, and the index leads to it. -/
theorem resolve_build [Registrable σ] {h : Hierarchy} (hd : h.Declared) (calls : List (Registration σ)) :
    let r := build h calls
    let pairs := calls.flatMap Registration.pairs
    let registered := pairs.map Prod.fst
    (∀ kind s, r.resolve kind = some s ↔
        Latest pairs kind s ∨ kind ∉ registered ∧
          ∃ a, Earliest (TransGen h.parents.Under kind) registered a ∧ Latest pairs a s) ∧
      (∀ kind, r.resolve kind = none ↔ ∀ a ∈ registered, ¬ ReflTransGen h.parents.Under kind a) ∧
      r.kinds = registered.eraseDups ∧
      (∀ kind slot, r.index.lookup kind = some slot ↔ registered.eraseDups[slot]? = some kind) ∧
      ∀ kind slot, r.index.lookup kind = some slot → slot < r.entries.length := by
  intro r pairs registered
  have hr : r = insertAll (builder h) pairs := build_eq h calls
  have hkinds : r.kinds = registered.eraseDups := by rw [hr, kinds_insertAll]
  have hresolve (kind : Kind) : r.resolve kind = (pairs.reverse.lookup kind).or
      ((registered.find? (h.isSubkind kind)).bind fun a => pairs.reverse.lookup a) := by
    rw [hr, resolve_insertAll]
  refine ⟨fun kind s => ?_, fun kind => ?_, hkinds, fun kind slot => ?_, fun kind slot => r.slot_lt⟩
  · rw [hresolve, Option.or_eq_some_iff, lookup_reverse_eq_none_iff, latest_iff]
    apply or_congr_right
    apply and_congr_right
    intro hkind
    rw [Option.bind_eq_some_iff]
    apply exists_congr
    intro a
    rw [find?_eq_some_iff_earliest hd.acyclic hkind, latest_iff]
  · have hdraws := r.draws_eq kind
    rw [hkinds, hr, hierarchy_insertAll, hierarchy_builder, ← hr] at hdraws
    rw [← Option.not_isSome_iff_eq_none, ← draws, hdraws, List.any_eq_true, not_exists]
    apply forall_congr'
    intro a
    rw [not_and, List.mem_eraseDups, Hierarchy.isSubkind_iff hd.acyclic]
  · rw [← hkinds]
    exact r.lookup_index kind slot

theorem resolve_build_registeredAgain :
    let h := Hierarchy.empty.attemptAll [("binop", "expr"), ("Add", "binop")]
    let calls : List (Registration Strategy) :=
      [.own (.general "wide"), .chosen (.name "narrow") ["binop"],
        .chosen (.name "last") ["expr", "AST"]]
    let r := build h calls
    h.Declared ∧ r.kinds = ["expr", "stmt", "mod", "binop", "AST"] ∧
      r.index.lookup "AST" = some 4 ∧
      r.resolve "Add" = some (.name "last") ∧ r.resolve "binop" = some (.name "narrow") ∧
      r.resolve "Unsupported" = none := by
  intro h calls r
  have hd : h.Declared := Hierarchy.Declared.empty.attemptAll _
  obtain ⟨hresolve, hnone, hkinds, hindex, -⟩ := resolve_build hd calls
  refine ⟨hd, hkinds.trans (by decide), (hindex "AST" 4).mpr (by decide), ?_, ?_, ?_⟩
  · have hbinop : h.parents.Under "Add" "binop" := (by decide : h.parent "Add" = some "binop")
    have hexpr : h.parents.Under "binop" "expr" := (by decide : h.parent "binop" = some "expr")
    have hfirst : Earliest (TransGen h.parents.Under "Add")
        ((calls.flatMap Registration.pairs).map Prod.fst) "expr" :=
      ⟨.tail (.single hbinop) hexpr, [], _, rfl, nofun⟩
    refine (hresolve "Add" _).mpr (Or.inr ⟨by decide, "expr", hfirst, ?_⟩)
    exact ⟨[("expr", .general "wide"), ("stmt", .general "wide"), ("mod", .general "wide"),
      ("binop", .name "narrow")], [("AST", .name "last")], rfl, by decide⟩
  · refine (hresolve "binop" _).mpr (Or.inl ?_)
    exact ⟨[("expr", .general "wide"), ("stmt", .general "wide"), ("mod", .general "wide")],
      [("expr", .name "last"), ("AST", .name "last")], rfl, by decide⟩
  · have hunder : ∀ a ∈ (calls.flatMap Registration.pairs).map Prod.fst,
        h.isSubkind "Unsupported" a = false := by
      decide
    refine (hnone "Unsupported").mpr fun a ha hreach => ?_
    rw [← Hierarchy.isSubkind_iff hd.acyclic, hunder a ha] at hreach
    cases hreach

end Registry

end

end SyntaxGraph
