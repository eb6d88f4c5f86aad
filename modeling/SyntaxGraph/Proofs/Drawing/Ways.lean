import SyntaxGraph.Proofs.Drawing.Visits
import Mathlib.Logic.Relation
import Mathlib.Data.Set.Defs

namespace SyntaxGraph.View

def children (v : View) (id : NodeId) : List NodeId :=
  match v.references id with
  | .ok children => children
  | .error _ => []

def Leads (v : View) (a b : NodeId) : Prop :=
  b ∈ v.children a

def follow (v : View) : NodeId → List Nat → Option NodeId
  | id, [] => some id
  | id, k :: way => (v.children id)[k]?.bind (v.follow · way)

def followAny (v : View) (ids : List NodeId) : List Nat → Option NodeId
  | [] => none
  | k :: way => ids[k]?.bind (v.follow · way)

def ways (v : View) (root id : NodeId) : Set (List Nat) :=
  {way | v.follow root way = some id}

def later : List Nat → List Nat
  | [] => []
  | k :: way => (k + 1) :: way

section

variable {v : View} {a b id : NodeId} {rest : List NodeId}

theorem children_of_visit_ok {g g' : Graph} {children : List NodeId}
    (h : v.visit id g = (.ok children, g')) : v.children id = children := by
  rw [View.children, ← visit_fst v id g, h]

theorem children_of_visit_error {g g' : Graph} {e : DrawError} (h : v.visit id g = (.error e, g')) :
    v.children id = [] := by
  rw [View.children, ← visit_fst v id g, h]

theorem Leads.references (h : v.Leads a b) : ∃ children, v.references a = .ok children ∧ b ∈ children := by
  unfold Leads children at h
  cases hr : v.references a with
  | error e => simp [hr] at h
  | ok children => exact ⟨children, rfl, by simpa [hr] using h⟩

theorem Leads.follows (h : v.Leads a b) : v.Follows a b := by
  obtain ⟨children, hr, hb⟩ := h.references
  rw [references_ok hr] at hb
  exact hb

theorem Leads.of_follows {children : List NodeId} (hr : v.references a = .ok children)
    (h : v.Follows a b) : v.Leads a b := by
  rw [Leads, View.children, hr, references_ok hr]
  exact h

theorem follow_nil (v : View) (id : NodeId) : v.follow id [] = some id :=
  rfl

theorem follow_append (a : NodeId) (way rest : List Nat) :
    v.follow a (way ++ rest) = (v.follow a way).bind (v.follow · rest) := by
  induction way generalizing a with
  | nil => rfl
  | cons k way ih =>
    rw [List.cons_append, follow, follow, Option.bind_assoc]
    exact Option.bind_congr fun c _ => ih c

theorem exists_way_iff : (∃ way, v.follow a way = some b) ↔ Relation.ReflTransGen v.Leads a b := by
  constructor
  · rintro ⟨way, hw⟩
    induction way generalizing a with
    | nil =>
      cases hw
      exact .refl
    | cons k way ih =>
      obtain ⟨c, hc, hw⟩ := Option.bind_eq_some_iff.mp hw
      exact .head (List.mem_of_getElem? hc) (ih hw)
  · intro h
    induction h using Relation.ReflTransGen.head_induction_on with
    | refl => exact ⟨[], rfl⟩
    | @head a c hac _ ih =>
      obtain ⟨way, hw⟩ := ih
      obtain ⟨k, hk⟩ := List.mem_iff_getElem?.mp hac
      exact ⟨k :: way, Option.bind_eq_some_iff.mpr ⟨c, hk, hw⟩⟩

theorem exists_way_of_transGen (h : Relation.TransGen v.Leads a b) :
    ∃ k way, v.follow a (k :: way) = some b := by
  obtain ⟨c, hac, hcb⟩ := Relation.TransGen.head'_iff.mp h
  obtain ⟨k, hk⟩ := List.mem_iff_getElem?.mp hac
  obtain ⟨way, hw⟩ := exists_way_iff.mpr hcb
  exact ⟨k, way, Option.bind_eq_some_iff.mpr ⟨c, hk, hw⟩⟩

theorem cons_of_followAny {ids : List NodeId} {way : List Nat} (h : (v.followAny ids way).isSome) :
    ∃ k rest, way = k :: rest := by
  cases way with
  | nil => cases h
  | cons k rest => exact ⟨k, rest, rfl⟩

theorem first_lt_later (way : List Nat) {other : List Nat} (h : (v.followAny rest other).isSome) :
    0 :: way < later other := by
  obtain ⟨k, rest, rfl⟩ := cons_of_followAny h
  exact List.cons_lt_cons_iff.mpr (Or.inl (Nat.succ_pos k))

theorem later_lt_later {way other : List Nat} (h : (v.followAny rest way).isSome)
    (ho : (v.followAny rest other).isSome) (hlt : way < other) : later way < later other := by
  obtain ⟨j, p, rfl⟩ := cons_of_followAny h
  obtain ⟨k, q, rfl⟩ := cons_of_followAny ho
  rw [List.cons_lt_cons_iff] at hlt
  exact List.cons_lt_cons_iff.mpr (hlt.imp Nat.succ_lt_succ (And.imp_left (congrArg _)))

theorem followAny_later {way : List Nat} (h : (v.followAny rest way).isSome) :
    v.followAny (id :: rest) (later way) = v.followAny rest way := by
  obtain ⟨k, p, rfl⟩ := cons_of_followAny h
  rfl

theorem zero_of_followAny {way : List Nat} (h : (v.followAny [id] way).isSome) :
    ∃ rest, way = 0 :: rest := by
  match way, h with
  | 0 :: rest, _ => exact ⟨rest, rfl⟩

end

end SyntaxGraph.View
