import SyntaxGraph.Tree.Document
import Mathlib.Data.List.Basic

namespace SyntaxGraph.Json

/-- An object with a kind, in whose fields every object, alone or in a list, is such an object again. -/
inductive Value.IsNode : Value → Prop where
  | leaf {members : List (String × Value)} {kind : String} :
    members.lookup "kind" = some (.string kind) →
      (members.lookup "fields" = none ∨ members.lookup "fields" = some .null) → IsNode (.object members)
  | fields {members fields : List (String × Value)} {kind : String} :
    members.lookup "kind" = some (.string kind) → members.lookup "fields" = some (.object fields) →
      (∀ name v, (name, v) ∈ fields → v.isObject = true → v.IsNode) →
        (∀ name items v, (name, .array items) ∈ fields → v ∈ items → v.isObject = true → v.IsNode) →
          IsNode (.object members)

def Value.flaw? : Value → Option Flaw
  | .object members =>
    if (kind? members).isNone then some .noKind
    else match members.lookup "fields" with
      | none | some .null | some (.object _) => none
      | some _ => some .fieldsNotAnObject
  | _ => some .notAnObject

def fieldNodes (name : String) : Value → List (List DocumentStep × Value)
  | .object members => [([.field name], .object members)]
  | .array items => (items.zipIdx.filter fun x => x.1.isObject).map fun x => ([.field name, .item x.2], x.1)
  | _ => []

def Value.childNodes (v : Value) : List (List DocumentStep × Value) :=
  match v.member? "fields" with
  | some (.object fields) => fields.flatMap fun f => fieldNodes f.1 f.2
  | _ => []

section

variable {name : String} {v : Value} {child : List DocumentStep × Value}

theorem mem_fieldNodes : child ∈ fieldNodes name v ↔
    (child = ([.field name], v) ∧ v.isObject = true) ∨ ∃ items i, v = .array items ∧
      items[i]? = some child.2 ∧ child.2.isObject = true ∧ child.1 = [.field name, .item i] := by
  obtain ⟨steps, u⟩ := child
  cases v with
  | object members => simp [fieldNodes, Value.isObject]
  | array items =>
    simp only [fieldNodes, List.mem_map, List.mem_filter, List.mem_zipIdx_iff_getElem?, Prod.exists,
      Prod.mk.injEq]
    constructor
    · rintro ⟨x, i, ⟨hi, hx⟩, rfl, rfl⟩
      exact Or.inr ⟨items, i, rfl, hi, hx, rfl⟩
    · rintro (⟨_, hobject⟩ | ⟨_, i, hitems, hi, hx, rfl⟩)
      · cases hobject
      · cases hitems
        exact ⟨u, i, ⟨hi, hx⟩, rfl, rfl⟩
  | null | bool | number | string => simp [fieldNodes, Value.isObject]

theorem mem_childNodes : child ∈ v.childNodes ↔ ∃ fields name x,
    v.member? "fields" = some (.object fields) ∧ (name, x) ∈ fields ∧ child ∈ fieldNodes name x := by
  unfold Value.childNodes
  cases hf : v.member? "fields" with
  | none => simp
  | some f =>
    cases f with
    | object fields => simp [List.mem_flatMap]
    | null | bool | number | string | array => simp

theorem sizeOf_fieldNode (h : child ∈ fieldNodes name v) : sizeOf child.2 ≤ sizeOf v := by
  rcases mem_fieldNodes.mp h with ⟨rfl, _⟩ | ⟨items, i, rfl, hi, _, _⟩
  · exact Nat.le_refl _
  · have hlt := List.sizeOf_lt_of_mem (List.mem_of_getElem? hi)
    simp only [Value.array.sizeOf_spec]
    omega

theorem sizeOf_child (h : child ∈ v.childNodes) : sizeOf child.2 < sizeOf v := by
  obtain ⟨fields, name, x, hf, hx, hchild⟩ := mem_childNodes.mp h
  cases v with
  | object members =>
    obtain ⟨before, after, rfl, _⟩ := List.lookup_eq_some_iff.mp hf
    have hle := sizeOf_fieldNode hchild
    have hlt := List.sizeOf_lt_of_mem hx
    have hmem := List.sizeOf_lt_of_mem
      (List.mem_append_right before (List.mem_cons_self : ("fields", Value.object fields) ∈ _ :: after))
    simp only [Prod.mk.sizeOf_spec, Value.object.sizeOf_spec] at hlt hmem ⊢
    omega
  | null | bool | number | string | array => cases hf

end

/-- The node and all below it, in the order of the text, with the ways to them. -/
def Value.nodes (path : List DocumentStep) (v : Value) : List (List DocumentStep × Value) :=
  (path, v) :: v.childNodes.attach.flatMap fun ⟨child, _⟩ => child.2.nodes (path ++ child.1)
termination_by sizeOf v
decreasing_by exact sizeOf_child ‹_›

theorem Value.nodes_eq (path : List DocumentStep) (v : Value) :
    v.nodes path = (path, v) :: v.childNodes.flatMap fun child => child.2.nodes (path ++ child.1) := by
  rw [nodes]
  conv_rhs => rw [← List.attach_map_subtype_val v.childNodes, List.flatMap_map]

def firstFlaw (nodes : List (List DocumentStep × Value)) : Option MisshapenTree :=
  nodes.findSome? fun n => n.2.flaw?.map fun flaw => ⟨n.1, flaw⟩

def Ends {α : Type} (x : TreeBuilder α) : Option MisshapenTree → Prop
  | none => ∀ t, ∃ r, x.run t = .ok r
  | some e => ∀ t, x.run t = .error e

section

variable {α β : Type} {x : TreeBuilder α} {f : α → TreeBuilder β} {e e' : Option MisshapenTree}

theorem Ends.pure (a : α) : Ends (pure a) none :=
  fun t => ⟨(a, t), rfl⟩

theorem Ends.throw (e : MisshapenTree) : Ends (throw e : TreeBuilder α) (some e) :=
  fun _ => rfl

theorem Ends.add (n : Node) : Ends (TreeBuilder.add n) none :=
  fun t => ⟨(t.next, t.add n), rfl⟩

theorem Ends.bind (hx : Ends x e) (hf : ∀ a, Ends (f a) e') : Ends (x >>= f) (e.or e') := by
  have hrun (t : Tree) : (x >>= f).run t = x.run t >>= fun r => (f r.1).run r.2 := rfl
  cases e with
  | some e =>
    intro t
    rw [hrun, hx t]
    rfl
  | none =>
    have hnext (t : Tree) : ∃ a t', (x >>= f).run t = (f a).run t' := by
      obtain ⟨⟨a, t'⟩, ht⟩ := hx t
      exact ⟨a, t', by rw [hrun, ht]; rfl⟩
    rw [Option.none_or]
    cases e' with
    | some e' =>
      intro t
      obtain ⟨a, t', ht⟩ := hnext t
      exact ht.trans (hf a t')
    | none =>
      intro t
      obtain ⟨a, t', ht⟩ := hnext t
      rw [ht]
      exact hf a t'

theorem Ends.map (hx : Ends x e) (g : α → β) : Ends (x >>= fun a => Pure.pure (g a)) e := by
  have hbind := hx.bind fun a => Ends.pure (g a)
  rwa [Option.or_none] at hbind

end

section

variable {path : List DocumentStep} {v : Value} {members : List (String × Value)}

def nodesBelow (path : List DocumentStep) (fields : List (String × Value)) : List (List DocumentStep × Value) :=
  fields.flatMap fun f => (fieldNodes f.1 f.2).flatMap fun child => child.2.nodes (path ++ child.1)

def fieldsFlaw (path : List DocumentStep) : Value → Option MisshapenTree
  | .null => none
  | .object fields => firstFlaw (nodesBelow path fields)
  | _ => some ⟨path, .fieldsNotAnObject⟩

theorem firstFlaw_cons (path : List DocumentStep) (v : Value) (nodes : List (List DocumentStep × Value)) :
    firstFlaw ((path, v) :: nodes) = (v.flaw?.map fun flaw => ⟨path, flaw⟩).or (firstFlaw nodes) := by
  unfold firstFlaw
  rw [List.findSome?_cons]
  cases hv : v.flaw? <;> simp

theorem firstFlaw_append (nodes others : List (List DocumentStep × Value)) :
    firstFlaw (nodes ++ others) = (firstFlaw nodes).or (firstFlaw others) :=
  List.findSome?_append

theorem firstFlaw_object (path : List DocumentStep) (members : List (String × Value)) :
    firstFlaw ((Value.object members).nodes path) =
      if (kind? members).isNone then some ⟨path, .noKind⟩
      else (members.lookup "fields").bind (fieldsFlaw path) := by
  have hbelow (fields : List (String × Value)) : firstFlaw (nodesBelow path fields) = firstFlaw
      ((fields.flatMap fun f => fieldNodes f.1 f.2).flatMap fun child => child.2.nodes (path ++ child.1)) := by
    rw [List.flatMap_assoc]
    rfl
  rw [Value.nodes_eq, firstFlaw_cons]
  cases hk : (kind? members).isNone with
  | true => simp [Value.flaw?, hk]
  | false =>
    cases hf : members.lookup "fields" with
    | none => simp [Value.flaw?, hk, hf, Value.childNodes, Value.member?, firstFlaw]
    | some f =>
      cases f with
      | object fields => simp [Value.flaw?, hk, hf, Value.childNodes, Value.member?, fieldsFlaw, hbelow]
      | null => simp [Value.flaw?, hk, hf, Value.childNodes, Value.member?, fieldsFlaw, firstFlaw]
      | bool | number | string | array =>
        simp [Value.flaw?, hk, hf, fieldsFlaw]

theorem ends_members {fields : TreeBuilder (List (String × FieldValue))} {e : Option MisshapenTree}
    (h : Ends fields e) : Ends (addMembers path members fields)
      (if (kind? members).isNone then some ⟨path, .noKind⟩ else e) := by
  unfold addMembers
  cases kind? members with
  | none => exact .throw _
  | some kind =>
    have hadd := h.bind fun fields => Ends.add ⟨kind, fields⟩
    rwa [Option.or_none] at hadd

mutual

theorem Value.ends_node (path : List DocumentStep) : ∀ v : Value, Ends (v.addNode path) (firstFlaw (v.nodes path))
  | .object members => by
    rw [Value.addNode, firstFlaw_object]
    exact ends_members (ends_fieldsMember path members)
  | .null | .bool _ | .number _ | .string _ | .array _ => by
    rw [Value.nodes_eq]
    exact .throw _

theorem ends_fieldsMember (path : List DocumentStep) : ∀ members : List (String × Value),
    Ends (addFieldsMember path members) ((members.lookup "fields").bind (fieldsFlaw path))
  | [] => .pure _
  | (name, v) :: rest => by
    rw [addFieldsMember, List.lookup_cons]
    split
    · next hname =>
      obtain rfl := hname
      exact v.ends_fields path
    · next hname =>
      rw [beq_false_of_ne (Ne.symm hname)]
      exact ends_fieldsMember path rest

theorem Value.ends_fields (path : List DocumentStep) : ∀ v : Value, Ends (v.addFields path) (fieldsFlaw path v)
  | .null => .pure _
  | .object fields => by
    rw [Value.addFields]
    exact ends_each path fields
  | .bool _ | .number _ | .string _ | .array _ => .throw _

theorem ends_each (path : List DocumentStep) :
    ∀ fields : List (String × Value), Ends (addEach path fields) (firstFlaw (nodesBelow path fields))
  | [] => .pure _
  | (name, v) :: rest => by
    rw [addEach, nodesBelow, List.flatMap_cons, firstFlaw_append]
    exact (v.ends_field path name).bind fun value => (ends_each path rest).map _

theorem Value.ends_field (path : List DocumentStep) (name : String) : ∀ v : Value,
    Ends (v.addField (path ++ [.field name]))
      (firstFlaw ((fieldNodes name v).flatMap fun child => child.2.nodes (path ++ child.1)))
  | .null | .bool _ | .number _ | .string _ => .pure _
  | .object members => by
    rw [Value.addField, fieldNodes, List.flatMap_singleton, firstFlaw_object]
    have hfields := ends_fieldsMember (path ++ [.field name]) members
    exact (ends_members hfields).map _
  | .array items => by
    rw [Value.addField, fieldNodes, List.flatMap_map]
    have hitems := (ends_items (path ++ [.field name]) 0 items).map FieldValue.list
    simp only [List.append_assoc, List.singleton_append] at hitems
    exact hitems

theorem ends_items (path : List DocumentStep) (index : Nat) : ∀ items : List Value,
    Ends (addItems path index items)
      (firstFlaw (((items.zipIdx index).filter fun x => x.1.isObject).flatMap
        fun x => x.1.nodes (path ++ [.item x.2])))
  | [] => .pure _
  | v :: rest => by
    rw [addItems, List.zipIdx_cons]
    split
    · next hv =>
      rw [List.filter_cons, if_pos hv, List.flatMap_cons, firstFlaw_append]
      exact (v.ends_node (path ++ [.item index])).bind fun child => (ends_items path (index + 1) rest).map _
    · next hv =>
      rw [List.filter_cons, if_neg hv]
      exact ends_items path (index + 1) rest

end

end

inductive Value.Leads : List DocumentStep → Value → Value → Prop where
  | here {v : Value} : Leads [] v v
  | field {v u w : Value} {fields : List (String × Value)} {name : String} {steps : List DocumentStep} :
    v.member? "fields" = some (.object fields) → (name, u) ∈ fields → Leads steps u w →
      Leads (.field name :: steps) v w
  | item {items : List Value} {i : Nat} {u w : Value} {steps : List DocumentStep} :
    items[i]? = some u → Leads steps u w → Leads (.item i :: steps) (.array items) w

/-- A node has the flaw, and none before it in the order of the text has any. -/
def Value.FirstFlaw (v : Value) (path : List DocumentStep) (flaw : Flaw) : Prop :=
  ∃ before u after, v.nodes [] = before ++ (path, u) :: after ∧ (∀ n ∈ before, n.2.flaw? = none) ∧
    u.flaw? = some flaw ∧ v.Leads path u

section

variable {v u w : Value} {path steps others : List DocumentStep} {members : List (String × Value)} {kind : Kind}
  {child n : List DocumentStep × Value} {e : MisshapenTree}

theorem Value.Leads.append (h : v.Leads steps u) (h' : u.Leads others w) : v.Leads (steps ++ others) w := by
  induction h with
  | here => exact h'
  | field hf hu _ ih => exact .field hf hu (ih h')
  | item hi _ ih => exact .item hi (ih h')

theorem leads_child (h : child ∈ v.childNodes) : v.Leads child.1 child.2 := by
  obtain ⟨fields, name, x, hf, hx, hchild⟩ := mem_childNodes.mp h
  rcases mem_fieldNodes.mp hchild with ⟨rfl, _⟩ | ⟨items, i, rfl, hi, _, hsteps⟩
  · exact .field hf hx .here
  · rw [hsteps]
    exact .field hf hx (.item hi .here)

theorem leads_node (h : n ∈ v.nodes path) : ∃ steps, n.1 = path ++ steps ∧ v.Leads steps n.2 := by
  induction path, v using Value.nodes.induct with
  | case1 path v ih =>
    rw [Value.nodes_eq] at h
    rcases List.mem_cons.mp h with rfl | h
    · exact ⟨[], (List.append_nil path).symm, .here⟩
    · obtain ⟨child, hchild, hn⟩ := List.mem_flatMap.mp h
      obtain ⟨steps, hsteps, hleads⟩ := ih child hchild hn
      refine ⟨child.1 ++ steps, ?_, (leads_child hchild).append hleads⟩
      rw [hsteps, List.append_assoc]

theorem kind?_eq_some_iff : kind? members = some kind ↔ members.lookup "kind" = some (.string kind) := by
  unfold kind?
  cases members.lookup "kind" with
  | none => simp
  | some v => cases v <;> simp

theorem flaw?_object_eq_none_iff : (Value.object members).flaw? = none ↔
    (∃ kind, members.lookup "kind" = some (.string kind)) ∧ (members.lookup "fields" = none ∨
      members.lookup "fields" = some .null ∨ ∃ fields, members.lookup "fields" = some (.object fields)) := by
  simp only [← kind?_eq_some_iff]
  cases hk : kind? members with
  | none => simp [Value.flaw?, hk]
  | some kind =>
    cases hf : members.lookup "fields" with
    | none => simp [Value.flaw?, hk, hf]
    | some f => cases f <;> simp [Value.flaw?, hk, hf]

theorem isNode_iff : v.IsNode ↔ v.flaw? = none ∧ ∀ child ∈ v.childNodes, child.2.IsNode := by
  constructor
  · intro h
    cases h with
    | @leaf members kind hk hf =>
      refine ⟨flaw?_object_eq_none_iff.mpr ⟨⟨kind, hk⟩, hf.imp_right Or.inl⟩, fun child hchild => ?_⟩
      obtain ⟨fields, _, _, hfields, _, _⟩ := mem_childNodes.mp hchild
      rw [Value.member?] at hfields
      rcases hf with hnone | hnull
      · cases hnone.symm.trans hfields
      · cases hnull.symm.trans hfields
    | @fields members fields kind hk hf hfield hitem =>
      refine ⟨flaw?_object_eq_none_iff.mpr ⟨⟨kind, hk⟩, Or.inr (Or.inr ⟨fields, hf⟩)⟩, fun child hchild => ?_⟩
      obtain ⟨fields', name, x, hfields, hx, hchild⟩ := mem_childNodes.mp hchild
      rw [Value.member?] at hfields
      cases hf.symm.trans hfields
      rcases mem_fieldNodes.mp hchild with ⟨rfl, hobject⟩ | ⟨items, i, rfl, hi, hobject, _⟩
      · exact hfield name x hx hobject
      · exact hitem name items child.2 hx (List.mem_of_getElem? hi) hobject
  · rintro ⟨hflaw, hchildren⟩
    cases v with
    | null | bool | number | string | array => cases hflaw
    | object members =>
      obtain ⟨⟨kind, hk⟩, hf⟩ := flaw?_object_eq_none_iff.mp hflaw
      rcases hf with hnone | hnull | ⟨fields, hf⟩
      · exact .leaf hk (Or.inl hnone)
      · exact .leaf hk (Or.inr hnull)
      · refine .fields hk hf (fun name x hx hobject => ?_) fun name items x hx hmem hobject => ?_
        · refine hchildren ([.field name], x) (mem_childNodes.mpr ⟨fields, name, x, hf, hx, ?_⟩)
          exact mem_fieldNodes.mpr (Or.inl ⟨rfl, hobject⟩)
        · obtain ⟨i, hi⟩ := List.getElem?_of_mem hmem
          refine hchildren ([.field name, .item i], x)
            (mem_childNodes.mpr ⟨fields, name, .array items, hf, hx, ?_⟩)
          exact mem_fieldNodes.mpr (Or.inr ⟨items, i, rfl, hi, hobject, rfl⟩)

theorem isNode_iff_nodes (path : List DocumentStep) (v : Value) :
    v.IsNode ↔ ∀ n ∈ v.nodes path, n.2.flaw? = none := by
  induction path, v using Value.nodes.induct with
  | case1 path v ih =>
    rw [isNode_iff, Value.nodes_eq, List.forall_mem_cons]
    refine and_congr_right fun _ => ?_
    constructor
    · intro h n hn
      obtain ⟨child, hchild, hn⟩ := List.mem_flatMap.mp hn
      exact (ih child hchild).mp (h child hchild) n hn
    · intro h child hchild
      refine (ih child hchild).mpr fun n hn => h n ?_
      exact List.mem_flatMap.mpr ⟨child, hchild, hn⟩

theorem firstFlaw_eq_some_iff : firstFlaw (v.nodes []) = some e ↔ v.FirstFlaw e.path e.flaw := by
  unfold firstFlaw Value.FirstFlaw
  rw [List.findSome?_eq_some_iff]
  constructor
  · rintro ⟨before, ⟨path, u⟩, after, hsplit, hu, hbefore⟩
    obtain ⟨flaw, hflaw, rfl⟩ := Option.map_eq_some_iff.mp hu
    have hmem : (path, u) ∈ v.nodes [] := by
      rw [hsplit]
      exact List.mem_append_right before List.mem_cons_self
    obtain ⟨steps, hsteps, hleads⟩ := leads_node hmem
    obtain rfl : path = steps := hsteps
    exact ⟨before, u, after, hsplit, fun n hn => Option.map_eq_none_iff.mp (hbefore n hn), hflaw, hleads⟩
  · rintro ⟨before, u, after, hsplit, hbefore, hflaw, _⟩
    refine ⟨before, (e.path, u), after, hsplit, ?_, fun n hn => Option.map_eq_none_iff.mpr (hbefore n hn)⟩
    rw [hflaw]
    rfl

theorem firstFlaw_eq_none_iff : firstFlaw (v.nodes []) = none ↔ v.IsNode := by
  unfold firstFlaw
  rw [List.findSome?_eq_none_iff, isNode_iff_nodes []]
  exact forall₂_congr fun n _ => Option.map_eq_none_iff

theorem toTree_spec (v : Value) : match firstFlaw (v.nodes []) with
    | none => ∃ t, v.toTree = .ok t
    | some e => v.toTree = .error e := by
  have hends := v.ends_node []
  unfold Value.toTree
  cases hf : firstFlaw (v.nodes []) with
  | none =>
    rw [hf] at hends
    obtain ⟨⟨root, t⟩, hrun⟩ := hends .empty
    exact ⟨t.withRoot root, by rw [hrun]; rfl⟩
  | some e =>
    rw [hf] at hends
    dsimp only
    rw [hends .empty]
    rfl

theorem exists_toTree_iff : (∃ t, v.toTree = .ok t) ↔ v.IsNode := by
  have hspec := toTree_spec v
  rw [← firstFlaw_eq_none_iff]
  cases hf : firstFlaw (v.nodes []) with
  | none =>
    rw [hf] at hspec
    exact iff_of_true hspec rfl
  | some e =>
    rw [hf] at hspec
    simp [show v.toTree = .error e from hspec]

theorem toTree_eq_error_iff : v.toTree = .error e ↔ v.FirstFlaw e.path e.flaw := by
  have hspec := toTree_spec v
  rw [← firstFlaw_eq_some_iff]
  cases hf : firstFlaw (v.nodes []) with
  | none =>
    rw [hf] at hspec
    obtain ⟨t, ht⟩ := hspec
    simp [ht]
  | some e' =>
    rw [hf] at hspec
    rw [show v.toTree = .error e' from hspec, Except.error.injEq, Option.some.injEq]

end

end SyntaxGraph.Json
