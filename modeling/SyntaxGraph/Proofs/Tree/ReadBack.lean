import SyntaxGraph.Proofs.Except
import SyntaxGraph.Proofs.Tree.Held
import SyntaxGraph.Proofs.Tree.Integers

/-!
Reading a tree back as a document. The tree that a document spells out reads back as that document, but
for what has no place in a tree: other members of a node's object, and what is not an object in a list.
-/

namespace SyntaxGraph

open Json (Value)

def Scalar.document : Scalar → Value
  | .absent => .null
  | .bool b => .bool b
  | .int i => .number (if i < 0 then .negative i else .natural i.toUInt64)
  | .uint n => .number (.natural n)
  | .float x => .number (.float x)
  | .str s => .string s

def FieldValue.document? (node : NodeId → Option Value) : FieldValue → Option Value
  | .node id => node id
  | .list ids => (ids.mapM node).map .array
  | .scalar s => some s.document

def fieldDocuments? (node : NodeId → Option Value) :
    List (String × FieldValue) → Option (List (String × Value))
  | [] => some []
  | (name, value) :: rest => do
    let v ← value.document? node
    let others ← fieldDocuments? node rest
    return (name, v) :: others

def nodeDocument (kind : Kind) (fields : List (String × Value)) : Value :=
  .object [("kind", .string kind), ("fields", .object fields)]

namespace Tree

def documentWithin (t : Tree) : Nat → NodeId → Option Value
  | 0, _ => none
  | bound + 1, id => do
    let n ← t.node? id
    let fields ← fieldDocuments? (t.documentWithin bound) n.fields
    return nodeDocument n.kind fields

def document? (t : Tree) : Option Value :=
  t.root.bind (t.documentWithin t.size)

def documents (t : Tree) : List (Option Value) :=
  (List.range t.size).map fun i => t.documentWithin (i + 1) ⟨i⟩

end Tree

namespace Json

mutual

def Value.kept : Value → Value
  | .object members =>
    .object ((members.lookup "kind").toList.map (("kind", ·))
      ++ [("fields", .object (keptFieldsMember members))])
  | .array items => .array (keptItems items)
  | v => v

def keptFieldsMember : List (String × Value) → List (String × Value)
  | [] => []
  | (name, v) :: rest => if name = "fields" then v.keptFields else keptFieldsMember rest

def Value.keptFields : Value → List (String × Value)
  | .object fields => keptEach fields
  | _ => []

def keptEach : List (String × Value) → List (String × Value)
  | [] => []
  | (name, v) :: rest => (name, v.kept) :: keptEach rest

def keptItems : List Value → List Value
  | [] => []
  | v :: rest => if v.isObject then v.kept :: keptItems rest else keptItems rest

end

mutual

/-- The objects of a document that stand for nodes, each behind those below it. -/
def Value.nodeObjects : Value → List Value
  | .object members => nodeObjectsOfMember members ++ [.object members]
  | .array items => nodeObjectsOfItems items
  | _ => []

def nodeObjectsOfMember : List (String × Value) → List Value
  | [] => []
  | (name, v) :: rest => if name = "fields" then v.nodeObjectsOfFields else nodeObjectsOfMember rest

def Value.nodeObjectsOfFields : Value → List Value
  | .object fields => nodeObjectsOfEach fields
  | _ => []

def nodeObjectsOfEach : List (String × Value) → List Value
  | [] => []
  | (_, v) :: rest => v.nodeObjects ++ nodeObjectsOfEach rest

def nodeObjectsOfItems : List Value → List Value
  | [] => []
  | v :: rest => if v.isObject then v.nodeObjects ++ nodeObjectsOfItems rest else nodeObjectsOfItems rest

end

theorem Number.document_scalar {n : Number} (h : n.Canonical) : n.scalar.document = .number n := by
  cases n with
  | natural n =>
    simp only [Number.scalar, Scalar.ofUInt64]
    split
    · next hlt =>
      have hnot : ¬ n.toInt64 < 0 := by
        rw [Int64.lt_iff_toInt_lt, Scalar.toInt_toInt64 hlt]
        have hzero : (0 : Int64).toInt = 0 := rfl
        omega
      rw [Scalar.document, if_neg hnot, UInt64.toUInt64_toInt64]
    · rfl
  | negative i =>
    have hneg : i < 0 := h
    rw [Number.scalar, Scalar.document, if_pos hneg]
  | float x => rfl

end Json

section

variable {node node' : NodeId → Option Value} {value : FieldValue} {v : Value}

theorem mapM_mono (h : ∀ id v, node id = some v → node' id = some v) {ids : List NodeId} {vs : List Value}
    (hs : ids.mapM node = some vs) : ids.mapM node' = some vs := by
  induction ids generalizing vs with
  | nil => exact hs
  | cons id ids ih =>
    rw [List.mapM_cons] at hs ⊢
    obtain ⟨v, hv, hs⟩ := Option.bind_eq_some_iff.mp hs
    obtain ⟨others, hothers, hs⟩ := Option.bind_eq_some_iff.mp hs
    rw [h id v hv, ih hothers]
    exact hs

theorem FieldValue.document?_mono (h : ∀ id v, node id = some v → node' id = some v)
    (hv : value.document? node = some v) : value.document? node' = some v := by
  cases value with
  | node id => exact h id v hv
  | list ids =>
    obtain ⟨vs, hvs, rfl⟩ := Option.map_eq_some_iff.mp hv
    rw [FieldValue.document?, mapM_mono h hvs]
    rfl
  | scalar s => exact hv

theorem fieldDocuments?_mono (h : ∀ id v, node id = some v → node' id = some v)
    {fields : List (String × FieldValue)} {vs : List (String × Value)}
    (hs : fieldDocuments? node fields = some vs) : fieldDocuments? node' fields = some vs := by
  induction fields generalizing vs with
  | nil => exact hs
  | cons field fields ih =>
    rw [fieldDocuments?] at hs ⊢
    obtain ⟨v, hv, hs⟩ := Option.bind_eq_some_iff.mp hs
    obtain ⟨others, hothers, hs⟩ := Option.bind_eq_some_iff.mp hs
    rw [FieldValue.document?_mono h hv, ih hothers]
    exact hs

end

section

variable {t t' : Tree} {docs : List Value} {id : NodeId} {v : Value}

def listed (docs : List Value) (id : NodeId) : Option Value :=
  docs[id.index]?

theorem listed_append (more : List Value) (h : listed docs id = some v) :
    listed (docs ++ more) id = some v := by
  obtain ⟨hlt, _⟩ := List.getElem?_eq_some_iff.mp h
  rw [listed, List.getElem?_append_left hlt]
  exact h

namespace Tree

theorem documentWithin_succ {bound : Nat} {n : Node} {fields : List (String × Value)}
    (hn : t.node? id = some n) (hf : fieldDocuments? (t.documentWithin bound) n.fields = some fields) :
    t.documentWithin (bound + 1) id = some (nodeDocument n.kind fields) := by
  rw [documentWithin]
  exact Option.bind_eq_some_iff.mpr ⟨n, hn, Option.bind_eq_some_iff.mpr ⟨fields, hf, rfl⟩⟩

theorem documentWithin_mono (ht : t.Within t') {bound bound' : Nat} (hb : bound ≤ bound')
    (h : t.documentWithin bound id = some v) : t'.documentWithin bound' id = some v := by
  induction bound generalizing bound' id v with
  | zero => cases h
  | succ bound ih =>
    cases bound' with
    | zero => cases hb
    | succ bound' =>
      rw [documentWithin] at h
      obtain ⟨n, hn, h⟩ := Option.bind_eq_some_iff.mp h
      obtain ⟨fields, hf, h⟩ := Option.bind_eq_some_iff.mp h
      cases h
      have hbelow : bound ≤ bound' := Nat.le_of_succ_le_succ hb
      exact documentWithin_succ (ht id n hn) (fieldDocuments?_mono (fun _ _ => ih hbelow) hf)

def Spells (t : Tree) (docs : List Value) : Prop :=
  t.documents = docs.map some

theorem Spells.size (h : t.Spells docs) : docs.length = t.size := by
  simpa [documents] using (congrArg List.length h).symm

theorem Spells.documentWithin (h : t.Spells docs) (hv : listed docs id = some v) :
    t.documentWithin (id.index + 1) id = some v := by
  have hid : t.documents[id.index]? = (docs.map some)[id.index]? := congrArg (·[id.index]?) h
  obtain ⟨hlt, _⟩ := List.getElem?_eq_some_iff.mp hv
  have hlt' : id.index < t.size := h.size ▸ hlt
  have hv' : docs[id.index]? = some v := hv
  simpa [documents, hlt', hv'] using hid

theorem spells_empty : empty.Spells [] :=
  rfl

theorem Spells.add (h : t.Spells docs) {n : Node} {fields : List (String × Value)}
    (hf : fieldDocuments? (listed docs) n.fields = some fields) :
    (t.add n).Spells (docs ++ [nodeDocument n.kind fields]) := by
  have hwithin := t.within_add n
  have hold : (List.range t.size).map (fun i => (t.add n).documentWithin (i + 1) ⟨i⟩) = docs.map some := by
    rw [← h]
    refine List.map_congr_left fun i hi => ?_
    have hlt : i < docs.length := h.size ▸ List.mem_range.mp hi
    have hi' : listed docs ⟨i⟩ = some docs[i] := List.getElem?_eq_getElem hlt
    have ht := h.documentWithin hi'
    rw [ht]
    exact documentWithin_mono hwithin (Nat.le_refl _) ht
  have hnew : (t.add n).documentWithin (t.size + 1) ⟨t.size⟩ = some (nodeDocument n.kind fields) := by
    have hnode : (t.add n).node? ⟨t.size⟩ = some n := by
      rw [node?_add]
      exact if_pos rfl
    have hfields : fieldDocuments? ((t.add n).documentWithin t.size) n.fields = some fields := by
      refine fieldDocuments?_mono (fun id v hv => ?_) hf
      obtain ⟨hlt, _⟩ := List.getElem?_eq_some_iff.mp hv
      rw [h.size] at hlt
      exact documentWithin_mono hwithin hlt (h.documentWithin hv)
    exact documentWithin_succ hnode hfields
  rw [Spells, documents, size_add, List.range_succ, List.map_append, hold, List.map_append]
  exact congrArg (docs.map some ++ [·]) hnew

end Tree

end

namespace Json

section

variable {α β : Type} {before docs docs' : List Value} {x : TreeBuilder α} {f : α → TreeBuilder β}
  {mid : α → List Value → Prop} {post : β → List Value → Prop}

/-- Run on a tree that spells what was there before, the builder adds a node for each of the documents,
and its answer is true of all of them together. -/
def Records (before : List Value) (x : TreeBuilder α) (docs : List Value) (post : α → List Value → Prop) :
    Prop :=
  ∀ t, t.Spells before → ∀ a t', x.run t = .ok (a, t') →
    t'.Spells (before ++ docs) ∧ post a (before ++ docs)

theorem Records.pure {b : β} (h : post b before) : Records before (Pure.pure b) [] post := by
  intro t ht b' t' hr
  cases hr
  rw [List.append_nil]
  exact ⟨ht, h⟩

theorem Records.bind (hx : Records before x docs mid)
    (hf : ∀ a, mid a (before ++ docs) → Records (before ++ docs) (f a) docs' post) :
    Records before (x >>= f) (docs ++ docs') post := by
  intro t ht b t'' hr
  obtain ⟨⟨a, t'⟩, ha, hb⟩ := Except.bind_eq_ok_iff.mp hr
  obtain ⟨ht', hm⟩ := hx t ht a t' ha
  rw [← List.append_assoc]
  exact hf a hm t' ht' b t'' hb

theorem Records.map {g : α → β} (hx : Records before x docs mid)
    (hg : ∀ a, mid a (before ++ docs) → post (g a) (before ++ docs)) :
    Records before (do return g (← x)) docs post := by
  have hbind : Records before (do return g (← x)) (docs ++ []) post := by
    refine hx.bind fun a ha => .pure ?_
    exact hg a ha
  rwa [List.append_nil] at hbind

theorem Records.throw (e : MisshapenTree) : Records before (throw e : TreeBuilder α) docs mid := by
  intro t ht a t' hr
  cases hr

theorem records_add {kind : Kind} {fields : List (String × FieldValue)} {vs : List (String × Value)}
    (hf : fieldDocuments? (listed before) fields = some vs) :
    Records before (TreeBuilder.add ⟨kind, fields⟩) [nodeDocument kind vs]
      fun id all => listed all id = some (nodeDocument kind vs) := by
  intro t ht id t' hr
  cases hr
  refine ⟨ht.add hf, ?_⟩
  change (before ++ [nodeDocument kind vs])[t.size]? = some (nodeDocument kind vs)
  rw [← ht.size, List.getElem?_concat_length]

theorem kept_object {members : List (String × Value)} {kind : Kind} (h : kind? members = some kind) :
    Value.kept (.object members) = nodeDocument kind (keptFieldsMember members) := by
  have hl : members.lookup "kind" = some (.string kind) := by
    unfold kind? at h
    split at h
    · next k hk =>
      cases h
      exact hk
    · cases h
  rw [Value.kept, hl]
  rfl

theorem records_members {path : List DocumentStep} {members : List (String × Value)}
    {fields : TreeBuilder (List (String × FieldValue))}
    (hf : Records before fields docs
      fun fs all => fieldDocuments? (listed all) fs = some (keptFieldsMember members)) :
    Records before (addMembers path members fields) (docs ++ [Value.kept (.object members)])
      fun id all => listed all id = some (Value.kept (.object members)) := by
  unfold addMembers
  cases hk : kind? members with
  | none => exact .throw _
  | some kind =>
    rw [kept_object hk]
    exact hf.bind fun fs hfs => records_add hfs

end

mutual

theorem Value.records_node (path : List DocumentStep) : ∀ {v : Value}, v.Canonical → ∀ {before},
    Records before (v.addNode path) (v.nodeObjects.map Value.kept) fun id all => listed all id = some v.kept
  | .object members, h, _ => by
    rw [Value.addNode, Value.nodeObjects, List.map_append]
    exact records_members (records_fieldsMember path (Value.canonical_object.mp h))
  | .null, _, _ | .bool _, _, _ | .number _, _, _ | .string _, _, _ | .array _, _, _ => .throw _
termination_by structural v => v

theorem records_fieldsMember (path : List DocumentStep) :
    ∀ {members : List (String × Value)}, (∀ m ∈ members, m.2.Canonical) → ∀ {before},
    Records before (addFieldsMember path members) ((nodeObjectsOfMember members).map Value.kept)
      fun fs all => fieldDocuments? (listed all) fs = some (keptFieldsMember members)
  | [], _, _ => .pure rfl
  | (name, v) :: rest, h, _ => by
    obtain ⟨hv, hrest⟩ := List.forall_mem_cons.mp h
    rw [addFieldsMember, nodeObjectsOfMember, keptFieldsMember]
    by_cases hn : name = "fields"
    · simp only [if_pos hn]
      exact Value.records_fields path hv
    · simp only [if_neg hn]
      exact records_fieldsMember path hrest
termination_by structural v => v

theorem Value.records_fields (path : List DocumentStep) : ∀ {v : Value}, v.Canonical → ∀ {before},
    Records before (v.addFields path) (v.nodeObjectsOfFields.map Value.kept)
      fun fs all => fieldDocuments? (listed all) fs = some v.keptFields
  | .null, _, _ => .pure rfl
  | .object fields, h, _ => by
    rw [Value.addFields, Value.nodeObjectsOfFields, Value.keptFields]
    exact records_each path (Value.canonical_object.mp h)
  | .bool _, _, _ | .number _, _, _ | .string _, _, _ | .array _, _, _ => .throw _
termination_by structural v => v

theorem records_each (path : List DocumentStep) :
    ∀ {fields : List (String × Value)}, (∀ m ∈ fields, m.2.Canonical) → ∀ {before},
    Records before (addEach path fields) ((nodeObjectsOfEach fields).map Value.kept)
      fun fs all => fieldDocuments? (listed all) fs = some (keptEach fields)
  | [], _, _ => .pure rfl
  | (name, v) :: rest, h, before => by
    obtain ⟨hv, hrest⟩ := List.forall_mem_cons.mp h
    rw [addEach, nodeObjectsOfEach, keptEach, List.map_append]
    refine (Value.records_field _ hv).bind fun value hvalue => ?_
    refine (records_each path hrest).map fun others hothers => ?_
    rw [fieldDocuments?, FieldValue.document?_mono (fun _ _ => listed_append _) hvalue, hothers]
    rfl
termination_by structural v => v

theorem Value.records_field (path : List DocumentStep) : ∀ {v : Value}, v.Canonical → ∀ {before},
    Records before (v.addField path) (v.nodeObjects.map Value.kept)
      fun value all => value.document? (listed all) = some v.kept
  | .null, _, _ | .bool _, _, _ | .string _, _, _ => .pure rfl
  | .number n, h, _ => by
    exact .pure (congrArg some (Number.document_scalar (Value.canonical_number.mp h)))
  | .object members, h, _ => by
    rw [Value.addField, Value.nodeObjects, List.map_append]
    refine (records_members ?_).map fun child hchild => hchild
    exact records_fieldsMember path (Value.canonical_object.mp h)
  | .array items, h, _ => by
    rw [Value.addField, Value.nodeObjects]
    refine (records_items path 0 (Value.canonical_array.mp h)).map fun children hchildren => ?_
    rw [FieldValue.document?, hchildren]
    rfl
termination_by structural v => v

theorem records_items (path : List DocumentStep) (index : Nat) :
    ∀ {items : List Value}, (∀ v ∈ items, v.Canonical) → ∀ {before},
    Records before (addItems path index items) ((nodeObjectsOfItems items).map Value.kept)
      fun ids all => ids.mapM (listed all) = some (keptItems items)
  | [], _, _ => .pure rfl
  | v :: rest, h, before => by
    obtain ⟨hv, hrest⟩ := List.forall_mem_cons.mp h
    rw [addItems, nodeObjectsOfItems, keptItems]
    by_cases ho : v.isObject = true
    · simp only [if_pos ho]
      rw [List.map_append]
      refine (Value.records_node _ hv).bind fun child hchild => ?_
      refine (records_items path (index + 1) hrest).map fun others hothers => ?_
      rw [List.mapM_cons, listed_append _ hchild, hothers]
      rfl
    · simp only [if_neg ho]
      exact records_items path (index + 1) hrest
termination_by structural v => v

end

end Json

namespace Tree

theorem Spells.withRoot {t : Tree} {docs : List Value} (h : t.Spells docs) (root : NodeId) :
    (t.withRoot root).Spells docs := by
  have hall : ∀ i ∈ List.range t.size,
      (t.withRoot root).documentWithin (i + 1) ⟨i⟩ = t.documentWithin (i + 1) ⟨i⟩ := by
    intro i hi
    have hlt : i < docs.length := h.size ▸ List.mem_range.mp hi
    have hi' : listed docs ⟨i⟩ = some docs[i] := List.getElem?_eq_getElem hlt
    have ht := h.documentWithin hi'
    rw [ht]
    exact documentWithin_mono (t.within_withRoot root) (Nat.le_refl _) ht
  exact (List.map_congr_left hall).trans h

theorem spells_toTree {v : Value} (hv : v.Canonical) {t : Tree} (h : v.toTree = .ok t) :
    t.Spells (v.nodeObjects.map Value.kept) ∧ t.document? = some v.kept := by
  obtain ⟨⟨root, t'⟩, hroot, ht⟩ := Except.bind_eq_ok_iff.mp h
  cases ht
  obtain ⟨hspells, hlisted⟩ := Value.records_node [] hv .empty spells_empty root t' hroot
  refine ⟨hspells.withRoot root, ?_⟩
  obtain ⟨hlt, _⟩ := List.getElem?_eq_some_iff.mp hlisted
  have hbound : root.index + 1 ≤ t'.size := hspells.size ▸ hlt
  exact documentWithin_mono (t'.within_withRoot root) hbound (hspells.documentWithin hlisted)

theorem document?_ofDocument {text : String} {t : Tree} (h : Tree.ofDocument text = .ok t) :
    ∃ v, Json.read text = .ok v ∧ t.document? = some v.kept ∧
      t.documents = v.nodeObjects.map (fun o => some o.kept) ∧ t.size = v.nodeObjects.length := by
  unfold Tree.ofDocument at h
  cases hr : Json.read text with
  | error e => simp [hr] at h
  | ok v =>
    simp only [hr] at h
    obtain ⟨hspells, hdocument⟩ := spells_toTree (Json.canonical_read hr) (Except.of_mapError_eq_ok h)
    refine ⟨v, rfl, hdocument, ?_, ?_⟩
    · rw [hspells, List.map_map]
      rfl
    · rw [← hspells.size, List.length_map]

def annotatedDocument : String :=
  "\x7b\"line\": 1, \"fields\": \x7b\"names\": [\"a\", [], \x7b\"kind\": \"Name\", \"fields\": null\x7d], "
    ++ "\"level\": 18446744073709551615, \"other\": \x7b\"kind\": \"Pass\"\x7d, \"note\": null\x7d, "
    ++ "\"kind\": \"Global\"\x7d"

def annotatedTree : Tree where
  nodes := #[⟨"Name", []⟩, ⟨"Pass", []⟩, ⟨"Global", [("names", .list [⟨0⟩]),
    ("level", .scalar (.uint 18446744073709551615)), ("other", .node ⟨1⟩), ("note", .scalar .absent)]⟩]
  root := some ⟨2⟩

def annotatedKept : Value :=
  nodeDocument "Global" [("names", .array [nodeDocument "Name" []]),
    ("level", .number (.natural 18446744073709551615)), ("other", nodeDocument "Pass" []), ("note", .null)]

theorem document?_annotatedDocument : Tree.ofDocument annotatedDocument = .ok annotatedTree ∧
    annotatedTree.document? = some annotatedKept ∧
    ∃ v, Json.read annotatedDocument = .ok v ∧ v.kept = annotatedKept ∧ v.nodeObjects.length = 3 := by
  have h : Tree.ofDocument annotatedDocument = .ok annotatedTree := by decide +kernel
  have hkept : annotatedTree.document? = some annotatedKept := rfl
  obtain ⟨v, hv, hdocument, _, hsize⟩ := document?_ofDocument h
  exact ⟨h, hkept, v, hv, Option.some.inj (hdocument.symm.trans hkept), hsize.symm⟩

end Tree

end SyntaxGraph
