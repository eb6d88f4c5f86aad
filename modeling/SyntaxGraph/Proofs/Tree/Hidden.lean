import SyntaxGraph.Proofs.Tree.Alike
import SyntaxGraph.Proofs.Tree.ReadBack

namespace SyntaxGraph

open Json (Value)

namespace Json

mutual

def Value.pruned (hidden : Kind → Bool) : Value → Value
  | .object members =>
    .object <| if (kind? members).any hidden then members.filter (·.1 ≠ "fields")
      else prunedMembers hidden members
  | .array items => .array (prunedItems hidden items)
  | v => v

def prunedMembers (hidden : Kind → Bool) : List (String × Value) → List (String × Value)
  | [] => []
  | (name, v) :: rest =>
    (name, if name = "fields" then v.prunedFields hidden else v) :: prunedMembers hidden rest

def Value.prunedFields (hidden : Kind → Bool) : Value → Value
  | .object fields => .object (prunedEach hidden fields)
  | v => v

def prunedEach (hidden : Kind → Bool) : List (String × Value) → List (String × Value)
  | [] => []
  | (name, v) :: rest => (name, v.pruned hidden) :: prunedEach hidden rest

def prunedItems (hidden : Kind → Bool) : List Value → List Value
  | [] => []
  | v :: rest => v.pruned hidden :: prunedItems hidden rest

end

section

variable {hidden : Kind → Bool}

theorem Value.isObject_pruned (hidden : Kind → Bool) (v : Value) :
    (v.pruned hidden).isObject = v.isObject := by
  cases v <;> rfl

theorem prunedEach_eq_map (fields : List (String × Value)) :
    prunedEach hidden fields = fields.map fun f => (f.1, f.2.pruned hidden) := by
  induction fields with
  | nil => rfl
  | cons f rest ih => exact congrArg _ ih

theorem prunedItems_eq_map (items : List Value) :
    prunedItems hidden items = items.map (Value.pruned hidden) := by
  induction items with
  | nil => rfl
  | cons v rest ih => exact congrArg _ ih

theorem lookup_kind_filter (members : List (String × Value)) :
    (members.filter (·.1 ≠ "fields")).lookup "kind" = members.lookup "kind" := by
  induction members with
  | nil => rfl
  | cons m rest ih =>
    obtain ⟨name, v⟩ := m
    have hkind : ("kind" == "fields") = false := rfl
    by_cases hn : name = "fields"
    · subst hn
      simp only [List.filter_cons, ne_eq, not_true_eq_false, decide_false, Bool.false_eq_true, if_false,
        List.lookup_cons, hkind, ih]
    · simp only [List.filter_cons, ne_eq, hn, not_false_eq_true, decide_true, if_true, List.lookup_cons, ih]

theorem lookup_kind_pruned (members : List (String × Value)) :
    (prunedMembers hidden members).lookup "kind" = members.lookup "kind" := by
  induction members with
  | nil => rfl
  | cons m rest ih =>
    obtain ⟨name, v⟩ := m
    rw [prunedMembers, List.lookup_cons, List.lookup_cons, ih]
    by_cases hn : name = "fields"
    · subst hn
      rfl
    · rw [if_neg hn]

theorem pruned_nodeDocument (kind : Kind) (fields : List (String × Value)) :
    (nodeDocument kind fields).pruned hidden =
      if hidden kind then .object [("kind", .string kind)]
      else nodeDocument kind (prunedEach hidden fields) := by
  have hk : kind? [("kind", .string kind), ("fields", .object fields)] = some kind := rfl
  rw [nodeDocument, Value.pruned, hk, Option.any_some]
  cases hidden kind <;> rfl

theorem member?_kind_pruned (kind : Kind) (fields : List (String × Value)) :
    ((nodeDocument kind fields).pruned hidden).member? "kind" = some (.string kind) := by
  rw [pruned_nodeDocument]
  cases hidden kind <;> rfl

theorem kind?_congr {members members' : List (String × Value)}
    (h : members.lookup "kind" = members'.lookup "kind") : kind? members = kind? members' := by
  rw [kind?, kind?, h]

theorem pruned_kept_object (members : List (String × Value)) :
    (Value.object members).kept.pruned hidden = .object ((members.lookup "kind").toList.map (("kind", ·)) ++
      if (kind? members).any hidden then []
      else [("fields", .object (prunedEach hidden (keptFieldsMember members)))]) := by
  rw [Value.kept]
  cases hl : members.lookup "kind" with
  | none =>
    have hk : kind? members = none := by rw [kind?, hl]
    rw [hk]
    rfl
  | some v =>
    have hk : kind? [("kind", v), ("fields", .object (keptFieldsMember members))] = kind? members :=
      kind?_congr hl.symm
    rw [← hk]
    simp only [Option.toList_some, List.map_cons, List.map_nil, List.singleton_append, Value.pruned]
    cases (kind? [("kind", v), ("fields", .object (keptFieldsMember members))]).any hidden <;> rfl

end

mutual

theorem Value.pruned_kept_pruned (hidden : Kind → Bool) :
    ∀ v : Value, (v.pruned hidden).kept.pruned hidden = v.kept.pruned hidden
  | .object members => by
    rw [Value.pruned, pruned_kept_object, pruned_kept_object]
    cases hh : (kind? members).any hidden with
    | true =>
      rw [if_pos rfl, lookup_kind_filter, kind?_congr (lookup_kind_filter members), hh, if_pos rfl,
        if_pos rfl]
    | false =>
      -- the fields are pruned twice on the left, before and after they are kept
      rw [if_neg Bool.false_ne_true, lookup_kind_pruned, kind?_congr (lookup_kind_pruned members), hh,
        prunedEach_keptMember hidden members]
  | .array items => congrArg Value.array (prunedItems_kept hidden items)
  | .null | .bool _ | .number _ | .string _ => rfl

theorem prunedEach_keptMember (hidden : Kind → Bool) : ∀ members : List (String × Value),
    prunedEach hidden (keptFieldsMember (prunedMembers hidden members)) =
      prunedEach hidden (keptFieldsMember members)
  | [] => rfl
  | (name, v) :: rest => by
    rw [prunedMembers, keptFieldsMember, keptFieldsMember]
    by_cases hn : name = "fields"
    · simp only [if_pos hn]
      exact v.prunedEach_keptFields hidden
    · simp only [if_neg hn]
      exact prunedEach_keptMember hidden rest

theorem Value.prunedEach_keptFields (hidden : Kind → Bool) : ∀ v : Value,
    prunedEach hidden (v.prunedFields hidden).keptFields = prunedEach hidden v.keptFields
  | .object fields => prunedEach_kept hidden fields
  | .null | .bool _ | .number _ | .string _ | .array _ => rfl

theorem prunedEach_kept (hidden : Kind → Bool) : ∀ fields : List (String × Value),
    prunedEach hidden (keptEach (prunedEach hidden fields)) = prunedEach hidden (keptEach fields)
  | [] => rfl
  | (name, v) :: rest => by
    simp only [prunedEach, keptEach, v.pruned_kept_pruned hidden, prunedEach_kept hidden rest]

theorem prunedItems_kept (hidden : Kind → Bool) : ∀ items : List Value,
    prunedItems hidden (keptItems (prunedItems hidden items)) = prunedItems hidden (keptItems items)
  | [] => rfl
  | v :: rest => by
    rw [prunedItems, keptItems, keptItems, Value.isObject_pruned]
    by_cases ho : v.isObject = true
    · simp only [if_pos ho, prunedItems, v.pruned_kept_pruned hidden, prunedItems_kept hidden rest]
    · simp only [if_neg ho]
      exact prunedItems_kept hidden rest

end

end Json

def Json.Value.text : Value → String
  | .null => "None"
  | .bool b => if b then "true" else "false"
  | .number (.natural n) => toString n.toNat
  | .number (.negative i) => toString i.toInt
  | .number (.float x) => Decimal.Notation.plain.float x
  | .string s => s
  | _ => ""

def Json.Value.describable : Value → Bool
  | .null => false
  | _ => true

namespace Scalar

theorem text_document (s : Scalar) : s.document.text = s.text := by
  cases s with
  | int i =>
    rw [document]
    split
    · rfl
    · next hnot =>
      have hle : 0 ≤ i := Int64.not_lt.mp hnot
      have hnat : (i.toUInt64.toNat : Int) = i.toInt := by
        rw [Int64.toNat_toUInt64_of_le hle]
        exact Int.toNat_of_nonneg (Int64.le_iff_toInt_le.mp hle)
      rw [Scalar.text, ← hnat]
      rfl
  | absent | bool _ | uint _ | float _ | str _ => rfl

theorem describable_document (s : Scalar) : s.document.describable = s.describable := by
  cases s <;> rfl

theorem isObject_document (s : Scalar) : s.document.isObject = false := by
  cases s <;> rfl

theorem document_ne_array (s : Scalar) (items : List Value) : s.document ≠ .array items := by
  cases s <;> nofun

theorem pruned_document (hidden : Kind → Bool) (s : Scalar) : s.document.pruned hidden = s.document := by
  cases s <;> rfl

end Scalar

section

variable {hidden : Kind → Bool} {node node' : NodeId → Option Value} {r : NodeId → NodeId → Prop}

theorem items_of_mapM {ids : List NodeId} {xs : List Value} (h : ids.mapM node = some xs) :
    List.Forall₂ (fun id x => node id = some x) ids xs := by
  induction ids generalizing xs with
  | nil =>
    cases h
    exact .nil
  | cons id ids ih =>
    rw [List.mapM_cons] at h
    obtain ⟨x, hx, h⟩ := Option.bind_eq_some_iff.mp h
    obtain ⟨rest, hrest, h⟩ := Option.bind_eq_some_iff.mp h
    cases h
    exact .cons hx (ih hrest)

theorem members_of_fieldDocuments? {fields : List (String × FieldValue)} {xs : List (String × Value)}
    (h : fieldDocuments? node fields = some xs) :
    List.Forall₂ (fun f x => f.1 = x.1 ∧ f.2.document? node = some x.2) fields xs := by
  induction fields generalizing xs with
  | nil =>
    cases h
    exact .nil
  | cons f fields ih =>
    rw [fieldDocuments?] at h
    obtain ⟨x, hx, h⟩ := Option.bind_eq_some_iff.mp h
    obtain ⟨rest, hrest, h⟩ := Option.bind_eq_some_iff.mp h
    cases h
    exact .cons ⟨rfl, hx⟩ (ih hrest)

theorem FieldValue.alike_of_documents
    (ho : ∀ a x, node a = some x → x.isObject) (ho' : ∀ a x, node' a = some x → x.isObject)
    (hr : ∀ a b x y, node a = some x → node' b = some y → x.pruned hidden = y.pruned hidden → r a b)
    {value value' : FieldValue} {x y : Value} (hx : value.document? node = some x)
    (hy : value'.document? node' = some y) (h : x.pruned hidden = y.pruned hidden) :
    value.Alike r value' := by
  have hobject : x.isObject = y.isObject := by
    rw [← Json.Value.isObject_pruned hidden, h, Json.Value.isObject_pruned]
  cases value with
  | node a =>
    have hx' := ho a x hx
    cases value' with
    | node b => exact .node (hr a b x y hx hy h)
    | list bs =>
      obtain ⟨ys, _, rfl⟩ := Option.map_eq_some_iff.mp hy
      cases hx'.symm.trans hobject
    | scalar s' =>
      cases hy
      cases hx'.symm.trans (hobject.trans s'.isObject_document)
  | list as =>
    obtain ⟨xs, hxs, rfl⟩ := Option.map_eq_some_iff.mp hx
    cases value' with
    | node b => cases (ho' b y hy).symm.trans hobject.symm
    | list bs =>
      obtain ⟨ys, hys, rfl⟩ := Option.map_eq_some_iff.mp hy
      have hitems := Value.array.inj h
      rw [Json.prunedItems_eq_map, Json.prunedItems_eq_map] at hitems
      exact .list (forall₂_through (forall₂_of_map_eq hitems) (items_of_mapM hxs) (items_of_mapM hys) hr)
    | scalar s' =>
      cases hy
      exact absurd (h.trans (s'.pruned_document hidden)).symm (s'.document_ne_array _)
  | scalar s =>
    cases hx
    rw [s.pruned_document hidden] at h
    cases value' with
    | node b => cases (ho' b y hy).symm.trans (hobject.symm.trans s.isObject_document)
    | list bs =>
      obtain ⟨ys, _, rfl⟩ := Option.map_eq_some_iff.mp hy
      exact absurd h (s.document_ne_array _)
    | scalar s' =>
      cases hy
      rw [s'.pruned_document hidden] at h
      refine .scalar ?_ ?_
      · rw [← s.text_document, h, s'.text_document]
      · rw [← s.describable_document, h, s'.describable_document]

theorem fields_alike_of_documents
    (ho : ∀ a x, node a = some x → x.isObject) (ho' : ∀ a x, node' a = some x → x.isObject)
    (hr : ∀ a b x y, node a = some x → node' b = some y → x.pruned hidden = y.pruned hidden → r a b)
    {fields fields' : List (String × FieldValue)} {xs ys : List (String × Value)}
    (hx : fieldDocuments? node fields = some xs) (hy : fieldDocuments? node' fields' = some ys)
    (h : Json.prunedEach hidden xs = Json.prunedEach hidden ys) :
    List.Forall₂ (fun f f' => f.1 = f'.1 ∧ f.2.Alike r f'.2) fields fields' := by
  rw [Json.prunedEach_eq_map, Json.prunedEach_eq_map] at h
  refine forall₂_through (forall₂_of_map_eq h) (members_of_fieldDocuments? hx)
    (members_of_fieldDocuments? hy) fun f f' m m' hf hf' hm => ?_
  obtain ⟨hname, hvalue⟩ := Prod.mk.inj hm
  exact ⟨hf.1.trans (hname.trans hf'.1.symm), FieldValue.alike_of_documents ho ho' hr hf.2 hf'.2 hvalue⟩

end

namespace Tree

/-- The documents of the nodes are equal but for what is hidden. -/
def Peers (hidden : Kind → Bool) (t t' : Tree) (a b : NodeId) : Prop :=
  ∃ bound bound' x y, t.documentWithin bound a = some x ∧ t'.documentWithin bound' b = some y ∧
    x.pruned hidden = y.pruned hidden

section

variable {hidden : Kind → Bool} {t t' : Tree} {a b id : NodeId} {bound : Nat} {v : Value}

theorem exists_node_of_documentWithin (h : t.documentWithin bound id = some v) :
    ∃ below n fields, t.node? id = some n ∧ fieldDocuments? (t.documentWithin below) n.fields = some fields ∧
      v = nodeDocument n.kind fields := by
  cases bound with
  | zero => cases h
  | succ below =>
    rw [documentWithin] at h
    obtain ⟨n, hn, h⟩ := Option.bind_eq_some_iff.mp h
    obtain ⟨fields, hf, h⟩ := Option.bind_eq_some_iff.mp h
    cases h
    exact ⟨below, n, fields, hn, hf, rfl⟩

theorem isObject_of_documentWithin (h : t.documentWithin bound id = some v) : v.isObject := by
  obtain ⟨_, _, _, _, _, rfl⟩ := exists_node_of_documentWithin h
  rfl

theorem Peers.exists_nodes (h : Peers hidden t t' a b) : ∃ n n', t.node? a = some n ∧
    t'.node? b = some n' ∧ n.kind = n'.kind ∧ (hidden n.kind = false → n.Alike (Peers hidden t t') n') := by
  obtain ⟨bound, bound', x, y, hx, hy, hxy⟩ := h
  obtain ⟨below, n, fields, hn, hf, rfl⟩ := exists_node_of_documentWithin hx
  obtain ⟨below', n', fields', hn', hf', rfl⟩ := exists_node_of_documentWithin hy
  have hkind : n.kind = n'.kind := by
    have hmember := congrArg (Value.member? "kind") hxy
    rw [Json.member?_kind_pruned, Json.member?_kind_pruned] at hmember
    exact Value.string.inj (Option.some.inj hmember)
  refine ⟨n, n', hn, hn', hkind, fun hshown => ⟨hkind, ?_⟩⟩
  rw [← hkind, Json.pruned_nodeDocument, Json.pruned_nodeDocument, hshown, if_neg Bool.false_ne_true,
    if_neg Bool.false_ne_true] at hxy
  refine fields_alike_of_documents (fun _ _ => isObject_of_documentWithin)
    (fun _ _ => isObject_of_documentWithin) (fun a b x y hx hy h => ⟨_, _, x, y, hx, hy, h⟩) hf hf' ?_
  exact Value.object.inj (Option.some.inj (congrArg (Value.member? "fields") hxy))

end

end Tree

end SyntaxGraph
