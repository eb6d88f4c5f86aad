import SyntaxGraph.Proofs.Tree.Builder
import SyntaxGraph.Proofs.Tree.ReadBack

namespace SyntaxGraph

def Tree.constants (t : Tree) : List (NodeId × Option Scalar) :=
  t.toList.filterMap fun (id, n) => if n.kind = "Constant" then some (id, n.scalar "value") else none

theorem Tree.constants_add (t : Tree) (n : Node) :
    (t.add n).constants =
      t.constants ++ if n.kind = "Constant" then [(t.next, n.scalar "value")] else [] := by
  have hlist : (t.add n).toList = t.toList ++ [(t.next, n)] := by
    simp [toList, add, next, size, List.zipIdx_append]
  rw [constants, hlist, List.filterMap_append]
  by_cases hk : n.kind = "Constant" <;> simp [constants, hk]

theorem Tree.node_of_mem_constants {t : Tree} {id : NodeId} {value : Option Scalar}
    (h : (id, value) ∈ t.constants) :
    ∃ n, t.node? id = some n ∧ n.kind = "Constant" ∧ n.scalar "value" = value := by
  obtain ⟨⟨id', n⟩, hmem, hif⟩ := List.mem_filterMap.mp h
  obtain ⟨⟨n', i⟩, hi, he⟩ := List.mem_map.mp hmem
  cases he
  dsimp only at hif
  split at hif
  · next hk =>
    cases hif
    refine ⟨n, ?_, hk, rfl⟩
    rw [Tree.node?, ← Array.getElem?_toList]
    exact List.mem_zipIdx_iff_getElem?.mp hi
  · cases hif

section

variable {m : Type → Type} [Monad m] {α β : Type} {x : StateT Tree m α} {f : α → StateT Tree m β}
  {values more : List (Option Scalar)} {mid : α → Prop} {post : β → Prop}

/-- Whatever tree it starts from, the builder adds constants that hold these values, and its answer is true
of them. -/
def Stores (x : StateT Tree m α) (values : List (Option Scalar)) (post : α → Prop) : Prop :=
  ∀ t a t', x.run t = pure (a, t') →
    t'.constants.map Prod.snd = t.constants.map Prod.snd ++ values ∧ post a

theorem Stores.pure [Splits m] {a : α} (h : mid a) : Stores (Pure.pure a : StateT Tree m α) [] mid := by
  intro t a' t' hr
  cases Splits.pure_inj hr
  exact ⟨(List.append_nil _).symm, h⟩

theorem Stores.bind [Splits m] (hx : Stores x values mid) (hf : ∀ a, mid a → Stores (f a) more post) :
    Stores (x >>= f) (values ++ more) post := by
  intro t b t'' hr
  obtain ⟨⟨a, t'⟩, ha, hb⟩ := Splits.bind_inv hr
  obtain ⟨ht', hmid⟩ := hx t a t' ha
  obtain ⟨ht'', hpost⟩ := hf a hmid t' b t'' hb
  refine ⟨?_, hpost⟩
  rw [ht'', ht', List.append_assoc]

theorem Stores.last [Splits m] (hx : Stores x values mid) (hf : ∀ a, mid a → Stores (f a) [] post) :
    Stores (x >>= f) values post := by
  have h := hx.bind hf
  rwa [List.append_nil] at h

theorem stores_add [Splits m] {x : StateT Tree m NodeId} {n : Node}
    (hx : ∀ t, x.run t = Pure.pure (t.next, t.add n)) :
    Stores x (if n.kind = "Constant" then [n.scalar "value"] else []) fun _ => True := by
  intro t id t' hr
  cases Splits.pure_inj ((hx t).symm.trans hr)
  refine ⟨?_, trivial⟩
  rw [Tree.constants_add, List.map_append]
  by_cases hk : n.kind = "Constant" <;> simp [hk]

theorem stores_mapM [Splits m] [LawfulMonad m] {f : α → StateT Tree m β}
    (hf : ∀ a, Stores (f a) [] fun _ => True) (as : List α) : Stores (as.mapM f) [] fun _ => True := by
  induction as with
  | nil =>
    rw [List.mapM_nil]
    exact .pure trivial
  | cons a as ih =>
    rw [List.mapM_cons]
    exact (hf a).bind fun b _ => ih.bind fun bs _ => .pure trivial

end

def FieldValue.scalar? : FieldValue → Option Scalar
  | .scalar s => some s
  | _ => none

theorem Node.scalar_eq (n : Node) (name : String) :
    n.scalar name = (n.fields.lookup name).bind FieldValue.scalar? := by
  unfold scalar field
  cases n.fields.lookup name with
  | none => rfl
  | some value => cases value <;> rfl

namespace Json

def Value.scalar? : Value → Option Scalar
  | .null => some .absent
  | .bool b => some (.bool b)
  | .number m => some m.scalar
  | .string s => some (.str s)
  | .array _ => none
  | .object _ => none

def Value.integer? : Value → Option Int
  | .number m => m.integer?
  | _ => none

theorem Value.exists_scalar {v : Value} {z : Int} (h : v.integer? = some z) :
    ∃ s, v.scalar? = some s ∧ s.Denotes z := by
  cases v with
  | number m => exact ⟨_, rfl, Number.denotes_scalar h⟩
  | null | bool | string | array | object => cases h

def Value.field? (name : String) (v : Value) : Option Value :=
  (v.member? "fields").bind (member? name)

def Value.isConstant : Value → Bool
  | .object members => kind? members = some "Constant"
  | _ => false

def constantsOf (objects : List Value) : List (Option Value) :=
  (objects.filter Value.isConstant).map (Value.field? "value")

def Value.constants (v : Value) : List (Option Value) :=
  constantsOf v.nodeObjects

def stored (objects : List Value) : List (Option Scalar) :=
  (constantsOf objects).map fun v => v.bind Value.scalar?

def Agrees (object? : String → Option Value) (fields : List (String × FieldValue)) : Prop :=
  ∀ name, (fields.lookup name).bind FieldValue.scalar? = (object? name).bind Value.scalar?

theorem stored_append (objects others : List Value) :
    stored (objects ++ others) = stored objects ++ stored others := by
  simp [stored, constantsOf]

theorem stores_throw {α : Type} {values : List (Option Scalar)} {post : α → Prop} (e : MisshapenTree) :
    Stores (throw e : TreeBuilder α) values post := by
  intro t a t' hr
  cases hr

theorem stores_members {path : List DocumentStep} {members : List (String × Value)} {objects : List Value}
    {fields : TreeBuilder (List (String × FieldValue))}
    (hf : Stores fields (stored objects) (Agrees fun name => (Value.object members).field? name)) :
    Stores (addMembers path members fields) (stored (objects ++ [.object members])) fun _ => True := by
  unfold addMembers
  cases hk : kind? members with
  | none => exact stores_throw _
  | some kind =>
    rw [stored_append]
    refine hf.bind fun fs hfs => ?_
    have hadd : Stores (TreeBuilder.add ⟨kind, fs⟩) _ fun _ => True := stores_add fun _ => rfl
    have hvalue : (Node.mk kind fs).scalar "value" = _ := (Node.scalar_eq _ _).trans (hfs "value")
    rw [hvalue] at hadd
    by_cases hc : kind = "Constant" <;> simpa [stored, constantsOf, Value.isConstant, hk, hc] using hadd

mutual

theorem Value.stores_node (path : List DocumentStep) :
    ∀ v : Value, Stores (v.addNode path) (stored v.nodeObjects) fun _ => True
  | .object members => by
    rw [Value.addNode, Value.nodeObjects]
    exact stores_members (stores_fieldsMember path members)
  | .null | .bool _ | .number _ | .string _ | .array _ => stores_throw _

theorem stores_fieldsMember (path : List DocumentStep) : ∀ members : List (String × Value),
    Stores (addFieldsMember path members) (stored (nodeObjectsOfMember members))
      (Agrees fun name => (Value.object members).field? name)
  | [] => .pure fun _ => rfl
  | (name, v) :: rest => by
    have hfield (field : String) : (Value.object ((name, v) :: rest)).field? field =
        if name = "fields" then v.member? field else (Value.object rest).field? field := by
      by_cases hname : name = "fields"
      · simp [Value.field?, Value.member?, hname]
      · simp [Value.field?, Value.member?, List.lookup_cons, hname, beq_false_of_ne (Ne.symm hname)]
    simp only [addFieldsMember, nodeObjectsOfMember, hfield]
    split
    · exact v.stores_fields path
    · exact stores_fieldsMember path rest

theorem Value.stores_fields (path : List DocumentStep) :
    ∀ v : Value, Stores (v.addFields path) (stored v.nodeObjectsOfFields) (Agrees fun name => v.member? name)
  | .null => .pure fun _ => rfl
  | .object fields => by
    rw [Value.addFields, Value.nodeObjectsOfFields]
    exact stores_each path fields
  | .bool _ | .number _ | .string _ | .array _ => stores_throw _

theorem stores_each (path : List DocumentStep) : ∀ fields : List (String × Value),
    Stores (addEach path fields) (stored (nodeObjectsOfEach fields)) (Agrees fun name => fields.lookup name)
  | [] => .pure fun _ => rfl
  | (name, v) :: rest => by
    rw [addEach, nodeObjectsOfEach, stored_append]
    refine (v.stores_field _).bind fun value hvalue => ?_
    refine (stores_each path rest).last fun others hothers => .pure fun field => ?_
    simp only [List.lookup_cons]
    split
    · exact hvalue
    · exact hothers field

theorem Value.stores_field (path : List DocumentStep) : ∀ v : Value,
    Stores (v.addField path) (stored v.nodeObjects) fun value => value.scalar? = v.scalar?
  | .null | .bool _ | .number _ | .string _ => .pure rfl
  | .object members => by
    rw [Value.addField, Value.nodeObjects]
    exact (stores_members (stores_fieldsMember path members)).last fun child _ => .pure rfl
  | .array items => by
    rw [Value.addField, Value.nodeObjects]
    exact (stores_items path 0 items).last fun children _ => .pure rfl

theorem stores_items (path : List DocumentStep) (index : Nat) : ∀ items : List Value,
    Stores (addItems path index items) (stored (nodeObjectsOfItems items)) fun _ => True
  | [] => .pure trivial
  | v :: rest => by
    rw [addItems, nodeObjectsOfItems]
    split
    · rw [stored_append]
      refine (v.stores_node _).bind fun child _ => ?_
      exact (stores_items path (index + 1) rest).last fun others _ => .pure trivial
    · exact stores_items path (index + 1) rest

end

theorem constants_toTree {v : Value} {t : Tree} (h : v.toTree = .ok t) :
    t.constants.map Prod.snd = v.constants.map fun value => value.bind Value.scalar? := by
  obtain ⟨⟨root, t'⟩, hroot, ht⟩ := Splits.bind_inv h
  cases Splits.pure_inj ht
  exact (v.stores_node [] .empty root t' hroot).1

end Json

end SyntaxGraph
