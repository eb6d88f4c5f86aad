import SyntaxGraph.Proofs.Related
import SyntaxGraph.Tree.Basic

namespace SyntaxGraph

inductive FieldValue.Alike (r : NodeId → NodeId → Prop) : FieldValue → FieldValue → Prop
  | node {a b} (h : r a b) : Alike r (.node a) (.node b)
  | list {as bs} (h : List.Forall₂ r as bs) : Alike r (.list as) (.list bs)
  | scalar {x y} (ht : x.text = y.text) (hd : x.describable = y.describable) :
    Alike r (.scalar x) (.scalar y)

structure Node.Alike (r : NodeId → NodeId → Prop) (n n' : Node) : Prop where
  kind : n.kind = n'.kind
  fields : List.Forall₂ (fun f f' => f.1 = f'.1 ∧ f.2.Alike r f'.2) n.fields n'.fields

namespace Node

section

variable {r : NodeId → NodeId → Prop} {n n' : Node}

theorem Alike.refl (n : Node) : n.Alike Eq n where
  kind := rfl
  fields := by
    refine List.forall₂_same.mpr fun f _ => ⟨rfl, ?_⟩
    cases f.2 with
    | node a => exact .node rfl
    | list as => exact .list (List.forall₂_same.mpr fun _ _ => rfl)
    | scalar x => exact .scalar rfl rfl

theorem Alike.field (h : n.Alike r n') (name : String) :
    Option.Rel (FieldValue.Alike r) (n.field name) (n'.field name) :=
  lookup_rel h.fields name

theorem Alike.child (h : n.Alike r n') (name : String) : Option.Rel r (n.child name) (n'.child name) := by
  have hfield := h.field name
  unfold Node.child
  generalize n.field name = value, n'.field name = value' at hfield
  cases hfield with
  | none => exact .none
  | some hv =>
    cases hv with
    | node hab => exact .some hab
    | list _ => exact .none
    | scalar _ _ => exact .none

theorem Alike.children (h : n.Alike r n') (name : String) :
    List.Forall₂ r (n.children name) (n'.children name) := by
  have hfield := h.field name
  unfold Node.children
  generalize n.field name = value, n'.field name = value' at hfield
  cases hfield with
  | none => exact .nil
  | some hv =>
    cases hv with
    | node _ => exact .nil
    | list hs => exact hs
    | scalar _ _ => exact .nil

theorem Alike.scalar_text (h : n.Alike r n') (name : String) :
    (n.scalar name).map Scalar.text = (n'.scalar name).map Scalar.text := by
  have hfield := h.field name
  unfold Node.scalar
  generalize n.field name = value, n'.field name = value' at hfield
  cases hfield with
  | none => rfl
  | some hv =>
    cases hv with
    | node _ => rfl
    | list _ => rfl
    | scalar ht _ => exact congrArg some ht

end

end Node

end SyntaxGraph
