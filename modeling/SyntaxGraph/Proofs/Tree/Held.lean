import SyntaxGraph.Tree.Basic
import Mathlib.Data.List.Basic

namespace SyntaxGraph

def FieldValue.held : FieldValue → List NodeId
  | .node child => [child]
  | .list children => children
  | .scalar _ => []

def Node.held (n : Node) : List NodeId :=
  n.fields.flatMap fun f => f.2.held

namespace Tree

def Holds (t : Tree) (a b : NodeId) : Prop :=
  ∃ n, t.node? a = some n ∧ b ∈ n.held

def HeldBefore (t : Tree) : Prop :=
  ∀ i, ∀ h : i < t.nodes.size, ∀ id ∈ t.nodes[i].held, id.index < i

instance (t : Tree) : Decidable t.HeldBefore :=
  inferInstanceAs (Decidable (∀ i, ∀ h : i < t.nodes.size, ∀ id ∈ t.nodes[i].held, id.index < i))

def Within (t t' : Tree) : Prop :=
  ∀ id n, t.node? id = some n → t'.node? id = some n

theorem within_refl (t : Tree) : t.Within t :=
  fun _ _ hn => hn

theorem Within.trans {t t' t'' : Tree} (h : t.Within t') (h' : t'.Within t'') : t.Within t'' :=
  fun id n hn => h' id n (h id n hn)

theorem within_add (t : Tree) (n : Node) : t.Within (t.add n) := by
  intro id m hm
  have hne : id ≠ t.next := by
    rintro rfl
    obtain ⟨hlt, _⟩ := Array.getElem?_eq_some_iff.mp hm
    exact Nat.lt_irrefl _ hlt
  rw [node?_add, if_neg hne, hm]

theorem within_withRoot (t : Tree) (root : NodeId) : t.Within (t.withRoot root) :=
  fun _ _ hn => hn

end Tree

namespace Node

theorem held_of_field {n : Node} {name : String} {value : FieldValue} (h : n.field name = some value)
    {id : NodeId} (hid : id ∈ value.held) : id ∈ n.held := by
  obtain ⟨before, after, hf, _⟩ := List.lookup_eq_some_iff.mp h
  exact List.mem_flatMap.mpr ⟨(name, value), by simp [hf], hid⟩

theorem child_held {n : Node} {name : String} {id : NodeId} (h : n.child name = some id) :
    id ∈ n.held := by
  unfold child at h
  split at h
  · next hf =>
    cases h
    exact held_of_field hf (List.mem_singleton_self id)
  · cases h

theorem children_held {n : Node} {name : String} {id : NodeId} (h : id ∈ n.children name) :
    id ∈ n.held := by
  unfold children at h
  split at h
  · next hf => exact held_of_field hf h
  · cases h

end Node

end SyntaxGraph
