import SyntaxGraph.Proofs.Tree.Builder
import SyntaxGraph.Tree.Document

namespace SyntaxGraph.Json

def heldBy (fields : List (String × FieldValue)) : List NodeId :=
  fields.flatMap fun f => f.2.held

theorem plants_throw {α : Type} {pre : List NodeId} {post : α → List NodeId} (e : MisshapenTree) :
    Plants pre (throw e : TreeBuilder α) post := by
  intro t roots ht a t' h
  cases h

theorem plants_members {path : List DocumentStep} {members : List (String × Value)}
    {fields : TreeBuilder (List (String × FieldValue))} (h : Plants [] fields heldBy) :
    Plants [] (addMembers path members fields) fun id => [id] := by
  unfold addMembers
  cases kind? members with
  | none => exact plants_throw _
  | some kind => exact h.bind fun fields => plants_add (fun _ => rfl) (.refl _)

mutual

theorem Value.plants_node (path : List DocumentStep) :
    ∀ v : Value, Plants [] (v.addNode path) fun id => [id]
  | .object members => by
    rw [Value.addNode]
    exact plants_members (plants_fieldsMember path members)
  | .null | .bool _ | .number _ | .string _ | .array _ => plants_throw _

theorem plants_fieldsMember (path : List DocumentStep) :
    ∀ members : List (String × Value), Plants [] (addFieldsMember path members) heldBy
  | [] => .pure rfl
  | (name, v) :: rest => by
    rw [addFieldsMember]
    split
    · exact v.plants_fields path
    · exact plants_fieldsMember path rest

theorem Value.plants_fields (path : List DocumentStep) :
    ∀ v : Value, Plants [] (v.addFields path) heldBy
  | .null => .pure rfl
  | .object fields => by
    rw [Value.addFields]
    exact plants_each path fields
  | .bool _ | .number _ | .string _ | .array _ => plants_throw _

theorem plants_each (path : List DocumentStep) :
    ∀ fields : List (String × Value), Plants [] (addEach path fields) heldBy
  | [] => .pure rfl
  | (name, v) :: rest => by
    rw [addEach]
    refine (v.plants_field (path ++ [.field name])).next fun value => ?_
    refine (plants_each path rest).next fun others => ?_
    exact .pure rfl

theorem Value.plants_field (path : List DocumentStep) :
    ∀ v : Value, Plants [] (v.addField path) FieldValue.held
  | .null | .bool _ | .number _ | .string _ => .pure rfl
  | .object members => by
    rw [Value.addField]
    exact (plants_members (plants_fieldsMember path members)).next fun child => .pure rfl
  | .array items => by
    rw [Value.addField]
    exact (plants_items path 0 items).next fun children => .pure rfl

theorem plants_items (path : List DocumentStep) (index : Nat) :
    ∀ items : List Value, Plants [] (addItems path index items) fun ids => ids
  | [] => .pure rfl
  | v :: rest => by
    rw [addItems]
    split
    · refine (v.plants_node (path ++ [.item index])).next fun child => ?_
      refine (plants_items path (index + 1) rest).next fun others => ?_
      exact .pure rfl
    · exact plants_items path (index + 1) rest

end

theorem sound_toTree {v : Value} {t : Tree} (h : v.toTree = .ok t) : t.Sound := by
  obtain ⟨⟨root, t'⟩, hroot, ht⟩ := Splits.bind_inv h
  cases Splits.pure_inj ht
  exact (v.plants_node []).sound hroot

end SyntaxGraph.Json

namespace SyntaxGraph

theorem Tree.sound_ofDocument {text : String} {t : Tree} (h : Tree.ofDocument text = .ok t) :
    t.Sound := by
  unfold Tree.ofDocument at h
  cases hr : Json.read text with
  | error e => simp [hr] at h
  | ok v =>
    simp only [hr] at h
    cases hv : v.toTree with
    | error e => simp [hv, Except.mapError] at h
    | ok t' =>
      rw [hv] at h
      cases h
      exact Json.sound_toTree hv

end SyntaxGraph
