import SyntaxGraph.Proofs.Drawing.Likeness
import SyntaxGraph.Proofs.Tree.Alike

namespace SyntaxGraph

namespace Strategy

inductive Akin : Strategy → Strategy → Prop
  | general {color color'} : Akin (.general color) (.general color')
  | binary {symbols color symbols' color'} : Akin (.binary symbols color) (.binary symbols' color')
  | call {color color'} : Akin (.call color) (.call color')
  | name {color color'} : Akin (.name color) (.name color')
  | constant {color color'} : Akin (.constant color) (.constant color')
  | comparison {symbols color symbols' color'} :
    Akin (.comparison symbols color) (.comparison symbols' color')

def operandLabel (t : Tree) (op : NodeId) : Strategy → Option String
  | comparison symbols _ => some (symbol symbols "cmp" (kindOf t op))
  | _ => none

section

variable {r : NodeId → NodeId → Prop} {n n' : Node} {s s' : Strategy} {t t' : Tree}

theorem Akin.refl (s : Strategy) : s.Akin s := by
  cases s <;> constructor

theorem Akin.title_eq (h : s.Akin s') : s.title = s'.title := by
  cases h <;> rfl

theorem description_eq (h : n.Alike r n') : description n = description n' := by
  have hfields := h.fields
  unfold description
  generalize n.fields = fields, n'.fields = fields' at hfields
  induction hfields with
  | nil => rfl
  | @cons f f' fields fields' hf _ ih =>
    obtain ⟨name, value⟩ := f
    obtain ⟨name', value'⟩ := f'
    obtain ⟨rfl, hvalue⟩ := hf
    rw [List.findSome?_cons, List.findSome?_cons, ih]
    cases hvalue with
    | node _ => rfl
    | list _ => rfl
    | scalar ht hd => simp only [ht, hd]

theorem style_eq (h : n.Alike r n') (hkind : ∀ a b, r a b → kindOf t a = kindOf t' b) (s : Strategy) :
    s.style t n = s.style t' n' := by
  cases s with
  | general color => simp only [style, generalLabel, description_eq h, h.kind]
  | binary symbols color =>
    have hop := h.child "op"
    unfold style
    generalize n.child "op" = op, n'.child "op" = op' at hop
    cases hop with
    | none => rfl
    | some hab => simp only [hkind _ _ hab]
  | call color => simp only [style, (h.children "args").length_eq]
  | name color => simp only [style, h.scalar_text]
  | constant color => simp only [style, h.scalar_text]
  | comparison symbols color => rfl

end

section

variable {l : Likeness} {v v' : View} {id : NodeId} {n n' : Node} {s s' : Strategy} {t t' : Tree}
  {label label' : Option String}

theorem linkChild_rel (hd : ∀ a b, l.node a b → v.draws a = v'.draws b) (hl : l.label id label label')
    (h : n.Alike l.node n') (field : String) :
    List.Forall₂ (l.Marks v v' id) (linkChild n field label) (linkChild n' field label') := by
  have hchild := h.child field
  unfold linkChild
  generalize n.child field = child, n'.child field = child' at hchild
  cases hchild with
  | none => exact .nil
  | some hab => exact .cons (.link (hd _ _ hab) (fun _ => hab) hl) .nil

theorem linkField_rel (hd : ∀ a b, l.node a b → v.draws a = v'.draws b)
    (hl : ∀ label, l.label id label label) {value value' : FieldValue} (h : value.Alike l.node value')
    (field : String) : List.Forall₂ (l.Marks v v' id) (linkField field value) (linkField field value') := by
  cases h with
  | node hab => exact .cons (.link (hd _ _ hab) (fun _ => hab) (hl _)) .nil
  | scalar _ _ => exact .nil
  | list hs =>
    refine List.rel_map (fun p p' hp => ?_) (forall₂_zipIdx hs 0)
    obtain ⟨a, i⟩ := p
    obtain ⟨b, i'⟩ := p'
    obtain ⟨hab, rfl⟩ := hp
    exact .link (hd _ _ hab) (fun _ => hab) (hl _)

theorem Akin.plan (h : s.Akin s') (hn : n.Alike l.node n')
    (hd : ∀ a b, l.node a b → v.draws a = v'.draws b) (hl : ∀ label, l.label id label label)
    (ho : ∀ a b, l.node a b → l.label id (s.operandLabel t a) (s'.operandLabel t' b))
    (hs : l.style id (s.style t n) (s'.style t' n')) :
    List.Forall₂ (l.Marks v v' id) (s.plan t n) (s'.plan t' n') := by
  have hpaint : List.Forall₂ (l.Marks v v' id) [.paint (s.style t n)] [.paint (s'.style t' n')] :=
    .cons (.paint hs) .nil
  cases h with
  | general =>
    refine List.rel_append (List.rel_flatMap hn.fields fun f f' hf => ?_) hpaint
    obtain ⟨name, value⟩ := f
    obtain ⟨name', value'⟩ := f'
    obtain ⟨rfl, hvalue⟩ := hf
    exact linkField_rel hd hl hvalue name
  | binary =>
    have hop : List.Forall₂ (l.Marks v v' id) ((n.child "op").toList.map .examine)
        ((n'.child "op").toList.map .examine) := by
      have hchild := hn.child "op"
      generalize n.child "op" = op, n'.child "op" = op' at hchild
      cases hchild with
      | none => exact .nil
      | some hab => exact .cons (.examine (hd _ _ hab)) .nil
    refine List.rel_append (List.rel_append (List.rel_append hop hpaint) ?_) ?_
    · exact linkChild_rel hd (hl _) hn "left"
    · exact linkChild_rel hd (hl _) hn "right"
  | call =>
    refine List.rel_append (List.rel_append (linkChild_rel hd (hl _) hn "func") ?_) hpaint
    refine List.rel_map (fun p p' hp => ?_) (forall₂_zipIdx (hn.children "args") 0)
    obtain ⟨a, i⟩ := p
    obtain ⟨b, i'⟩ := p'
    obtain ⟨hab, rfl⟩ := hp
    exact .link (hd _ _ hab) (fun _ => hab) (hl _)
  | name => exact hpaint
  | constant => exact hpaint
  | comparison =>
    refine List.rel_append (List.rel_append hpaint (linkChild_rel hd (hl _) hn "left")) ?_
    refine List.rel_flatMap (forall₂_zip (hn.children "ops") (hn.children "comparators")) fun p p' hp => ?_
    obtain ⟨op, right⟩ := p
    obtain ⟨op', right'⟩ := p'
    obtain ⟨hop, hright⟩ := hp
    exact .cons (.examine (hd _ _ hop)) (.cons (.link (hd _ _ hright) (fun _ => hright) (ho _ _ hop)) .nil)

end

end Strategy

end SyntaxGraph
