import SyntaxGraph.Proofs.Drawing.OneWay
import SyntaxGraph.Proofs.Except
import SyntaxGraph.Proofs.Graph.Likeness

namespace SyntaxGraph

namespace View

def marks (v : View) (id : NodeId) : List Mark :=
  match v.drawing? id with
  | some (n, s) => s.plan v.tree n
  | none => []

theorem visit_eq (v : View) (id : NodeId) (g : Graph) : v.visit id g =
    match v.node id with
      | .error e => (.error e, g)
      | .ok _ => v.make id (v.marks id) g := by
  unfold visit marks drawing? node
  cases v.tree.node? id with
  | none => rfl
  | some n =>
    dsimp only [Option.bind_some]
    cases v.registry.resolve n.kind <;> rfl

theorem node_of_draws_eq {v v' : View} {a b : NodeId} (h : v.draws a = v'.draws b) :
    (∃ e, v.node a = .error e ∧ v'.node b = .error e) ∨ ∃ n n', v.node a = .ok n ∧ v'.node b = .ok n' := by
  unfold draws at h
  cases hn : v.node a with
  | error e =>
    cases hn' : v'.node b with
    | error e' => exact Or.inl ⟨e, rfl, by simpa [hn, hn', Except.map, eq_comm] using h⟩
    | ok n' => simp [hn, hn', Except.map] at h
  | ok n =>
    cases hn' : v'.node b with
    | error e' => simp [hn, hn', Except.map] at h
    | ok n' => exact Or.inr ⟨n, n', rfl, rfl⟩

end View

namespace Likeness

open Relator Relation

inductive Marks (l : Likeness) (v v' : View) (id : NodeId) : Mark → Mark → Prop
  | examine {a b} (hd : v.draws a = v'.draws b) : Marks l v v' id (.examine a) (.examine b)
  | link {a b label label'} (hd : v.draws a = v'.draws b) (hn : v.draws a = .ok true → l.node a b)
    (hl : l.label id label label') : Marks l v v' id (.link a label) (.link b label')
  | paint {style style'} (hs : l.style id style style') : Marks l v v' id (.paint style) (.paint style')

/-- Alike marks are made for nodes that correspond, and no node corresponds to two. -/
structure Views (l : Likeness) (v v' : View) : Prop where
  unique : BiUnique l.node
  draws : ∀ a b, l.node a b → v.draws a = v'.draws b
  marks : ∀ a b, l.node a b → List.Forall₂ (l.Marks v v' a) (v.marks a) (v'.marks b)

inductive Ends (l : Likeness) : Except DrawError (List NodeId) → Except DrawError (List NodeId) → Prop
  | error (e) : Ends l (.error e) (.error e)
  | ok {ids ids'} (h : List.Forall₂ l.node ids ids') : Ends l (.ok ids) (.ok ids')

section

variable {l : Likeness} {v v' : View} {a b root root' : NodeId} {g g' : Graph} {marks marks' : List Mark}

theorem Ends.map_cons {r r' : Except DrawError (List NodeId)} (h : l.Ends r r') (hab : l.node a b) :
    l.Ends (r.map (a :: ·)) (r'.map (b :: ·)) := by
  cases h with
  | error e => exact .error e
  | ok h => exact .ok (.cons hab h)

theorem ends_linked (hm : List.Forall₂ (l.Marks v v' a) marks marks') :
    l.Ends (v.linked marks) (v'.linked marks') := by
  induction hm with
  | nil => exact .ok .nil
  | cons hm _ ih =>
    cases hm with
    | paint hs => exact ih
    | examine hd =>
      unfold View.linked
      rcases View.node_of_draws_eq hd with ⟨e, hn, hn'⟩ | ⟨n, n', hn, hn'⟩
      · rw [hn, hn']
        exact .error e
      · rw [hn, hn']
        exact ih
    | @link c d label label' hd hn hl =>
      unfold View.linked
      rw [← hd]
      cases hc : v.draws c with
      | error e => exact .error e
      | ok drawn =>
        cases drawn with
        | false => exact ih
        | true => exact ih.map_cons (hn hc)

theorem Views.make (h : l.Views v v') (hab : l.node a b)
    (hm : List.Forall₂ (l.Marks v v' a) marks marks') (hg : l.Graphs g g') :
    l.Graphs (v.make a marks g).2 (v'.make b marks' g').2 := by
  induction hm generalizing g g' with
  | nil => exact hg
  | cons hm _ ih =>
    cases hm with
    | paint hs => exact ih (hg.paint h.unique hab hs)
    | examine hd =>
      unfold View.make
      rcases View.node_of_draws_eq hd with ⟨e, hn, hn'⟩ | ⟨n, n', hn, hn'⟩
      · rw [hn, hn']
        exact hg
      · rw [hn, hn']
        exact ih hg
    | @link c d label label' hd hn hl =>
      unfold View.make
      rw [← hd]
      cases hc : v.draws c with
      | error e => exact hg
      | ok drawn =>
        cases drawn with
        | false => exact ih hg
        | true => exact ih (hg.link h.unique hab (hn hc) hl)

theorem Views.visit (h : l.Views v v') (hab : l.node a b) (hg : l.Graphs g g') :
    l.Ends (v.visit a g).1 (v'.visit b g').1 ∧ l.Graphs (v.visit a g).2 (v'.visit b g').2 := by
  have hmarks := h.marks a b hab
  rw [View.visit_eq, View.visit_eq]
  rcases View.node_of_draws_eq (h.draws a b hab) with ⟨e, hn, hn'⟩ | ⟨n, n', hn, hn'⟩
  · rw [hn, hn']
    exact ⟨.error e, hg⟩
  · rw [hn, hn']
    refine ⟨?_, h.make hab hmarks hg⟩
    rw [View.make_fst, View.make_fst]
    exact ends_linked hmarks

theorem Views.walk (h : l.Views v v') (n : Nat) {ids ids' : List NodeId}
    (hids : List.Forall₂ l.node ids ids') (hg : l.Graphs g g') :
    (v.walk n ids g).1 = (v'.walk n ids' g').1 ∧ l.Graphs (v.walk n ids g).2 (v'.walk n ids' g').2 := by
  induction n generalizing ids ids' g g' with
  | zero => cases hids <;> exact ⟨rfl, hg⟩
  | succ n ih =>
    cases hids with
    | nil => exact ⟨rfl, hg⟩
    | @cons a b pending pending' hab hpending =>
      obtain ⟨hends, hgraphs⟩ := h.visit hab hg
      rw [View.walk_cons, View.walk_cons]
      cases hv : v.visit a g with
      | mk r g₁ =>
        cases hv' : v'.visit b g' with
        | mk r' g₁' =>
          rw [hv, hv'] at hends hgraphs
          cases hends with
          | error e => exact ⟨rfl, hgraphs⟩
          | ok hc => exact ih (List.rel_append hc hpending) hgraphs

theorem Views.children (h : l.Views v v') (hab : l.node a b) :
    List.Forall₂ l.node (v.children a) (v'.children b) := by
  have hends := (h.visit hab l.graphs_empty).1
  rw [View.visit_fst, View.visit_fst] at hends
  unfold View.children
  generalize v.references a = r, v'.references b = r' at hends
  cases hends with
  | error e => exact .nil
  | ok hc => exact hc

theorem Views.exists_leads (h : l.Views v v') (hab : l.node a b) {b' : NodeId} (hb : v'.Leads b b') :
    ∃ a', v.Leads a a' ∧ l.node a' b' :=
  exists_of_mem_right (h.children hab) hb

theorem Views.exists_reflTransGen (h : l.Views v v') (hab : l.node a b) {b' : NodeId}
    (hb : ReflTransGen v'.Leads b b') : ∃ a', ReflTransGen v.Leads a a' ∧ l.node a' b' := by
  induction hb with
  | refl => exact ⟨a, .refl, hab⟩
  | tail _ hlead ih =>
    obtain ⟨a', ha, hab'⟩ := ih
    obtain ⟨a'', ha', hab''⟩ := h.exists_leads hab' hlead
    exact ⟨a'', ha.tail ha', hab''⟩

theorem Views.acyclicBelow (h : l.Views v v') (hroot : l.node root root') (hv : v.AcyclicBelow root) :
    v'.AcyclicBelow root' := by
  -- A loop on one side is a way back to the same node on the other, as nothing corresponds to two nodes.
  intro b hb hloop
  obtain ⟨a, ha, hab⟩ := h.exists_reflTransGen hroot hb
  obtain ⟨b', hlead, hback⟩ := TransGen.head'_iff.mp hloop
  obtain ⟨a', ha', hab'⟩ := h.exists_leads hab hlead
  obtain ⟨a'', ha'', hab''⟩ := h.exists_reflTransGen hab' hback
  obtain rfl : a = a'' := h.unique.left hab hab''
  exact hv a ha (.head' ha' ha'')

theorem Views.draw (h : l.Views v v') (hroot : l.node root root') (hv : v.AcyclicBelow root)
    (hg : l.Graphs g g') :
    (v.draw root g).1 = (v'.draw root' g').1 ∧ l.Graphs (v.draw root g).2 (v'.draw root' g').2 := by
  obtain ⟨_, _, visited, hd⟩ := View.draw_of_extent hv.extent_ends g
  obtain ⟨_, _, visited', hd'⟩ := View.draw_of_extent (h.acyclicBelow hroot hv).extent_ends g'
  have hwalk := h.walk (max visited.length visited'.length) (.cons hroot .nil) hg
  rwa [hd.walk_eq (Nat.le_max_left _ _), hd'.walk_eq (Nat.le_max_right _ _)] at hwalk

def along (l : Likeness) (v v' : View) (root root' : NodeId) : Likeness :=
  { l with node := fun a b => l.node a b ∧ ∃ way, v.follow root way = some a ∧ v'.follow root' way = some b }

theorem marks_of_children (hm : List.Forall₂ (l.Marks v v' a) marks marks')
    {r : NodeId → NodeId → Prop} {children children' : List NodeId} (hc : v.linked marks = .ok children)
    (hc' : v'.linked marks' = .ok children') (hr : List.Forall₂ r children children') :
    List.Forall₂ ({ l with node := r : Likeness }.Marks v v' a) marks marks' := by
  induction hm generalizing children children' with
  | nil => exact .nil
  | cons hm _ ih =>
    cases hm with
    | paint hs => exact .cons (.paint hs) (ih hc hc' hr)
    | examine hd =>
      refine .cons (.examine hd) ?_
      unfold View.linked at hc hc'
      rcases View.node_of_draws_eq hd with ⟨e, hn, hn'⟩ | ⟨n, n', hn, hn'⟩
      · rw [hn] at hc
        cases hc
      · rw [hn] at hc
        rw [hn'] at hc'
        exact ih hc hc' hr
    | @link c d label label' hd hn hl =>
      unfold View.linked at hc hc'
      rw [← hd] at hc'
      cases hdraws : v.draws c with
      | error e =>
        rw [hdraws] at hc
        cases hc
      | ok drawn =>
        rw [hdraws] at hc hc'
        cases drawn with
        | false => exact .cons (.link hd (fun h => by simp [hdraws] at h) hl) (ih hc hc' hr)
        | true =>
          -- only a link that is followed takes a pair of children
          obtain ⟨rest, hrest, rfl⟩ := Except.map_eq_ok_iff.mp hc
          obtain ⟨rest', hrest', rfl⟩ := Except.map_eq_ok_iff.mp hc'
          cases hr with
          | cons hcd hr => exact .cons (.link hd (fun _ => hcd) hl) (ih hrest hrest' hr)

theorem linked_marks (ht : v.tree.HeldBefore) (id : NodeId) :
    v.linked (v.marks id) = .ok (v.children id) := by
  unfold View.marks View.children
  cases hd : v.drawing? id with
  | none =>
    rw [View.references_of_undrawn hd]
    cases v.isMissing id <;> rfl
  | some d =>
    obtain ⟨n, s⟩ := d
    obtain ⟨children, hr⟩ := View.references_isOk_of_heldBefore ht (View.drawing?_eq_some_iff.mp hd).1
    rw [hr, ← hr, View.references_of_drawing hd]

theorem views_along (ht : v.tree.Sound) (ht' : v'.tree.Sound) (root root' : NodeId)
    (hd : ∀ a b, l.node a b → v.draws a = v'.draws b)
    (hm : ∀ a b, l.node a b → List.Forall₂ (l.Marks v v' a) (v.marks a) (v'.marks b)) :
    (l.along v v' root root').Views v v' where
  unique := by
    constructor
    · rintro a b c ⟨_, way, ha, hc⟩ ⟨_, way', hb, hc'⟩
      obtain rfl := View.way_unique ht' hc hc'
      exact Option.some.inj (ha.symm.trans hb)
    · rintro a b c ⟨_, way, ha, hb⟩ ⟨_, way', ha', hc⟩
      obtain rfl := View.way_unique ht ha ha'
      exact Option.some.inj (hb.symm.trans hc)
  draws a b hab := hd a b hab.1
  marks a b hab := by
    obtain ⟨hab, way, ha, hb⟩ := hab
    have hmarks := hm a b hab
    have hlinked := linked_marks ht.heldBefore a
    have hlinked' := linked_marks ht'.heldBefore b
    have hends := ends_linked hmarks
    rw [hlinked, hlinked'] at hends
    cases hends with
    | ok hchildren =>
      refine marks_of_children hmarks hlinked hlinked' ?_
      refine forall₂_of_getElem? hchildren fun k c d hc hd hcd => ⟨hcd, way ++ [k], ?_, ?_⟩
      · rw [View.follow_concat, ha]
        exact hc
      · rw [View.follow_concat, hb]
        exact hd

end

end Likeness

end SyntaxGraph
