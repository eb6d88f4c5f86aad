import SyntaxGraph.Drawing.Visit
import SyntaxGraph.Proofs.Drawing.References
import SyntaxGraph.Proofs.Graph.Changes
import Mathlib.Data.List.TakeWhile

namespace SyntaxGraph.View

def isDrawn (v : View) (id : NodeId) : Bool :=
  match v.tree.node? id with
  | some n => v.registry.draws n.kind
  | none => false

def isMissing (v : View) (id : NodeId) : Bool :=
  (v.tree.node? id).isNone

def change? (v : View) (id : NodeId) : Mark → Option Change
  | .paint style => some (.paint id style)
  | .examine _ => none
  | .link child label => if v.isDrawn child then some (.attach child (some (id, label))) else none

def changes (v : View) (id : NodeId) (marks : List Mark) : List Change :=
  (marks.takeWhile fun m => !m.target?.any v.isMissing).filterMap (v.change? id)

theorem lt_size_of_isDrawn {v : View} {id : NodeId} (h : v.isDrawn id = true) :
    id.index < v.tree.size := by
  unfold isDrawn Tree.node? at h
  cases hn : v.tree.nodes[id.index]? with
  | none => simp [hn] at h
  | some n => exact (Array.getElem?_eq_some_iff.mp hn).1

theorem draws_of_missing {v : View} {id : NodeId} (h : v.isMissing id = true) :
    v.draws id = .error (.danglingNode id) := by
  have hn : v.tree.node? id = none := by simpa [isMissing] using h
  simp [draws, node, hn, Except.map]

theorem draws_of_present {v : View} {id : NodeId} (h : v.isMissing id = false) :
    v.draws id = .ok (v.isDrawn id) := by
  have hn : (v.tree.node? id).isSome := by simpa [isMissing] using h
  obtain ⟨n, hn⟩ := Option.isSome_iff_exists.mp hn
  simp [draws, node, isDrawn, hn, Except.map]

theorem node_of_missing {v : View} {id : NodeId} (h : v.isMissing id = true) :
    v.node id = .error (.danglingNode id) := by
  have hn : v.tree.node? id = none := by simpa [isMissing] using h
  simp [node, hn]

theorem node_of_present {v : View} {id : NodeId} (h : v.isMissing id = false) :
    ∃ n, v.node id = .ok n := by
  have hn : (v.tree.node? id).isSome := by simpa [isMissing] using h
  obtain ⟨n, hn⟩ := Option.isSome_iff_exists.mp hn
  exact ⟨n, by simp [node, hn]⟩

theorem changes_cons (v : View) (id : NodeId) (m : Mark) (rest : List Mark) :
    v.changes id (m :: rest) =
      if m.target?.any v.isMissing then [] else (v.change? id m).toList ++ v.changes id rest := by
  unfold changes
  rw [List.takeWhile_cons]
  cases m.target?.any v.isMissing
  · cases hc : v.change? id m <;> simp [hc]
  · rfl

theorem make_snd (v : View) (id : NodeId) (marks : List Mark) (g : Graph) :
    (v.make id marks g).2 = g.applyAll (v.changes id marks) := by
  induction marks generalizing g with
  | nil => rfl
  | cons m rest ih =>
    rw [changes_cons]
    cases m with
    | paint style => exact ih _
    | examine child =>
      cases hm : v.isMissing child with
      | true => simp [make, node_of_missing hm, Mark.target?, hm, Graph.applyAll]
      | false =>
        obtain ⟨n, hn⟩ := node_of_present hm
        simpa [make, hn, Mark.target?, hm, change?] using ih g
    | link child label =>
      cases hm : v.isMissing child with
      | true => simp [make, draws_of_missing hm, Mark.target?, hm, Graph.applyAll]
      | false =>
        cases hd : v.isDrawn child with
        | false => simpa [make, draws_of_present hm, Mark.target?, hm, hd, change?] using ih g
        | true =>
          simp only [make, draws_of_present hm, Mark.target?, Option.any_some, hm, change?, hd]
          exact ih (g.link id child label)

theorem linked_eq (v : View) (marks : List Mark) :
    v.linked marks = match (marks.filterMap Mark.target?).find? v.isMissing with
      | some id => .error (.danglingNode id)
      | none =>
        .ok (((marks.filterMap Mark.reference?).filter fun r => v.isDrawn r.1).map Prod.fst) := by
  induction marks with
  | nil => rfl
  | cons m rest ih =>
    cases m with
    | paint style => exact ih
    | examine child =>
      cases hm : v.isMissing child with
      | true => simp [linked, node_of_missing hm, Mark.target?, hm]
      | false =>
        obtain ⟨n, hn⟩ := node_of_present hm
        simpa only [linked, hn, List.filterMap_cons, Mark.target?, Mark.reference?, List.find?_cons,
          hm] using ih
    | link child label =>
      cases hm : v.isMissing child with
      | true => simp [linked, draws_of_missing hm, Mark.target?, hm]
      | false =>
        simp only [linked, draws_of_present hm, List.filterMap_cons, Mark.target?, Mark.reference?,
          List.find?_cons, hm, List.filter_cons]
        cases hd : v.isDrawn child with
        | false => exact ih
        | true =>
          rw [ih]
          cases (rest.filterMap Mark.target?).find? v.isMissing <;> rfl

theorem filterMap_line?_change? (v : View) (id : NodeId) (marks : List Mark) :
    (marks.filterMap (v.change? id)).filterMap Change.line? =
      ((marks.filterMap Mark.reference?).filter fun r => v.isDrawn r.1).map
        fun r => (some id, some r.1, r.2) := by
  induction marks with
  | nil => rfl
  | cons m rest ih =>
    cases m with
    | paint style => exact ih
    | examine child => exact ih
    | link child label => cases hd : v.isDrawn child <;> simpa [change?, Change.line?, Mark.reference?, hd] using ih

theorem changes_of_linked_ok {v : View} {id : NodeId} {marks : List Mark} {children : List NodeId}
    (h : v.linked marks = .ok children) :
    v.changes id marks = marks.filterMap (v.change? id) := by
  rw [linked_eq] at h
  split at h
  · cases h
  · next hm =>
    rw [List.find?_eq_none] at hm
    unfold changes
    congr 1
    apply List.takeWhile_eq_self_iff.mpr
    intro m hmem
    cases ht : m.target? with
    | none => rfl
    | some c => simpa using hm c (List.mem_filterMap.mpr ⟨m, hmem, ht⟩)

theorem head?_mentioned_of_change? {v : View} {id : NodeId} {m : Mark} {c : Change}
    (h : v.change? id m = some c) :
    c.mentioned.head? = some id := by
  cases m with
  | paint style =>
    cases h
    rfl
  | examine child => cases h
  | link child label =>
    simp only [change?] at h
    split at h
    · cases h
      rfl
    · cases h

theorem style_of_change? {v : View} {id x : NodeId} {n : Node} {s : Strategy} {m : Mark} {c : Change}
    {style : Style} (hm : m ∈ s.plan v.tree n) (hc : v.change? id m = some c) (h : c.style? x = some style) :
    x = id ∧ style = s.style v.tree n := by
  cases m with
  | paint style' =>
    cases hc
    simp only [Change.style?] at h
    split at h
    · next he =>
      cases h
      exact ⟨he.symm, Strategy.eq_style_of_paint_mem hm⟩
    · cases h
  | examine child => cases hc
  | link child label =>
    simp only [change?] at hc
    split at hc
    · cases hc
      cases h
    · cases hc

end SyntaxGraph.View
