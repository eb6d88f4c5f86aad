import SyntaxGraph.Proofs.Drawing.Alike
import SyntaxGraph.Proofs.Drawing.Stock

/-!
Symbols and colors decide how a drawing looks and not what is drawn. Under the same kinds two settings draw
the same nodes and edges, and only where operators are shown do the labels depend on them.
-/

namespace SyntaxGraph

namespace Registry

theorem resolve_insertAll_rel {σ : Type} {r : σ → σ → Prop} {pairs pairs' : List (Kind × σ)}
    (hp : List.Forall₂ (fun p p' => p.1 = p'.1 ∧ r p.2 p'.2) pairs pairs') (h : Hierarchy) (kind : Kind) :
    Option.Rel r ((insertAll (builder h) pairs).resolve kind)
      ((insertAll (builder h) pairs').resolve kind) := by
  have hkinds : pairs.map Prod.fst = pairs'.map Prod.fst :=
    map_eq_of_forall₂ (hp.imp fun _ _ hk => hk.1)
  have hown (kind : Kind) := lookup_rel (List.forall₂_reverse_iff.mpr hp) kind
  have hkind := hown kind
  rw [resolve_insertAll, resolve_insertAll, hkinds]
  generalize pairs.reverse.lookup kind = s, pairs'.reverse.lookup kind = s' at hkind
  cases hkind with
  | some hs => exact .some hs
  | none =>
    cases (pairs'.map Prod.fst).find? (h.isSubkind kind) with
    | none => exact .none
    | some a => exact hown a

theorem resolve_standard_akin (s s' : Settings) (h : Hierarchy) (kind : Kind) :
    Option.Rel Strategy.Akin ((standard s h).resolve kind) ((standard s' h).resolve kind) := by
  rw [standard_eq, standard_eq]
  apply resolve_insertAll_rel
  exact .cons ⟨rfl, .general⟩ <| .cons ⟨rfl, .general⟩ <| .cons ⟨rfl, .general⟩ <| .cons ⟨rfl, .binary⟩ <|
    .cons ⟨rfl, .call⟩ <| .cons ⟨rfl, .name⟩ <| .cons ⟨rfl, .constant⟩ <| .cons ⟨rfl, .comparison⟩ .nil

end Registry

namespace View

open Relator

def title? (v : View) (id : NodeId) : Option String :=
  (v.drawing? id).map fun d => d.2.title

structure Akin (v v' : View) : Prop where
  tree : v'.tree = v.tree
  resolve : ∀ kind, Option.Rel Strategy.Akin (v.registry.resolve kind) (v'.registry.resolve kind)

/-- The nodes are the same. Their labels may differ where operations are drawn, the labels of the edges from
them where comparisons are. -/
def presentation (v : View) : Likeness where
  node := Eq
  style id style style' := v.title? id = some "binop" ∨ style.label = style'.label
  label id label label' := v.title? id = some "compare" ∨ label = label'

section

variable {v v' : View} {root : NodeId}

theorem Akin.drawing? (h : v.Akin v') (id : NodeId) :
    Option.Rel (fun d d' => d.1 = d'.1 ∧ d.2.Akin d'.2) (v.drawing? id) (v'.drawing? id) := by
  unfold View.drawing?
  rw [h.tree]
  cases v.tree.node? id with
  | none => exact .none
  | some n =>
    have hresolve := h.resolve n.kind
    simp only [Option.bind_some]
    generalize v.registry.resolve n.kind = x, v'.registry.resolve n.kind = y at hresolve
    cases hresolve with
    | none => exact .none
    | some hs => exact .some ⟨rfl, hs⟩

theorem Akin.title? (h : v.Akin v') (id : NodeId) : v.title? id = v'.title? id := by
  have hdrawing := h.drawing? id
  unfold View.title?
  generalize v.drawing? id = d, v'.drawing? id = d' at hdrawing
  cases hdrawing with
  | none => rfl
  | some hd => exact congrArg some hd.2.title_eq

theorem Akin.draws (h : v.Akin v') (id : NodeId) : v.draws id = v'.draws id := by
  unfold View.draws node
  rw [h.tree]
  cases v.tree.node? id with
  | none => rfl
  | some n =>
    have hresolve := h.resolve n.kind
    have hdraws : v.registry.draws n.kind = v'.registry.draws n.kind := by
      unfold Registry.draws
      generalize v.registry.resolve n.kind = x, v'.registry.resolve n.kind = y at hresolve
      cases hresolve <;> rfl
    exact congrArg Except.ok hdraws

theorem Akin.marks (h : v.Akin v') (id : NodeId) :
    List.Forall₂ (v.presentation.Marks v v' id) (v.marks id) (v'.marks id) := by
  have hdrawing := h.drawing? id
  have htitle : v.title? id = (v.drawing? id).map fun d => d.2.title := rfl
  unfold View.marks
  generalize v.drawing? id = d, v'.drawing? id = d' at hdrawing htitle
  cases hdrawing with
  | none => exact .nil
  | @some d d' hd =>
    obtain ⟨n, s⟩ := d
    obtain ⟨n', s'⟩ := d'
    obtain ⟨rfl, hs⟩ := hd
    rw [h.tree]
    refine hs.plan (Node.Alike.refl n) (fun a b hab => ?_) (fun _ => Or.inr rfl) (fun a b hab => ?_) ?_
    · obtain rfl : a = b := hab
      exact h.draws a
    · obtain rfl : a = b := hab
      cases hs with
      | comparison => exact Or.inl htitle
      | general | binary | call | name | constant => exact Or.inr rfl
    · cases hs with
      | binary => exact Or.inl htitle
      | general | call | name | constant | comparison => exact Or.inr rfl

theorem Akin.views (h : v.Akin v') : v.presentation.Views v v' where
  unique := ⟨fun _ _ _ hac hbc => hac.trans hbc.symm, fun _ _ _ hab hac => hab.symm.trans hac⟩
  draws a b hab := by
    obtain rfl : a = b := hab
    exact h.draws a
  marks a b hab := by
    obtain rfl : a = b := hab
    exact h.marks a

end

/-- What drawings of one tree have in common if they differ in presentation only. Beside what is listed here
a graph has nothing but the colors of its nodes. -/
structure SameButPresentation (v v' : View) (root : NodeId) : Prop where
  title : ∀ id, v.title? id = v'.title? id
  result : (v.draw root .empty).1 = (v'.draw root .empty).1
  number : ∀ id, (v.draw root .empty).2.number? id = (v'.draw root .empty).2.number? id
  ends : (v.draw root .empty).2.edges.toList.map (fun e => (e.tail, e.head)) =
    (v'.draw root .empty).2.edges.toList.map fun e => (e.tail, e.head)
  styled : ∀ id, ((v.draw root .empty).2.styleOf id).isSome = ((v'.draw root .empty).2.styleOf id).isSome
  label : ∀ id, v.title? id ≠ some "binop" →
    ((v.draw root .empty).2.styleOf id).map Style.label = ((v'.draw root .empty).2.styleOf id).map Style.label
  edgeLabel : ∀ (k : Nat) (e e' : Edge) (id : NodeId), (v.draw root .empty).2.edges[k]? = some e →
    (v'.draw root .empty).2.edges[k]? = some e' → (v.draw root .empty).2.source? e.tail = some id →
    v.title? id ≠ some "compare" → e.label = e'.label

theorem Akin.sameButPresentation {v v' : View} {root : NodeId} (h : v.Akin v')
    (hbelow : v.AcyclicBelow root) : v.SameButPresentation v' root := by
  have hu := h.views.unique
  have hroot : v.presentation.node root root := rfl
  obtain ⟨hresult, hgraphs⟩ := h.views.draw hroot hbelow (Likeness.graphs_empty _)
  have hstyle (id : NodeId) := hgraphs.styleOf hu (rfl : v.presentation.node id id)
  constructor
  case title => exact h.title?
  case result => exact hresult
  case number => exact fun id => hgraphs.number? hu rfl
  case ends => exact map_eq_of_forall₂ (hgraphs.edges.imp fun _ _ he => Prod.ext he.1 he.2.1)
  case styled =>
    intro id
    have hstyle := hstyle id
    generalize (v.draw root .empty).2.styleOf id = x, (v'.draw root .empty).2.styleOf id = y at hstyle
    cases hstyle <;> rfl
  case label =>
    intro id hid
    have hstyle := hstyle id
    generalize (v.draw root .empty).2.styleOf id = x, (v'.draw root .empty).2.styleOf id = y at hstyle
    cases hstyle with
    | none => rfl
    | some hs => exact congrArg some (hs.resolve_left hid)
  case edgeLabel =>
    intro k e e' id he he' hid htitle
    have hedge := getElem?_rel hgraphs.edges k
    rw [Array.getElem?_toList, Array.getElem?_toList, he, he'] at hedge
    cases hedge with
    | some hedge =>
      obtain ⟨_, _, id', hid', hl⟩ := hedge
      cases hid'.symm.trans hid
      exact hl.resolve_left htitle

theorem draw_presentation {s s' : Settings} {h : Hierarchy} (hs : s.kinds = .ok h)
    (hsame : s'.hierarchy = s.hierarchy) {t : Tree} {root : NodeId}
    (hbelow : View.AcyclicBelow ⟨t, .standard s h⟩ root) :
    s'.kinds = .ok h ∧ SameButPresentation ⟨t, .standard s h⟩ ⟨t, .standard s' h⟩ root := by
  refine ⟨by rw [← hs, Settings.kinds, Settings.kinds, hsame], ?_⟩
  have hakin : View.Akin ⟨t, .standard s h⟩ ⟨t, .standard s' h⟩ :=
    ⟨rfl, Registry.resolve_standard_akin s s' h⟩
  exact hakin.sameButPresentation hbelow

end View

def comparedSum : Tree where
  nodes := #[
    ⟨"Name", [("id", .scalar (.str "x"))]⟩,
    ⟨"Add", []⟩,
    ⟨"Constant", [("value", .scalar (.int 1))]⟩,
    ⟨"BinOp", [("left", .node ⟨0⟩), ("op", .node ⟨1⟩), ("right", .node ⟨2⟩)]⟩,
    ⟨"Lt", []⟩,
    ⟨"Name", [("id", .scalar (.str "y"))]⟩,
    ⟨"Compare", [("left", .node ⟨3⟩), ("ops", .list [⟨4⟩]), ("comparators", .list [⟨5⟩])]⟩]
  root := some ⟨6⟩

def wordySettings : Settings where
  binarySymbols := [("Add", "plus")]
  comparisonSymbols := []
  palette := { name := "red", comparison := "blue" }

theorem draw_presentation_comparedSum :
    let v : View := ⟨comparedSum, .standard {} .standard⟩
    let v' : View := ⟨comparedSum, .standard wordySettings .standard⟩
    Settings.kinds {} = .ok .standard ∧ wordySettings.hierarchy = Settings.hierarchy {} ∧
      v.AcyclicBelow ⟨6⟩ ∧ v.SameButPresentation v' ⟨6⟩ ∧
      (v.draw ⟨6⟩ .empty).2.edges =
        #[⟨0, 1, none⟩, ⟨0, 2, some "<"⟩, ⟨1, 3, some "left"⟩, ⟨1, 4, some "right"⟩] ∧
      (v'.draw ⟨6⟩ .empty).2.edges =
        #[⟨0, 1, none⟩, ⟨0, 2, some "cmp: Lt"⟩, ⟨1, 3, some "left"⟩, ⟨1, 4, some "right"⟩] ∧
      (v.draw ⟨6⟩ .empty).2.styleOf ⟨3⟩ = some ⟨some "#abedd3", some "+"⟩ ∧
      (v'.draw ⟨6⟩ .empty).2.styleOf ⟨3⟩ = some ⟨some "#abedd3", some "plus"⟩ := by
  intro v v'
  have hs : Settings.kinds {} = .ok .standard := rfl
  have hbefore : comparedSum.HeldBefore := by decide +kernel
  have hbelow : v.AcyclicBelow ⟨6⟩ := View.acyclicBelow_of_heldBefore hbefore ⟨6⟩
  have hhierarchy : wordySettings.hierarchy = Settings.hierarchy {} := rfl
  obtain ⟨_, hsame⟩ := View.draw_presentation hs hhierarchy hbelow
  refine ⟨hs, hhierarchy, hbelow, hsame, ?_, ?_, ?_, ?_⟩ <;> decide +kernel

end SyntaxGraph
