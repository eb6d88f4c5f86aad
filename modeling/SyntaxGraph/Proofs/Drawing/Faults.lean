import SyntaxGraph.Proofs.Drawing.Drawn
import SyntaxGraph.Proofs.Graph.Extension

namespace SyntaxGraph

namespace Strategy

/-- The nodes that a strategy looks up, in order, drawn or not. -/
def examined (n : Node) : Strategy → List NodeId
  | general _ => n.held
  | binary _ _ => (n.child "op").toList ++ (n.child "left").toList ++ (n.child "right").toList
  | call _ => (n.child "func").toList ++ n.children "args"
  | name _ => []
  | constant _ => []
  | comparison _ _ =>
    (n.child "left").toList
      ++ ((n.children "ops").zip (n.children "comparators")).flatMap fun (op, right) => [op, right]

theorem targets_linkChild (n : Node) (field : String) (label : Option String) :
    (linkChild n field label).filterMap Mark.target? = (n.child field).toList := by
  unfold linkChild
  cases n.child field <;> rfl

theorem targets_linkField (field : String) (value : FieldValue) :
    (linkField field value).filterMap Mark.target? = value.held := by
  cases value with
  | scalar v => rfl
  | node child => rfl
  | list children =>
    simp only [linkField, FieldValue.held, List.filterMap_map]
    exact (congrFun List.filterMap_eq_map _).trans (List.zipIdx_map_fst 0 children)

theorem targets_plan (t : Tree) (n : Node) (s : Strategy) :
    (s.plan t n).filterMap Mark.target? = s.examined n := by
  cases s with
  | general color =>
    simp only [plan, generalPlan, examined, Node.held, List.filterMap_append, List.filterMap_flatMap,
      targets_linkField]
    simp [Mark.target?, List.filterMap_cons]
  | binary symbols color =>
    simp only [plan, binaryPlan, examined, List.filterMap_append, targets_linkChild]
    cases n.child "op" <;> simp [Mark.target?, List.filterMap_cons]
  | call color =>
    have hargs := List.zipIdx_map_fst 0 (n.children "args")
    simp only [plan, callPlan, examined, List.filterMap_append, targets_linkChild, List.filterMap_map]
    simp [Mark.target?, List.filterMap_cons, Function.comp_def, hargs]
  | name color => rfl
  | constant color => rfl
  | comparison symbols color =>
    simp only [plan, comparisonPlan, examined, List.filterMap_append, targets_linkChild,
      List.filterMap_flatMap]
    simp [Mark.target?, List.filterMap_cons]

theorem examined_held {n : Node} {s : Strategy} {id : NodeId} (h : id ∈ s.examined n) : id ∈ n.held := by
  rw [← targets_plan .empty] at h
  obtain ⟨m, hm, ht⟩ := List.mem_filterMap.mp h
  exact target_held hm ht

end Strategy

namespace View

open Relation

def examined (v : View) (id : NodeId) : List NodeId :=
  match v.drawing? id with
  | some (n, s) => s.examined n
  | none => []

def lookups (v : View) (id : NodeId) : List NodeId :=
  id :: v.examined id

def outcome (v : View) (ids : List NodeId) : Except DrawError Unit :=
  match (ids.flatMap v.lookups).find? v.isMissing with
  | some missing => .error (.danglingNode missing)
  | none => .ok ()

section

variable {v : View} {root id : NodeId} {rest ids visited children : List NodeId} {g g' : Graph}
  {e : DrawError}

theorem isMissing_of_drawing {d : Node × Strategy} (h : v.drawing? id = some d) :
    v.isMissing id = false := by
  obtain ⟨n, s⟩ := d
  simp [isMissing, (drawing?_eq_some_iff.mp h).1]

theorem references_eq (v : View) (id : NodeId) : v.references id =
    match (v.lookups id).find? v.isMissing with
      | some missing => .error (.danglingNode missing)
      | none => .ok ((v.followed id).map Prod.fst) := by
  unfold lookups examined followed
  rw [List.find?_cons]
  cases hd : v.drawing? id with
  | none =>
    rw [references_of_undrawn hd]
    cases v.isMissing id <;> rfl
  | some d =>
    obtain ⟨n, s⟩ := d
    have hpresent := isMissing_of_drawing hd
    rw [references_of_drawing hd, linked_eq, Strategy.targets_plan, Strategy.plan_references]
    generalize v.isMissing id = missing at hpresent ⊢
    cases hpresent
    rfl

theorem lookups_of_visit_ok (h : v.visit id g = (.ok children, g')) :
    (v.lookups id).find? v.isMissing = none := by
  have hr := references_eq v id
  rw [← visit_fst v id g, h] at hr
  cases hf : (v.lookups id).find? v.isMissing with
  | none => rfl
  | some missing => simp [hf] at hr

theorem lookups_of_visit_error (h : v.visit id g = (.error e, g')) :
    ∃ missing, (v.lookups id).find? v.isMissing = some missing ∧ e = .danglingNode missing := by
  have hr := references_eq v id
  rw [← visit_fst v id g, h] at hr
  cases hf : (v.lookups id).find? v.isMissing with
  | none => simp [hf] at hr
  | some missing => exact ⟨missing, rfl, by simpa [hf] using hr⟩

theorem outcome_cons_of_some {missing : NodeId} (h : (v.lookups id).find? v.isMissing = some missing) :
    v.outcome (id :: rest) = .error (.danglingNode missing) := by
  simp [outcome, List.flatMap_cons, h]

theorem outcome_cons_of_none (h : (v.lookups id).find? v.isMissing = none) :
    v.outcome (id :: rest) = v.outcome rest := by
  simp [outcome, List.flatMap_cons, h]

theorem outcome_append_of_ok (h : v.outcome ids = .ok ()) : v.outcome (ids ++ rest) = v.outcome rest := by
  unfold outcome at h
  split at h
  · cases h
  · next hf => simp [outcome, List.flatMap_append, hf]

theorem Descends.outcome {r : Outcome} (h : v.Descends ids g visited r) : r.1 = v.outcome visited := by
  induction h with
  | done => rfl
  | @missing id rest g hn =>
    obtain ⟨missing, hf, he⟩ := lookups_of_visit_error (visit_missing hn g)
    rw [outcome_cons_of_some hf, he]
  | @omitted id rest g n visited r hn hs _ ih =>
    rw [outcome_cons_of_none (lookups_of_visit_ok (visit_omitted hn hs g))]
    exact ih
  | @failed id rest g n s e g' hn hs hm =>
    obtain ⟨missing, hf, he⟩ := lookups_of_visit_error ((visit_drawn hn hs g).trans hm)
    rw [outcome_cons_of_some hf, he]
  | @stopped id rest g n s children g' below e g'' hn hs hm _ ih =>
    rw [outcome_cons_of_none (lookups_of_visit_ok ((visit_drawn hn hs g).trans hm))]
    exact ih
  | @drawn id rest g n s children g' below g'' visited r hn hs hm _ _ ihc ihr =>
    rw [outcome_cons_of_none (lookups_of_visit_ok ((visit_drawn hn hs g).trans hm)),
      outcome_append_of_ok ihc.symm]
    exact ihr

theorem outcome_eq_error_iff : v.outcome ids = .error e ↔
    ∃ missing, (ids.flatMap v.lookups).find? v.isMissing = some missing ∧ e = .danglingNode missing := by
  unfold outcome
  cases (ids.flatMap v.lookups).find? v.isMissing with
  | none => simp
  | some missing => simp [eq_comm]

theorem exists_outcome_error_iff : (∃ e, v.outcome ids = .error e) ↔
    ∃ id ∈ ids, ∃ missing ∈ v.lookups id, v.isMissing missing = true := by
  have hsome : (∃ e, v.outcome ids = .error e) ↔ ((ids.flatMap v.lookups).find? v.isMissing).isSome := by
    unfold outcome
    cases (ids.flatMap v.lookups).find? v.isMissing <;> simp
  rw [hsome, List.find?_isSome]
  constructor
  · rintro ⟨missing, hmem, hm⟩
    obtain ⟨id, hid, hlook⟩ := List.mem_flatMap.mp hmem
    exact ⟨id, hid, missing, hlook, hm⟩
  · rintro ⟨id, hid, missing, hlook, hm⟩
    exact ⟨missing, List.mem_flatMap.mpr ⟨id, hid, hlook⟩, hm⟩

theorem Descends.mem_visited {r : Outcome} (h : v.Descends (id :: rest) g visited r) : id ∈ visited := by
  cases h <;> exact List.mem_cons_self

theorem Tour.reaches {finished : Bool} {taken : List (List Nat)}
    (h : Tour (v.follow root) visited finished taken) (hid : id ∈ visited) :
    ReflTransGen v.Leads root id := by
  have hmem : some id ∈ taken.map (v.follow root) := h.ends ▸ List.mem_map_of_mem hid
  obtain ⟨way, _, hway⟩ := List.mem_map.mp hmem
  exact exists_way_iff.mp ⟨way, hway⟩

theorem drawing_of_styled {a : NodeId} {c : Change} {style : Style} (hc : c ∈ v.visitChanges a)
    (hs : c.style? id = some style) : ∃ n s, v.drawing? id = some (n, s) ∧ style = s.style v.tree n := by
  unfold visitChanges at hc
  cases hd : v.drawing? a with
  | none => simp [hd] at hc
  | some d =>
    obtain ⟨n, s⟩ := d
    rw [hd] at hc
    obtain ⟨m, hm, hmc⟩ := List.mem_filterMap.mp hc
    obtain ⟨rfl, hstyle⟩ := style_of_change? ((List.takeWhile_sublist _).mem hm) hmc hs
    exact ⟨n, s, hd, hstyle⟩

theorem styleOf_visits {c : Change} {style : Style} (hc : c ∈ visited.flatMap v.visitChanges)
    (hs : c.style? id = some style) :
    (g.applyAll (visited.flatMap v.visitChanges)).styleOf id = some style := by
  refine Graph.styleOf_applyAll_of_forall hc hs fun c' hc' style' hs' => ?_
  -- However often the node is visited, its strategy paints it in the same style.
  obtain ⟨a, _, hca⟩ := List.mem_flatMap.mp hc
  obtain ⟨b, _, hcb⟩ := List.mem_flatMap.mp hc'
  obtain ⟨n, s, hd, rfl⟩ := drawing_of_styled hca hs
  obtain ⟨n', s', hd', rfl⟩ := drawing_of_styled hcb hs'
  cases hd.symm.trans hd'
  rfl

end

/-- A run into a graph that visits these nodes: it fails if a visit looks up a missing node, with the first
of them, and leaves all that it has recorded by then. -/
structure FailsFirst (v : View) (root : NodeId) (g : Graph) (visited : List NodeId) : Prop where
  run : v.Descends [root] g visited (v.draw root g)
  inOrder : ∃ taken, Tour (v.follow root) visited (v.draw root g).1.isOk taken
  fails : (∃ e, (v.draw root g).1 = .error e) ↔
    v.isMissing root ∨ ∃ id ∈ visited, ∃ missing ∈ v.examined id, v.isMissing missing
  first : ∀ e, (v.draw root g).1 = .error e ↔
    ∃ missing, (visited.flatMap v.lookups).find? v.isMissing = some missing ∧ e = .danglingNode missing
  examined : ∀ missing, (v.draw root g).1 = .error (.danglingNode missing) → missing = root ∨
    ∃ id, v.isDrawn id ∧ ReflTransGen v.Follows root id ∧ missing ∈ v.examined id
  unread : v.isMissing root = false →
    (∀ id, v.isDrawn id → ReflTransGen v.Follows root id → ∀ a ∈ v.examined id, v.isMissing a = false) →
    (v.draw root g).1 = .ok ()
  whole : v.isMissing root = false → (∀ a b, v.tree.Holds a b → v.isMissing b = false) →
    (v.draw root g).1 = .ok ()
  recorded : (v.draw root g).2 = g.applyAll (visited.flatMap v.visitChanges)
  kept : ∀ before, before <+: visited.flatMap v.visitChanges →
    (g.applyAll before).Kept (v.draw root g).2 ∧
      ∀ c ∈ before, ∀ id style, c.style? id = some style → (v.draw root g).2.styleOf id = some style

section

variable {v : View} {root id missing : NodeId} {visited : List NodeId} {g : Graph} {r : Outcome}

theorem isMissing_of_isDrawn (h : v.isDrawn id = true) : v.isMissing id = false := by
  rw [isDrawn_eq] at h
  obtain ⟨d, hd⟩ := Option.isSome_iff_exists.mp h
  exact isMissing_of_drawing hd

theorem mem_examined {a : NodeId} (h : a ∈ v.examined id) : v.isDrawn id ∧ v.tree.Holds id a := by
  unfold examined at h
  cases hd : v.drawing? id with
  | none => simp [hd] at h
  | some d =>
    obtain ⟨n, s⟩ := d
    rw [hd] at h
    have hn := (drawing?_eq_some_iff.mp hd).1
    exact ⟨by simp [isDrawn_eq, hd], n, hn, Strategy.examined_held h⟩

theorem Descends.reaches (h : v.Descends [root] g visited r) (hid : id ∈ visited) :
    ReflTransGen v.Follows root id := by
  obtain ⟨taken, ht⟩ := h.tour
  exact (ht.single.reaches hid).lift (fun a => a) fun _ _ hab => hab.follows

theorem Descends.missing_cases (h : v.Descends [root] g visited r) (hid : id ∈ visited)
    (hm : missing ∈ v.lookups id) (hmissing : v.isMissing missing = true) :
    missing = root ∨ missing ∈ v.examined id := by
  rcases List.mem_cons.mp hm with rfl | hm
  -- The node itself: all but the root are drawn, as the node before has found.
  · rcases (h.reaches hid).cases_tail with rfl | ⟨a, _, ha⟩
    · exact Or.inl rfl
    · rw [isMissing_of_isDrawn ha.held.1] at hmissing
      cases hmissing
  · exact Or.inr hm

theorem Descends.fails_iff (h : v.Descends [root] g visited r) : (∃ e, r.1 = .error e) ↔
    v.isMissing root ∨ ∃ id ∈ visited, ∃ missing ∈ v.examined id, v.isMissing missing := by
  rw [h.outcome, exists_outcome_error_iff]
  constructor
  · rintro ⟨id, hid, missing, hm, hmissing⟩
    rcases h.missing_cases hid hm hmissing with rfl | hm
    · exact Or.inl hmissing
    · exact Or.inr ⟨id, hid, missing, hm, hmissing⟩
  · rintro (hmissing | ⟨id, hid, missing, hm, hmissing⟩)
    · exact ⟨root, h.mem_visited, root, List.mem_cons_self, hmissing⟩
    · exact ⟨id, hid, missing, List.mem_cons_of_mem _ hm, hmissing⟩

theorem Descends.exists_examined (h : v.Descends [root] g visited r)
    (he : r.1 = .error (.danglingNode missing)) : missing = root ∨
      ∃ id, v.isDrawn id ∧ ReflTransGen v.Follows root id ∧ missing ∈ v.examined id := by
  rw [h.outcome, outcome_eq_error_iff] at he
  obtain ⟨missing, hf, he⟩ := he
  cases he
  obtain ⟨id, hid, hm⟩ := List.mem_flatMap.mp (List.mem_of_find?_eq_some hf)
  refine (h.missing_cases hid hm (List.find?_some hf)).imp_right fun hm => ?_
  exact ⟨id, (mem_examined hm).1, h.reaches hid, hm⟩

theorem Descends.ok_of_present (h : v.Descends [root] g visited r) (hroot : v.isMissing root = false)
    (hall : ∀ id, v.isDrawn id → ReflTransGen v.Follows root id →
      ∀ a ∈ v.examined id, v.isMissing a = false) : r.1 = .ok () := by
  cases hr : r.1 with
  | ok u => rfl
  | error e =>
    rcases h.fails_iff.mp ⟨e, hr⟩ with hmissing | ⟨id, hid, a, ha, hmissing⟩
    · rw [hroot] at hmissing
      cases hmissing
    · rw [hall id (mem_examined ha).1 (h.reaches hid) a ha] at hmissing
      cases hmissing

theorem kept_visits {before : List Change} (h : before <+: visited.flatMap v.visitChanges) :
    (g.applyAll before).Kept (g.applyAll (visited.flatMap v.visitChanges)) ∧
      ∀ c ∈ before, ∀ id style, c.style? id = some style →
        (g.applyAll (visited.flatMap v.visitChanges)).styleOf id = some style := by
  obtain ⟨after, hsplit⟩ := h
  refine ⟨?_, fun c hc id style hs => ?_⟩
  · rw [← hsplit, Graph.applyAll_append]
    exact Graph.kept_applyAll _ after
  · exact styleOf_visits (hsplit ▸ List.mem_append_left _ hc) hs

theorem draw_fails_first (h : v.AcyclicBelow root) (g : Graph) : ∃ visited, v.FailsFirst root g visited := by
  obtain ⟨_, _, visited, hd⟩ := draw_of_extent h.extent_ends g
  obtain ⟨taken, ht⟩ := hd.tour
  refine ⟨visited, ?_⟩
  constructor
  case run => exact hd
  case inOrder => exact ⟨_, ht.single⟩
  case fails => exact hd.fails_iff
  case first =>
    intro e
    rw [hd.outcome, outcome_eq_error_iff]
  case examined => exact fun missing he => hd.exists_examined he
  case unread => exact hd.ok_of_present
  case whole =>
    intro hroot hall
    exact hd.ok_of_present hroot fun id _ _ a ha => hall id a (mem_examined ha).2
  case recorded => exact hd.graph
  case kept =>
    rw [hd.graph]
    exact fun before => kept_visits

end

end View

def danglingOperands : View where
  tree := {
    nodes := #[
      ⟨"Name", [("id", .scalar (.str "x")), ("scope", .node ⟨5⟩)]⟩,
      ⟨"BinOp", [("left", .node ⟨8⟩), ("op", .node ⟨7⟩), ("right", .node ⟨9⟩)]⟩,
      ⟨"arguments", [("args", .list [⟨6⟩])]⟩,
      ⟨"Module", [("args", .node ⟨2⟩), ("body", .list [⟨0⟩, ⟨1⟩])]⟩]
    root := some ⟨3⟩ }
  registry := .standard {} .standard

theorem draw_fails_first_danglingOperands :
    danglingOperands.AcyclicBelow ⟨3⟩ ∧
      (danglingOperands.draw ⟨3⟩ .empty).1 = .error (.danglingNode ⟨7⟩) ∧
      ∃ visited, danglingOperands.FailsFirst ⟨3⟩ .empty visited ∧
        (visited.flatMap danglingOperands.lookups).find? danglingOperands.isMissing = some ⟨7⟩ := by
  have hacyclic : danglingOperands.tree.Acyclic := Tree.acyclic_of_lt (by decide +kernel)
  have hbelow := View.acyclicBelow_of_acyclic hacyclic ⟨3⟩
  have hresult : (danglingOperands.draw ⟨3⟩ .empty).1 = .error (.danglingNode ⟨7⟩) := by decide +kernel
  obtain ⟨visited, h⟩ := View.draw_fails_first hbelow .empty
  obtain ⟨missing, hfirst, he⟩ := (h.first _).mp hresult
  cases he
  exact ⟨hbelow, hresult, visited, h, hfirst⟩

end SyntaxGraph
