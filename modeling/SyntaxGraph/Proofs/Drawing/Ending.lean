import SyntaxGraph.Proofs.Drawing.Acyclic
import SyntaxGraph.Proofs.Drawing.Tours
import Mathlib.Data.Set.Finite.Lemmas

namespace SyntaxGraph.View

section

variable {v : View} {id : NodeId} {rest visited others : List NodeId} {g g' : Graph} {e : DrawError}
  {r : Outcome}

theorem Descends.cons_error (h : v.Descends [id] g visited (.error e, g')) :
    v.Descends (id :: rest) g visited (.error e, g') := by
  cases h with
  | missing hn => exact .missing hn
  | omitted _ _ hr => cases hr
  | failed hn hs hm => exact .failed hn hs hm
  | stopped hn hs hm hc => exact .stopped hn hs hm hc
  | drawn _ _ _ _ hr => cases hr

theorem Descends.cons_ok (h : v.Descends [id] g visited (.ok (), g'))
    (hr : v.Descends rest g' others r) : v.Descends (id :: rest) g (visited ++ others) r := by
  cases h with
  | omitted hn hs hd =>
    cases hd
    exact .omitted hn hs hr
  | drawn hn hs hm hc hd =>
    cases hd
    rw [List.append_nil]
    exact .drawn hn hs hm hc hr

end

def Counted (v : View) (ids : List NodeId) (g : Graph) (r : Outcome) (extent : Extent) : Prop :=
  r.1 = extent.outcome ∧ ∃ visited, visited.length = extent.visits ∧ v.Descends ids g visited r

theorem counted_descendAll {v : View} {count : NodeId → Extent}
    {go : NodeId → Graph → Outcome}
    (hgo : ∀ id g, (count id).outcome ≠ .error .endless → v.Counted [id] g (go id g) (count id))
    {ids : List NodeId} (h : (Extent.sum count ids).outcome ≠ .error .endless) (g : Graph) :
    v.Counted ids g (descendAll go ids g) (Extent.sum count ids) := by
  induction ids generalizing g with
  | nil => exact ⟨rfl, [], rfl, .done⟩
  | cons id rest ih =>
    unfold Extent.sum at h ⊢
    unfold descendAll
    cases ho : (count id).outcome with
    | error e =>
      simp only [ho] at h ⊢
      obtain ⟨hr, visited, hlen, hd⟩ := hgo id g (ho ▸ h)
      cases hg : go id g with
      | mk result g' =>
        rw [hg] at hr hd
        obtain rfl : result = .error e := hr.trans ho
        exact ⟨rfl, visited, hlen, hd.cons_error⟩
    | ok u =>
      simp only [ho] at h ⊢
      obtain ⟨hr, visited, hlen, hd⟩ := hgo id g (by simp [ho])
      cases hg : go id g with
      | mk result g' =>
        rw [hg] at hr hd
        obtain rfl : result = .ok () := hr.trans ho
        obtain ⟨hr', others, hlen', hd'⟩ := ih h g'
        exact ⟨hr', visited ++ others, by simp [hlen, hlen'], hd.cons_ok hd'⟩

theorem counted_descend {v : View} {depth : Nat} {id : NodeId}
    (h : (v.extent depth id).outcome ≠ .error .endless) (g : Graph) :
    v.Counted [id] g (v.descend depth id g) (v.extent depth id) := by
  induction depth generalizing id g with
  | zero => exact absurd rfl h
  | succ depth ih =>
    unfold extent at h ⊢
    unfold descend
    rw [← visit_fst v id g] at h ⊢
    cases hv : v.visit id g with
    | mk result g' =>
      cases result with
      | error e => exact ⟨rfl, [id], rfl, .of_visit_error hv⟩
      | ok children =>
        simp only [hv] at h ⊢
        obtain ⟨hr, below, hlen, hd⟩ := counted_descendAll (fun id g h => ih h g) h g'
        refine ⟨hr, id :: below, by simp [hlen], ?_⟩
        cases hall : descendAll (v.descend depth) children g' with
        | mk result g'' =>
          rw [hall] at hd
          cases result with
          | error e => exact .of_visit_stopped hv hd
          | ok u => simpa using Descends.of_visit_ok hv hd .done

theorem draw_of_extent {v : View} {root : NodeId}
    (h : (v.extent v.depthLimit root).outcome ≠ .error .endless) (g : Graph) :
    v.draw root g = v.descend v.depthLimit root g ∧ (v.draw root g).1 ≠ .error .endless ∧
      ∃ visited, v.Descends [root] g visited (v.draw root g) := by
  obtain ⟨hr, visited, hlen, hd⟩ := counted_descend h g
  have hdraw : v.draw root g = v.descend v.depthLimit root g := hd.walk_eq (Nat.le_of_eq hlen)
  rw [hdraw]
  exact ⟨rfl, hr ▸ h, visited, hd⟩

section

variable {v : View} {id : NodeId}

theorem isMissing_of_lt (h : id.index < v.tree.size) : v.isMissing id = false := by
  have hn : v.tree.node? id = some v.tree.nodes[id.index] := Array.getElem?_eq_getElem h
  simp [isMissing, hn]

theorem references_isOk_of_heldBefore {n : Node} (ht : v.tree.HeldBefore)
    (hn : v.tree.node? id = some n) : ∃ children, v.references id = .ok children := by
  obtain ⟨hlt, hid⟩ := Array.getElem?_eq_some_iff.mp hn
  refine references_isOk hn fun c hc => isMissing_of_lt ?_
  have hbefore := ht id.index hlt c (hid ▸ hc)
  exact Nat.lt_trans hbefore hlt

theorem Descends.ok_of_heldBefore (ht : v.tree.HeldBefore) {ids : List NodeId} {g : Graph}
    {visited : List NodeId} {r : Outcome} (h : v.Descends ids g visited r)
    (hids : ∀ id ∈ ids, id.index < v.tree.size) : r.1 = .ok () := by
  induction h with
  | done => rfl
  | @missing id _ _ hn =>
    have := isMissing_of_lt (hids id List.mem_cons_self)
    simp [isMissing, hn] at this
  | omitted _ _ _ ih => exact ih (List.forall_mem_cons.mp hids).2
  | @failed id _ g _ _ _ _ hn hs hm =>
    obtain ⟨children, hr⟩ := references_isOk_of_heldBefore ht hn
    rw [← visit_fst v id g, visit_drawn hn hs, hm] at hr
    cases hr
  | @stopped id _ g _ _ children _ _ _ _ hn hs hm _ ih =>
    have hc := children_of_visit_ok ((visit_drawn hn hs g).trans hm)
    have hlt : ∀ c ∈ children, c.index < v.tree.size := by
      intro c hmem
      have hlead : v.Leads id c := by
        rw [Leads, hc]
        exact hmem
      exact hlead.lt_size
    cases ih hlt
  | drawn _ _ _ _ _ _ ih => exact ih (List.forall_mem_cons.mp hids).2

theorem draw_ok_of_heldBefore (ht : v.tree.HeldBefore) (hid : id.index < v.tree.size) (g : Graph) :
    ∃ g', v.draw id g = (.ok (), g') ∧ ∃ visits, ∀ n, visits ≤ n → v.walk n [id] g = (.ok (), g') := by
  obtain ⟨_, _, visited, hd⟩ := draw_of_extent (acyclicBelow_of_heldBefore ht id).extent_ends g
  have hok := hd.ok_of_heldBefore ht (by simpa using hid)
  have hdraw : v.draw id g = (.ok (), (v.draw id g).2) := Prod.ext hok rfl
  refine ⟨_, hdraw, visited.length, fun n hn => ?_⟩
  rw [← hdraw]
  exact hd.walk_eq hn

end

section

variable {v : View} {root : NodeId} {g g' : Graph} {visited : List NodeId}

theorem Tour.acyclicBelow {taken : List (List Nat)} (h : Tour (v.follow root) visited true taken) :
    v.AcyclicBelow root := by
  intro id hroot hloop
  obtain ⟨first, hfirst⟩ := exists_way_iff.mpr hroot
  obtain ⟨k, round, hround⟩ := exists_way_of_transGen hloop
  obtain ⟨way, hway, hmax⟩ :=
    Set.exists_max_image (v.ways root id) List.length (h.count id).1 ⟨first, hfirst⟩
  have hlonger : v.follow root (way ++ k :: round) = some id := by
    rw [follow_append, show v.follow root way = some id from hway]
    exact hround
  have hle := hmax _ hlonger
  rw [List.length_append, List.length_cons] at hle
  omega

theorem acyclicBelow_of_walk_ok {n : Nat} (h : v.walk n [root] g = (.ok (), g')) :
    v.AcyclicBelow root := by
  obtain ⟨visited, hd, _⟩ := descends_of_walk h (by simp)
  obtain ⟨taken, ht⟩ := hd.tour
  exact ht.single.acyclicBelow

theorem draw_eq_ok_iff : v.draw root g = (.ok (), g') ↔ ∃ n, v.walk n [root] g = (.ok (), g') := by
  constructor
  · exact fun h => ⟨_, h⟩
  · rintro ⟨n, h⟩
    obtain ⟨visited, hd, _⟩ := descends_of_walk h (by simp)
    obtain ⟨_, _, visited', hd'⟩ := draw_of_extent (acyclicBelow_of_walk_ok h).extent_ends g
    exact (hd.unique hd').2

end

/-- Where no drawn node is below itself, the work list ends with what the recursion comes to, however
many more visits it is given, and it visits one node for every way down from the root. -/
theorem draw_descends {v : View} {root : NodeId} (h : v.AcyclicBelow root) (g : Graph) :
    ∃ visited, v.Descends [root] g visited (v.draw root g) ∧
      (v.draw root g).1 ≠ .error .endless ∧
      v.draw root g = v.descend v.depthLimit root g ∧
      (∀ n, visited.length ≤ n →
        v.walk n [root] g = v.draw root g ∧ v.visits n [root] = visited) ∧
      (∀ visited' r, v.Descends [root] g visited' r → visited' = visited ∧ r = v.draw root g) ∧
      ∃ taken, Tour (v.follow root) visited (v.draw root g).1.isOk taken := by
  obtain ⟨hrec, hend, visited, hd⟩ := draw_of_extent h.extent_ends g
  obtain ⟨taken, ht⟩ := hd.tour
  refine ⟨visited, hd, hend, hrec, ?_, ?_, taken.map List.tail, ht.single⟩
  · exact fun n hn => ⟨hd.walk_eq hn, hd.visits_eq hn⟩
  · exact fun visited' r hd' => hd.unique hd'

end SyntaxGraph.View

namespace SyntaxGraph

def repeatedStatement : View where
  tree := {
    nodes := #[
      ⟨"Name", [("id", .scalar (.str "x"))]⟩,
      ⟨"Expr", [("value", .node ⟨0⟩)]⟩,
      ⟨"Module", [("body", .list [⟨1⟩, ⟨1⟩])]⟩]
    root := some ⟨2⟩ }
  registry := .standard {} .standard

theorem repeatedStatement_heldBefore : repeatedStatement.tree.HeldBefore := by
  decide +kernel

theorem draw_descends_repeatedStatement :
    repeatedStatement.AcyclicBelow ⟨2⟩ ∧
      ∃ visited, repeatedStatement.Descends [⟨2⟩] .empty visited (repeatedStatement.draw ⟨2⟩ .empty) ∧
        ∃ taken, View.Tour (repeatedStatement.follow ⟨2⟩) visited true taken := by
  have h := View.acyclicBelow_of_heldBefore repeatedStatement_heldBefore ⟨2⟩
  obtain ⟨visited, hd, _, _, _, _, taken, ht⟩ := View.draw_descends h .empty
  have hok : (repeatedStatement.draw ⟨2⟩ .empty).1.isOk = true := by decide +kernel
  exact ⟨h, visited, hd, taken, hok ▸ ht⟩

end SyntaxGraph
