import SyntaxGraph.Proofs.Drawing.Descent
import SyntaxGraph.Proofs.Drawing.Ways
import Mathlib.Data.Set.Card

/-!
Visits along the ways down from a node. Drawing visits one node for every way, in the order of the ways;
drawing that fails stops at one of them.
-/

namespace SyntaxGraph.View

/-- Visits along ways: what is visited is the ends of different ways in their order, and no way was
passed over. Only a finished tour has taken all of them. -/
structure Tour (follow : List Nat → Option NodeId) (visited : List NodeId) (finished : Bool)
    (taken : List (List Nat)) : Prop where
  ordered : taken.Pairwise (· < ·)
  ends : taken.map follow = visited.map some
  complete : ∀ way, (follow way).isSome →
    way ∈ taken ∨ finished = false ∧ ∀ other ∈ taken, other < way

namespace Tour

variable {v : View} {id root : NodeId} {rest visited others : List NodeId} {finished : Bool}
  {follow : List Nat → Option NodeId} {taken taken' : List (List Nat)}

theorem isSome_of_mem (h : Tour follow visited finished taken) {way : List Nat} (hw : way ∈ taken) :
    (follow way).isSome := by
  have hmem : follow way ∈ visited.map some := h.ends ▸ List.mem_map_of_mem hw
  obtain ⟨id, _, hid⟩ := List.mem_map.mp hmem
  simp [← hid]

theorem none (v : View) : Tour (v.followAny []) [] finished [] where
  ordered := List.Pairwise.nil
  ends := rfl
  complete way h := by
    obtain ⟨k, rest, rfl⟩ := cons_of_followAny h
    simp [followAny] at h

theorem below (h : Tour (v.followAny (v.children id)) visited finished taken) :
    Tour (v.follow id) (id :: visited) finished ([] :: taken) := by
  constructor
  case ordered =>
    refine List.pairwise_cons.mpr ⟨fun way hw => ?_, h.ordered⟩
    obtain ⟨k, rest, rfl⟩ := cons_of_followAny (h.isSome_of_mem hw)
    exact List.nil_lt_cons k rest
  case ends =>
    have hsame : taken.map (v.follow id) = taken.map (v.followAny (v.children id)) := by
      apply List.map_congr_left
      intro way hw
      obtain ⟨k, rest, rfl⟩ := cons_of_followAny (h.isSome_of_mem hw)
      rfl
    rw [List.map_cons, List.map_cons, hsame, h.ends, follow_nil]
  case complete =>
    intro way hw
    cases way with
    | nil => exact Or.inl List.mem_cons_self
    | cons k rest =>
      refine (h.complete (k :: rest) hw).imp (List.mem_cons_of_mem _) fun ⟨hf, hlt⟩ => ⟨hf, ?_⟩
      intro other ho
      rcases List.mem_cons.mp ho with rfl | ho
      · exact List.nil_lt_cons k rest
      · exact hlt other ho

theorem leaf (h : v.children id = []) : Tour (v.follow id) [id] finished [[]] :=
  below (h.symm ▸ none v : Tour (v.followAny (v.children id)) [] finished [])

theorem first (h : Tour (v.follow id) visited false taken) :
    Tour (v.followAny (id :: rest)) visited false (taken.map (0 :: ·)) := by
  constructor
  case ordered => exact List.pairwise_map.mpr (h.ordered.imp List.cons_lt_cons_self.mpr)
  case ends =>
    rw [List.map_map, ← h.ends]
    rfl
  case complete =>
    intro way hw
    match way, hw with
    | 0 :: way, hw =>
      refine (h.complete way hw).imp List.mem_map_of_mem fun ⟨_, hlt⟩ => ⟨rfl, ?_⟩
      intro other ho
      obtain ⟨other, hmem, rfl⟩ := List.mem_map.mp ho
      exact List.cons_lt_cons_self.mpr (hlt other hmem)
    | (k + 1) :: way, _ =>
      refine Or.inr ⟨rfl, fun other ho => ?_⟩
      obtain ⟨other, _, rfl⟩ := List.mem_map.mp ho
      exact List.cons_lt_cons_iff.mpr (Or.inl (Nat.succ_pos k))

theorem next (h : Tour (v.follow id) visited true taken)
    (h' : Tour (v.followAny rest) others finished taken') :
    Tour (v.followAny (id :: rest)) (visited ++ others) finished
      (taken.map (0 :: ·) ++ taken'.map later) := by
  constructor
  case ordered =>
    refine List.pairwise_append.mpr ⟨?_, ?_, ?_⟩
    · exact List.pairwise_map.mpr (h.ordered.imp List.cons_lt_cons_self.mpr)
    · refine List.pairwise_map.mpr (h'.ordered.imp_of_mem fun ha hb hlt => ?_)
      exact later_lt_later (h'.isSome_of_mem ha) (h'.isSome_of_mem hb) hlt
    · intro a ha b hb
      obtain ⟨way, _, rfl⟩ := List.mem_map.mp ha
      obtain ⟨other, ho, rfl⟩ := List.mem_map.mp hb
      exact first_lt_later way (h'.isSome_of_mem ho)
  case ends =>
    have hlater : (taken'.map later).map (v.followAny (id :: rest)) = taken'.map (v.followAny rest) := by
      rw [List.map_map]
      exact List.map_congr_left fun way hw => followAny_later (h'.isSome_of_mem hw)
    rw [List.map_append, hlater, h'.ends, List.map_append, ← h.ends, List.map_map]
    rfl
  case complete =>
    intro way hw
    match way, hw with
    | 0 :: way, hw =>
      rcases h.complete way hw with hmem | ⟨hf, _⟩
      · exact Or.inl (List.mem_append_left _ (List.mem_map_of_mem hmem))
      · cases hf
    | (k + 1) :: way, hw =>
      rcases h'.complete (k :: way) hw with hmem | ⟨hf, hlt⟩
      · exact Or.inl (List.mem_append_right _ (List.mem_map.mpr ⟨_, hmem, rfl⟩))
      · refine Or.inr ⟨hf, fun other ho => ?_⟩
        rcases List.mem_append.mp ho with ho | ho
        · obtain ⟨p, _, rfl⟩ := List.mem_map.mp ho
          exact List.cons_lt_cons_iff.mpr (Or.inl (Nat.succ_pos k))
        · obtain ⟨other, hmem, rfl⟩ := List.mem_map.mp ho
          have hway : (v.followAny rest (k :: way)).isSome := hw
          exact later_lt_later (h'.isSome_of_mem hmem) hway (hlt other hmem)

theorem single (h : Tour (v.followAny [root]) visited finished taken) :
    Tour (v.follow root) visited finished (taken.map List.tail) := by
  have hzero : ∀ way ∈ taken, ∃ rest, way = 0 :: rest :=
    fun way hw => zero_of_followAny (h.isSome_of_mem hw)
  constructor
  case ordered =>
    refine List.pairwise_map.mpr (h.ordered.imp_of_mem fun ha hb hlt => ?_)
    obtain ⟨p, rfl⟩ := hzero _ ha
    obtain ⟨q, rfl⟩ := hzero _ hb
    exact List.cons_lt_cons_self.mp hlt
  case ends =>
    rw [List.map_map, ← h.ends]
    apply List.map_congr_left
    intro way hw
    obtain ⟨p, rfl⟩ := hzero way hw
    rfl
  case complete =>
    intro way hw
    rcases h.complete (0 :: way) hw with hmem | ⟨hf, hlt⟩
    · exact Or.inl (List.mem_map.mpr ⟨_, hmem, rfl⟩)
    · refine Or.inr ⟨hf, fun other ho => ?_⟩
      obtain ⟨taken, hmem, rfl⟩ := List.mem_map.mp ho
      obtain ⟨q, rfl⟩ := hzero taken hmem
      exact List.cons_lt_cons_self.mp (hlt _ hmem)

theorem mem_visited (h : Tour (v.follow root) visited true taken) :
    id ∈ visited ↔ Relation.ReflTransGen v.Leads root id := by
  rw [← exists_way_iff]
  have hmem : id ∈ visited ↔ some id ∈ taken.map (v.follow root) := by
    rw [h.ends, List.mem_map_of_injective (Option.some_injective _)]
  rw [hmem, List.mem_map]
  constructor
  · rintro ⟨way, _, hw⟩
    exact ⟨way, hw⟩
  · rintro ⟨way, hw⟩
    rcases h.complete way (by simp [hw]) with hmem | ⟨hf, _⟩
    · exact ⟨way, hmem, hw⟩
    · cases hf

theorem count (h : Tour (v.follow root) visited true taken) (id : NodeId) :
    (v.ways root id).Finite ∧ visited.count id = (v.ways root id).ncard := by
  have hways : v.ways root id = ((taken.filter (v.follow root · == some id)).toFinset : Set _) := by
    ext way
    simp only [ways, Set.mem_ofPred_eq, List.coe_toFinset, List.mem_filter, beq_iff_eq]
    refine ⟨fun hw => ⟨?_, hw⟩, And.right⟩
    rcases h.complete way (by simp [hw]) with hmem | ⟨hf, _⟩
    · exact hmem
    · cases hf
  have hnodup : (taken.filter (v.follow root · == some id)).Nodup :=
    (h.ordered.imp fun hlt => ne_of_lt hlt).filter _
  refine ⟨hways ▸ Finset.finite_toSet _, ?_⟩
  have hsome : Function.Injective (some : NodeId → Option NodeId) := Option.some_injective _
  rw [hways, Set.ncard_coe_finset, List.toFinset_card_of_nodup hnodup,
    ← List.count_map_of_injective visited some hsome, ← h.ends, List.count, List.countP_map,
    List.countP_eq_length_filter]
  rfl

end Tour

theorem Descends.tour {v : View} {ids : List NodeId} {g : Graph} {visited : List NodeId} {r : Outcome}
    (h : v.Descends ids g visited r) : ∃ taken, Tour (v.followAny ids) visited r.1.isOk taken := by
  induction h with
  | done => exact ⟨_, Tour.none v⟩
  | @missing id rest g hn =>
    exact ⟨_, Tour.first (Tour.leaf (children_of_visit_error (visit_missing hn g)))⟩
  | @omitted id rest g n visited r hn hs _ ih =>
    obtain ⟨taken, ht⟩ := ih
    exact ⟨_, Tour.next (Tour.leaf (children_of_visit_ok (visit_omitted hn hs g))) ht⟩
  | @failed id rest g n s e g' hn hs hm =>
    exact ⟨_, Tour.first (Tour.leaf (children_of_visit_error ((visit_drawn hn hs g).trans hm)))⟩
  | @stopped id rest g n s children g' below e g'' hn hs hm _ ih =>
    have hc := children_of_visit_ok ((visit_drawn hn hs g).trans hm)
    obtain ⟨taken, ht⟩ := ih
    exact ⟨_, Tour.first (Tour.below (hc ▸ ht))⟩
  | @drawn id rest g n s children g' below g'' visited r hn hs hm _ _ ihc ihr =>
    have hc := children_of_visit_ok ((visit_drawn hn hs g).trans hm)
    obtain ⟨taken, ht⟩ := ihc
    obtain ⟨taken', ht'⟩ := ihr
    exact ⟨_, Tour.next (Tour.below (hc ▸ ht)) ht'⟩

end SyntaxGraph.View
