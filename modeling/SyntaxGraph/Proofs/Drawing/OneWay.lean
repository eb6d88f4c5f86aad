import SyntaxGraph.Proofs.Drawing.Drawn
import SyntaxGraph.Proofs.Tree.Sound
import Mathlib.Data.List.Flatten
import Mathlib.Data.List.Perm.Subperm

namespace SyntaxGraph

namespace Tree

variable {t : Tree} {a b id : NodeId} {n : Node}

theorem Sound.nodup_held (h : t.Sound) : (t.nodes.toList.flatMap Node.held).Nodup := by
  rw [List.nodup_iff_count_le_one]
  intro id
  by_cases hid : id ∈ t.nodes.toList.flatMap Node.held
  · obtain ⟨n, hn, hmem⟩ := List.mem_flatMap.mp hid
    obtain ⟨i, hi, rfl⟩ := List.mem_iff_getElem.mp hn
    have hlt : id.index < i := h.heldBefore i hi id (by simpa using hmem)
    have hsize : i < t.size := hi
    exact Nat.le_of_eq (h.heldOnce id.index (by omega))
  · rw [List.count_eq_zero_of_not_mem hid]
    exact Nat.zero_le 1

theorem Sound.nodup_held_of_node (h : t.Sound) (hn : t.node? id = some n) : n.held.Nodup := by
  obtain ⟨hlt, rfl⟩ := Array.getElem?_eq_some_iff.mp hn
  apply (List.nodup_flatMap.mp h.nodup_held).1
  exact Array.getElem_mem_toList hlt

theorem Sound.holder_unique (h : t.Sound) (ha : t.Holds a id) (hb : t.Holds b id) : a = b := by
  obtain ⟨n, hn, hid⟩ := ha
  obtain ⟨m, hm, hid'⟩ := hb
  obtain ⟨hi, rfl⟩ := Array.getElem?_eq_some_iff.mp hn
  obtain ⟨hj, rfl⟩ := Array.getElem?_eq_some_iff.mp hm
  have hdisjoint := List.pairwise_iff_getElem.mp (List.nodup_flatMap.mp h.nodup_held).2
  rcases Nat.lt_trichotomy a.index b.index with hlt | heq | hgt
  · exact absurd hid' (hdisjoint _ _ hi hj hlt hid)
  · exact congrArg NodeId.mk heq
  · exact absurd hid (hdisjoint _ _ hj hi hgt hid')

end Tree

namespace Node

def heldBy (n : Node) (name : String) : List NodeId :=
  ((n.field name).map FieldValue.held).getD []

theorem sublist_heldBy (fields : List (String × FieldValue)) (name : String) :
    (((fields.lookup name).map FieldValue.held).getD []).Sublist (fields.flatMap fun f => f.2.held) := by
  induction fields with
  | nil => exact List.Sublist.refl []
  | cons f fields ih =>
    obtain ⟨other, value⟩ := f
    rw [List.lookup_cons, List.flatMap_cons]
    cases name == other with
    | true => exact List.sublist_append_left _ _
    | false => exact ih.trans (List.sublist_append_right _ _)

theorem subperm_heldBy (n : Node) {name name' : String} (h : name ≠ name') :
    (n.heldBy name ++ n.heldBy name').Subperm n.held := by
  obtain ⟨kind, fields⟩ := n
  unfold heldBy field held
  dsimp only
  induction fields with
  | nil => exact List.Subperm.refl []
  | cons f fields ih =>
    obtain ⟨other, value⟩ := f
    rw [List.lookup_cons, List.lookup_cons, List.flatMap_cons]
    by_cases hn : name = other
    · subst hn
      rw [beq_self_eq_true, beq_false_of_ne h.symm]
      exact (List.Sublist.append (.refl _) (sublist_heldBy fields name')).subperm
    · rw [beq_false_of_ne hn]
      by_cases hn' : name' = other
      · subst hn'
        rw [beq_self_eq_true]
        apply List.perm_append_comm.subperm.trans
        exact (List.Sublist.append (.refl _) (sublist_heldBy fields name)).subperm
      · rw [beq_false_of_ne hn']
        exact ih.trans (List.sublist_append_right _ _).subperm

theorem toList_child_sublist (n : Node) (name : String) :
    (n.child name).toList.Sublist (n.heldBy name) := by
  unfold child heldBy
  cases n.field name with
  | none => exact List.Sublist.refl []
  | some value => cases value <;> simp [FieldValue.held]

theorem children_sublist (n : Node) (name : String) : (n.children name).Sublist (n.heldBy name) := by
  unfold children heldBy
  cases n.field name with
  | none => exact List.Sublist.refl []
  | some value => cases value <;> simp [FieldValue.held]

end Node

namespace Strategy

theorem map_fst_childReference (n : Node) (field : String) (label : Option String) :
    (childReference n field label).map Prod.fst = (n.child field).toList := by
  unfold childReference
  cases n.child field <;> rfl

theorem map_fst_fieldReferences (field : String) (value : FieldValue) :
    (fieldReferences field value).map Prod.fst = value.held := by
  cases value with
  | scalar v => rfl
  | node child => rfl
  | list children =>
    simp only [fieldReferences, FieldValue.held, List.map_map, Function.comp_def]
    exact List.zipIdx_map_fst 0 children

theorem map_snd_zip_sublist (ops ids : List NodeId) : ((ops.zip ids).map Prod.snd).Sublist ids := by
  induction ops generalizing ids with
  | nil => exact List.nil_sublist ids
  | cons op ops ih =>
    cases ids with
    | nil => exact List.Sublist.refl []
    | cons id ids => exact (ih ids).cons_cons id

theorem references_subperm (t : Tree) (n : Node) (s : Strategy) :
    ((s.references t n).map Prod.fst).Subperm n.held := by
  have hfields {first second : List NodeId} {name name' : String} (h : name ≠ name')
      (hf : first.Sublist (n.heldBy name)) (hs : second.Sublist (n.heldBy name')) :
      (first ++ second).Subperm n.held :=
    (hf.append hs).subperm.trans (n.subperm_heldBy h)
  cases s with
  | general color =>
    simp only [references, List.map_flatMap, map_fst_fieldReferences]
    exact List.Subperm.refl _
  | binary symbols color =>
    rw [references, List.map_append, map_fst_childReference, map_fst_childReference]
    exact hfields (by decide) (n.toList_child_sublist "left") (n.toList_child_sublist "right")
  | call color =>
    have hargs := List.zipIdx_map_fst 0 (n.children "args")
    simp only [references, List.map_append, map_fst_childReference, List.map_map, Function.comp_def, hargs]
    exact hfields (by decide) (n.toList_child_sublist "func") (n.children_sublist "args")
  | name color => exact List.nil_subperm
  | constant color => exact List.nil_subperm
  | comparison symbols color =>
    have hpairs := map_snd_zip_sublist (n.children "ops") (n.children "comparators")
    simp only [references, List.map_append, map_fst_childReference, List.map_map, Function.comp_def]
    exact hfields (by decide) (n.toList_child_sublist "left")
      (hpairs.trans (n.children_sublist "comparators"))

end Strategy

namespace View

section

variable {v : View} {root a b id : NodeId} {visited : List NodeId}

theorem nodup_followed (ht : v.tree.Sound) (id : NodeId) : ((v.followed id).map Prod.fst).Nodup := by
  unfold followed
  cases hd : v.drawing? id with
  | none => exact List.nodup_nil
  | some d =>
    obtain ⟨n, s⟩ := d
    obtain ⟨hn, _⟩ := drawing?_eq_some_iff.mp hd
    obtain ⟨held, hperm, hsub⟩ := s.references_subperm v.tree n
    have hheld : held.Nodup := (ht.nodup_held_of_node hn).sublist hsub
    exact (hperm.nodup_iff.mp hheld).sublist (List.filter_sublist.map Prod.fst)

theorem nodup_children (ht : v.tree.Sound) (id : NodeId) : (v.children id).Nodup := by
  unfold View.children
  cases hr : v.references id with
  | error e => exact List.nodup_nil
  | ok children =>
    rw [references_ok hr]
    exact nodup_followed ht id

theorem follow_concat (a : NodeId) (way : List Nat) (k : Nat) :
    v.follow a (way ++ [k]) = (v.follow a way).bind fun p => (v.children p)[k]? := by
  rw [follow_append]
  apply Option.bind_congr
  intro p _
  cases hk : (v.children p)[k]? <;> simp [follow, hk]

theorem exists_of_follow_concat {way : List Nat} {k : Nat} (h : v.follow root (way ++ [k]) = some id) :
    ∃ p, v.follow root way = some p ∧ (v.children p)[k]? = some id ∧ v.Leads p id := by
  rw [follow_concat] at h
  obtain ⟨p, hp, hk⟩ := Option.bind_eq_some_iff.mp h
  exact ⟨p, hp, hk, List.mem_of_getElem? hk⟩

theorem not_leads_root (ht : v.tree.Sound) {way : List Nat} (h : v.follow root way = some a) :
    ¬ v.Leads a root := by
  intro hlead
  have hreach : Relation.ReflTransGen v.Leads root a := exists_way_iff.mp ⟨way, h⟩
  have hloop : Relation.TransGen v.Leads root root := .tail' hreach hlead
  exact acyclicBelow_of_heldBefore ht.heldBefore root root .refl hloop

theorem way_unique (ht : v.tree.Sound) {way way' : List Nat} (h : v.follow root way = some id)
    (h' : v.follow root way' = some id) : way = way' := by
  -- From the end of the ways: without their last steps both lead to the one node that holds the last.
  induction way using List.reverseRecOn generalizing id way' with
  | nil =>
    cases h
    rcases List.eq_nil_or_concat way' with rfl | ⟨rest, k, rfl⟩
    · rfl
    · rw [List.concat_eq_append] at h'
      obtain ⟨p, hp, _, hlead⟩ := exists_of_follow_concat h'
      exact absurd hlead (not_leads_root ht hp)
  | append_singleton way k ih =>
    obtain ⟨p, hp, hk, hlead⟩ := exists_of_follow_concat h
    rcases List.eq_nil_or_concat way' with rfl | ⟨rest, k', rfl⟩
    · cases h'
      exact absurd hlead (not_leads_root ht hp)
    · rw [List.concat_eq_append] at h' ⊢
      obtain ⟨p', hp', hk', hlead'⟩ := exists_of_follow_concat h'
      obtain rfl := ht.holder_unique hlead.follows.held.2 hlead'.follows.held.2
      have hlt : k < (v.children p).length := (List.getElem?_eq_some_iff.mp hk).1
      have hsame := (List.getElem?_inj hlt (nodup_children ht p)).mp (hk.trans hk'.symm)
      rw [ih hp hp', hsame]

theorem Tour.nodup {finished : Bool} {taken : List (List Nat)} (ht : v.tree.Sound)
    (h : Tour (v.follow root) visited finished taken) : visited.Nodup := by
  apply List.Nodup.of_map some
  rw [← h.ends]
  apply List.Nodup.map_on
  · intro way hw way' _ heq
    obtain ⟨id, hid⟩ := Option.isSome_iff_exists.mp (h.isSome_of_mem hw)
    exact way_unique ht hid (heq.symm.trans hid)
  · exact h.ordered.imp fun hlt => ne_of_lt hlt

theorem Visited.nodup {g g' : Graph} (ht : v.tree.Sound) (h : v.Visited root g visited g') :
    visited.Nodup := by
  obtain ⟨taken, htour⟩ := h.along
  exact htour.nodup ht

theorem Visited.nodup_children {g g' : Graph} (ht : v.tree.Sound)
    (h : v.Visited root g visited g') : (root :: visited.flatMap v.children).Nodup := by
  obtain ⟨taken, htour⟩ := h.along
  rw [List.nodup_cons, List.nodup_flatMap]
  refine ⟨?_, fun id _ => View.nodup_children ht id, ?_⟩
  · intro hroot
    obtain ⟨a, ha, hlead⟩ := List.mem_flatMap.mp hroot
    obtain ⟨way, hw⟩ := exists_way_iff.mpr (htour.mem_visited.mp ha)
    exact not_leads_root ht hw hlead
  · refine (h.nodup ht).imp fun {a b} hne id ha hb => hne ?_
    have ha : v.Leads a id := ha
    have hb : v.Leads b id := hb
    exact ht.holder_unique ha.follows.held.2 hb.follows.held.2

end

end View

end SyntaxGraph
