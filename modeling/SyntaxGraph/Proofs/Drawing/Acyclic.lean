import SyntaxGraph.Drawing.Walk
import SyntaxGraph.Proofs.Drawing.Ways
import Mathlib.Data.List.Chain

namespace SyntaxGraph.Tree

open Relation

def Acyclic (t : Tree) : Prop :=
  ∀ id, ¬ TransGen t.Holds id id

theorem acyclic_of_lt {t : Tree} (h : ∀ i, ∀ hi : i < t.nodes.size, ∀ id ∈ t.nodes[i].held,
    id.index < i ∨ t.size ≤ id.index) : t.Acyclic := by
  have hholds {a b : NodeId} (hab : t.Holds a b) :
      a.index < t.size ∧ (b.index < a.index ∨ t.size ≤ b.index) := by
    obtain ⟨n, hn, hb⟩ := hab
    obtain ⟨hlt, rfl⟩ := Array.getElem?_eq_some_iff.mp hn
    exact ⟨hlt, h a.index hlt b hb⟩
  have hlt {a b : NodeId} (hab : TransGen t.Holds a b) :
      a.index < t.size ∧ (b.index < a.index ∨ t.size ≤ b.index) := by
    induction hab with
    | single hab => exact hholds hab
    | tail _ hbc ih =>
      have := hholds hbc
      omega
  intro id hloop
  have := hlt hloop
  omega

end SyntaxGraph.Tree

namespace SyntaxGraph.View

open Relation

def AcyclicBelow (v : View) (root : NodeId) : Prop :=
  ∀ id, ReflTransGen v.Leads root id → ¬ TransGen v.Leads id id

section

variable {v : View} {root a b id : NodeId} {chain : List NodeId}

theorem Leads.lt (ht : v.tree.HeldBefore) (h : v.Leads a b) : b.index < a.index := by
  obtain ⟨_, n, hn, hb⟩ := h.follows.held
  obtain ⟨hlt, rfl⟩ := Array.getElem?_eq_some_iff.mp hn
  exact ht a.index hlt b hb

theorem acyclicBelow_of_heldBefore (h : v.tree.HeldBefore) (root : NodeId) : v.AcyclicBelow root := by
  have hlt {a b : NodeId} (hab : TransGen v.Leads a b) : b.index < a.index := by
    induction hab with
    | single hab => exact hab.lt h
    | tail _ hbc ih => exact (hbc.lt h).trans ih
  exact fun id _ hid => Nat.lt_irrefl _ (hlt hid)

theorem acyclicBelow_of_acyclic (h : v.tree.Acyclic) (root : NodeId) : v.AcyclicBelow root :=
  fun id _ hloop => h id (hloop.lift (fun a => a) fun _ _ hab => hab.follows.held.2)

theorem Leads.lt_size (h : v.Leads a b) : b.index < v.tree.size :=
  lt_size_of_isDrawn h.follows.held.1

theorem chain_lt_size (hc : (root :: chain).IsChain v.Leads) : ∀ id ∈ chain, id.index < v.tree.size := by
  induction chain generalizing root with
  | nil => simp
  | cons a chain ih =>
    obtain ⟨ha, hc⟩ := List.isChain_cons_cons.mp hc
    intro id hid
    rcases List.mem_cons.mp hid with rfl | hid
    · exact ha.lt_size
    · exact ih hc id hid

theorem AcyclicBelow.nodup (h : v.AcyclicBelow root) (hc : (root :: chain).IsChain v.Leads) :
    chain.Nodup := by
  have hp : (root :: chain).Pairwise (TransGen v.Leads) := (hc.imp fun _ _ => .single).pairwise
  obtain ⟨hroot, hp⟩ := List.pairwise_cons.mp hp
  refine hp.imp_of_mem fun ha _ hab heq => ?_
  rw [← heq] at hab
  exact h _ (hroot _ ha).to_reflTransGen hab

theorem AcyclicBelow.length_le (h : v.AcyclicBelow root) (hc : (root :: chain).IsChain v.Leads) :
    chain.length ≤ v.tree.size := by
  have hinj : Function.Injective NodeId.index := fun ⟨i⟩ ⟨j⟩ hij => congrArg NodeId.mk hij
  have hsub : chain.map NodeId.index ⊆ List.range v.tree.size := by
    intro i hi
    obtain ⟨id, hid, rfl⟩ := List.mem_map.mp hi
    exact List.mem_range.mpr (chain_lt_size hc id hid)
  have hle := ((h.nodup hc).map hinj).length_le_of_subset hsub
  rwa [List.length_map, List.length_range] at hle

end

theorem sum_endless {count : NodeId → Extent} {ids : List NodeId}
    (h : (Extent.sum count ids).outcome = .error .endless) :
    ∃ id ∈ ids, (count id).outcome = .error .endless := by
  induction ids with
  | nil => cases h
  | cons id rest ih =>
    unfold Extent.sum at h
    cases ho : (count id).outcome with
    | error e =>
      simp only [ho] at h
      exact ⟨id, List.mem_cons_self, ho.trans h⟩
    | ok u =>
      simp only [ho] at h
      obtain ⟨a, ha, hc⟩ := ih h
      exact ⟨a, List.mem_cons_of_mem _ ha, hc⟩

theorem endless_chain {v : View} {depth : Nat} {id : NodeId}
    (h : (v.extent depth id).outcome = .error .endless) :
    ∃ chain, chain.length = depth ∧ (id :: chain).IsChain v.Leads := by
  induction depth generalizing id with
  | zero => exact ⟨[], rfl, List.isChain_singleton id⟩
  | succ depth ih =>
    unfold extent at h
    cases hr : v.references id with
    | error e =>
      obtain ⟨missing, rfl⟩ := references_error hr
      simp [hr] at h
    | ok children =>
      simp only [hr] at h
      obtain ⟨c, hc, hend⟩ := sum_endless h
      obtain ⟨chain, hlen, hchain⟩ := ih hend
      have hlead : v.Leads id c := by simpa [Leads, View.children, hr] using hc
      exact ⟨c :: chain, by rw [List.length_cons, hlen], List.isChain_cons_cons.mpr ⟨hlead, hchain⟩⟩

theorem AcyclicBelow.extent_ends {v : View} {root : NodeId} (h : v.AcyclicBelow root) :
    (v.extent v.depthLimit root).outcome ≠ .error .endless := by
  intro hend
  obtain ⟨chain, hlen, hc⟩ := endless_chain hend
  have := h.length_le hc
  unfold depthLimit at hlen
  omega

end SyntaxGraph.View
