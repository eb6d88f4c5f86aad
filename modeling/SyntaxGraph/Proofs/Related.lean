import Mathlib.Data.List.Forall2

namespace SyntaxGraph

open Relator

variable {α β γ δ : Type} {r : α → β → Prop} {q : γ → δ → Prop} {xs : List α} {ys : List β}

theorem exists_of_mem_right (h : List.Forall₂ r xs ys) {y : β} (hy : y ∈ ys) : ∃ x ∈ xs, r x y := by
  induction h with
  | nil => cases hy
  | @cons x y' xs ys hxy _ ih =>
    rcases List.mem_cons.mp hy with rfl | hy
    · exact ⟨x, List.mem_cons_self, hxy⟩
    · obtain ⟨x', hx, hxy'⟩ := ih hy
      exact ⟨x', List.mem_cons_of_mem x hx, hxy'⟩

theorem forall₂_through {p : α → γ → Prop} {p' : β → δ → Prop} {zs : List γ} {ws : List δ}
    (h : List.Forall₂ q zs ws) (hp : List.Forall₂ p xs zs) (hp' : List.Forall₂ p' ys ws)
    (hr : ∀ x y z w, p x z → p' y w → q z w → r x y) : List.Forall₂ r xs ys := by
  induction h generalizing xs ys with
  | nil =>
    cases hp
    cases hp'
    exact .nil
  | cons hzw _ ih =>
    cases hp with
    | cons hx hxs =>
      cases hp' with
      | cons hy hys => exact .cons (hr _ _ _ _ hx hy hzw) (ih hxs hys)

theorem forall₂_of_map_eq {f : α → γ} {f' : β → γ} (h : xs.map f = ys.map f') :
    List.Forall₂ (fun x y => f x = f' y) xs ys := by
  rw [← List.forall₂_eq_eq_eq, List.forall₂_map_left_iff, List.forall₂_map_right_iff] at h
  exact h

theorem map_eq_of_forall₂ {f : α → γ} {f' : β → γ} (h : List.Forall₂ (fun x y => f x = f' y) xs ys) :
    xs.map f = ys.map f' := by
  rw [← List.forall₂_eq_eq_eq, List.forall₂_map_left_iff, List.forall₂_map_right_iff]
  exact h

theorem getElem?_rel (h : List.Forall₂ r xs ys) (k : Nat) : Option.Rel r xs[k]? ys[k]? := by
  induction h generalizing k with
  | nil => exact .none
  | cons hxy _ ih =>
    cases k with
    | zero => exact .some hxy
    | succ k => exact ih k

theorem forall₂_of_getElem? (h : List.Forall₂ r xs ys) {r' : α → β → Prop}
    (hr : ∀ (k : Nat) x y, xs[k]? = some x → ys[k]? = some y → r x y → r' x y) : List.Forall₂ r' xs ys := by
  induction h with
  | nil => exact .nil
  | cons hxy _ ih => exact .cons (hr 0 _ _ rfl rfl hxy) (ih fun k => hr (k + 1))

theorem forall₂_modify {f : α → α} {f' : β → β} (h : List.Forall₂ r xs ys) (k : Nat)
    (hf : ∀ x y, xs[k]? = some x → r x y → r (f x) (f' y)) :
    List.Forall₂ r (xs.modify k f) (ys.modify k f') := by
  induction h generalizing k with
  | nil => simp
  | cons hxy hrest ih =>
    cases k with
    | zero => exact .cons (hf _ _ rfl hxy) hrest
    | succ k => exact .cons hxy (ih k fun x y hx => hf x y hx)

theorem forall₂_zip {zs : List γ} {ws : List δ} (h : List.Forall₂ r xs ys) (h' : List.Forall₂ q zs ws) :
    List.Forall₂ (fun p p' => r p.1 p'.1 ∧ q p.2 p'.2) (xs.zip zs) (ys.zip ws) := by
  induction h generalizing zs ws with
  | nil => exact .nil
  | cons hxy _ ih =>
    cases h' with
    | nil => exact .nil
    | cons hzw hrest => exact .cons ⟨hxy, hzw⟩ (ih hrest)

theorem forall₂_zipIdx (h : List.Forall₂ r xs ys) (k : Nat) :
    List.Forall₂ (fun p p' => r p.1 p'.1 ∧ p.2 = p'.2) (xs.zipIdx k) (ys.zipIdx k) := by
  induction h generalizing k with
  | nil => exact .nil
  | cons hxy _ ih => exact .cons ⟨hxy, rfl⟩ (ih (k + 1))

theorem lookup_rel {κ : Type} [BEq κ] {xs : List (κ × α)} {ys : List (κ × β)}
    (h : List.Forall₂ (fun p p' => p.1 = p'.1 ∧ r p.2 p'.2) xs ys) (key : κ) :
    Option.Rel r (xs.lookup key) (ys.lookup key) := by
  induction h with
  | nil => exact .none
  | @cons p p' xs ys hp _ ih =>
    obtain ⟨k, x⟩ := p
    obtain ⟨k', y⟩ := p'
    obtain ⟨rfl, hxy⟩ := hp
    rw [List.lookup_cons, List.lookup_cons]
    cases key == k with
    | true => exact .some hxy
    | false => exact ih

theorem idxOf?_eq [BEq α] [LawfulBEq α] [BEq β] [LawfulBEq β] (hu : BiUnique r) (h : List.Forall₂ r xs ys)
    {x : α} {y : β} (hxy : r x y) : xs.idxOf? x = ys.idxOf? y := by
  induction h with
  | nil => rfl
  | @cons x' y' xs ys hxy' _ ih =>
    have hiff : x' = x ↔ y' = y := rel_eq hu hxy' hxy
    have hbeq : (x' == x) = (y' == y) := by rw [Bool.eq_iff_iff, beq_iff_eq, beq_iff_eq, hiff]
    rw [List.idxOf?_cons, List.idxOf?_cons, ih, hbeq]

end SyntaxGraph
