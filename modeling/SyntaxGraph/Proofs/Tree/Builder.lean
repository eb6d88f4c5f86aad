import SyntaxGraph.Proofs.Tree.Sound

namespace SyntaxGraph

class Splits (m : Type → Type) [Monad m] : Prop where
  pure_inj : ∀ {α : Type} {a b : α}, (pure a : m α) = pure b → a = b
  bind_inv : ∀ {α β : Type} {x : m α} {f : α → m β} {b : β}, x >>= f = pure b →
    ∃ a, x = pure a ∧ f a = pure b

instance : Splits Id where
  pure_inj h := h
  bind_inv h := ⟨_, rfl, h⟩

instance {ε : Type} : Splits (Except ε) where
  pure_inj h := Except.ok.inj h
  bind_inv {_ _ x _ _} h := by
    cases x with
    | error e => cases h
    | ok a => exact ⟨a, rfl, h⟩

section

variable {m : Type → Type} [Monad m] {α β : Type} {pre : List NodeId}
  {mid : α → List NodeId} {post : β → List NodeId}

/-- Whatever roots come before the given ones, the program keeps them and leaves its own roots in the
place of the given ones. -/
def Plants (pre : List NodeId) (x : StateT Tree m β) (post : β → List NodeId) : Prop :=
  ∀ t roots, t.Forest (roots ++ pre) → ∀ b t', x.run t = pure (b, t') → t'.Forest (roots ++ post b)

theorem Plants.pure [Splits m] {b : β} (hb : pre = post b) :
    Plants pre (Pure.pure b : StateT Tree m β) post := by
  intro t roots ht b' t' h
  cases Splits.pure_inj h
  exact hb ▸ ht

theorem Plants.bind [Splits m] {x : StateT Tree m α} {f : α → StateT Tree m β}
    (hx : Plants pre x mid) (hf : ∀ a, Plants (mid a) (f a) post) : Plants pre (x >>= f) post := by
  intro t roots ht b t' h
  obtain ⟨⟨a, t''⟩, ha, hb⟩ := Splits.bind_inv h
  exact hf a t'' roots (hx t roots ht a t'' ha) b t' hb

theorem Plants.frame {x : StateT Tree m β} (h : Plants pre x post) (before : List NodeId) :
    Plants (before ++ pre) x fun b => before ++ post b := by
  intro t roots ht b t' hb
  rw [← List.append_assoc] at ht ⊢
  exact h t (roots ++ before) ht b t' hb

theorem Plants.next [Splits m] {x : StateT Tree m α} {f : α → StateT Tree m β}
    (hx : Plants [] x mid) (hf : ∀ a, Plants (pre ++ mid a) (f a) post) :
    Plants pre (x >>= f) post := by
  have hframe := hx.frame pre
  rw [List.append_nil] at hframe
  exact hframe.bind hf

theorem plants_add [Splits m] {x : StateT Tree m NodeId} {n : Node}
    (hx : ∀ t, x.run t = Pure.pure (t.next, t.add n)) (hn : n.held.Perm pre) :
    Plants pre x fun id => [id] := by
  intro t roots ht id t' h
  cases Splits.pure_inj ((hx t).symm.trans h)
  exact ht.add hn

theorem plants_mapM [Splits m] [LawfulMonad m] {f : α → StateT Tree m NodeId}
    (hf : ∀ a, Plants [] (f a) fun id => [id]) (as : List α) :
    Plants [] (as.mapM f) fun ids => ids := by
  induction as with
  | nil =>
    rw [List.mapM_nil]
    exact .pure rfl
  | cons a as ih =>
    rw [List.mapM_cons]
    exact (hf a).next fun id => ih.next fun ids => .pure rfl

theorem Plants.sound {x : StateT Tree m NodeId} (h : Plants [] x fun id => [id]) {root : NodeId}
    {t : Tree} (hx : x.run .empty = Pure.pure (root, t)) : (t.withRoot root).Sound :=
  (h .empty [] Tree.forest_empty root t hx).sound

end

end SyntaxGraph
