import SyntaxGraph.Json.Reader

namespace SyntaxGraph.Json

def Number.Canonical : Number → Prop
  | negative i => i < 0
  | _ => True

def Number.integer? : Number → Option Int
  | natural n => some n.toNat
  | negative i => some i.toInt
  | float _ => none

inductive Value.Canonical : Value → Prop where
  | null : Canonical .null
  | bool {b : Bool} : Canonical (.bool b)
  | number {n : Number} : n.Canonical → Canonical (.number n)
  | string {s : String} : Canonical (.string s)
  | array {items : List Value} : (∀ v ∈ items, v.Canonical) → Canonical (.array items)
  | object {members : List (String × Value)} : (∀ m ∈ members, m.2.Canonical) → Canonical (.object members)

namespace Value

theorem canonical_number {n : Number} : (number n).Canonical ↔ n.Canonical :=
  ⟨fun | .number h => h, .number⟩

theorem canonical_array {items : List Value} : (array items).Canonical ↔ ∀ v ∈ items, v.Canonical :=
  ⟨fun | .array h => h, .array⟩

theorem canonical_object {members : List (String × Value)} :
    (object members).Canonical ↔ ∀ m ∈ members, m.2.Canonical :=
  ⟨fun | .object h => h, .object⟩

end Value

namespace Reader

variable {α β σ : Type} {P : α → Prop} {Q : β → Prop} {x : Reader α} {f : α → Reader β}

/-- Whatever the reader takes from a text has the property. -/
def Gives (P : α → Prop) (x : Reader α) : Prop :=
  ∀ s a s', x s = .ok a s' → P a

theorem of_gives {s s' : Cursor} {a : α} (ha : x s = .ok a s') (hx : Gives P x) : P a :=
  hx s a s' ha

theorem Gives.pure {a : α} (h : P a) : Gives P (Pure.pure a) := by
  intro s a' s' hr
  cases hr
  exact h

theorem Gives.bind (hx : Gives P x) (hf : ∀ a, P a → Gives Q (f a)) : Gives Q (x >>= f) := by
  intro s b s'' hr
  change EStateM.bind x f s = .ok b s'' at hr
  unfold EStateM.bind at hr
  split at hr
  · next a s' ha => exact hf a (hx s a s' ha) s' b s'' hr
  · cases hr

theorem Gives.after (hf : ∀ a, Gives Q (f a)) : Gives Q (x >>= f) :=
  .bind (P := fun _ => True) (fun _ _ _ _ => trivial) fun a _ => hf a

theorem gives_fail (r : Reason) : Gives P (fail r) := by
  intro s a s' hr
  cases hr

theorem gives_failNext (r : Reason) : Gives P (failNext r) := by
  refine .after fun s => ?_
  split <;> · intro s a s' hr; cases hr

theorem Gives.closedBy {closing : Reader Unit} (hx : Gives P x) : Gives P (x.closedBy closing) := by
  intro s a s' hr
  unfold Reader.closedBy at hr
  split at hr
  · next b s₁ hb =>
    split at hr
    · cases hr
      exact hx s a s₁ hb
    · cases hr
  · split at hr <;> cases hr

theorem toInt_ofInt_neg {digits : Nat} (h : digits ≤ Nat.pow 2 63) : (Int64.ofInt (-digits)).toInt = -digits := by
  have hle : digits ≤ 2 ^ 63 := h
  apply Int64.toInt_ofInt_of_le <;> omega

theorem canonical_wholeNumber (positive : Bool) (digits : Nat) : (wholeNumber positive digits).Canonical := by
  unfold wholeNumber
  split
  · trivial
  · split
    · next h =>
      have hneg : Int64.ofInt (-digits) < 0 := by
        rw [Int64.lt_iff_toInt_lt, toInt_ofInt_neg h.2]
        have hzero : (0 : Int64).toInt = 0 := rfl
        omega
      exact hneg
    · trivial

theorem gives_scaled (positive : Bool) (digits : Nat) (exponent : Int) :
    Gives Number.Canonical (scaled positive digits exponent) := by
  unfold scaled
  split
  · exact .pure trivial
  · exact gives_fail _

theorem gives_exponentPart (positive : Bool) (digits : Nat) (start : Int) :
    Gives Number.Canonical (exponentPart positive digits start) := by
  unfold exponentPart
  refine .after fun _ => .after fun upward => .after fun next => ?_
  split
  · exact gives_fail _
  · split
    · exact gives_failNext _
    · refine .after fun s => ?_
      dsimp only
      generalize gather (Nat.pow 2 31 - 1) 0 (s.rest.takeWhile Char.isDigit) = g
      by_cases hl : g.2.isEmpty
      · rw [if_pos hl]
        exact .after fun _ => gives_scaled _ _ _
      · rw [if_neg hl]
        by_cases hu : digits ≠ 0 ∧ upward = true
        · rw [if_pos hu]
          exact .after fun _ => gives_fail _
        · rw [if_neg hu]
          exact .after fun _ => .pure trivial

theorem gives_afterDigits (positive : Bool) (digits : Nat) (exponent : Int) :
    Gives Number.Canonical (afterDigits positive digits exponent) := by
  refine .after fun next => ?_
  split
  · exact gives_exponentPart _ _ _
  · exact gives_exponentPart _ _ _
  · exact gives_scaled _ _ _

theorem gives_fractionPart (positive : Bool) (digits : Nat) (exponent : Int) :
    Gives Number.Canonical (fractionPart positive digits exponent) := by
  unfold fractionPart
  refine .after fun _ => .after fun run => ?_
  split
  split
  · refine .after fun next => ?_
    split <;> exact gives_failNext _
  · exact gives_afterDigits _ _ _

theorem gives_afterWhole (positive : Bool) (digits lost : Nat) :
    Gives Number.Canonical (afterWhole positive digits lost) := by
  unfold afterWhole
  refine .after fun next => ?_
  split
  · exact gives_fractionPart _ _ _
  · exact gives_exponentPart _ _ _
  · exact gives_exponentPart _ _ _
  · split
    · exact .pure (canonical_wholeNumber _ _)
    · exact gives_scaled _ _ _

theorem gives_unsignedNumber (positive : Bool) : Gives Number.Canonical (unsignedNumber positive) := by
  unfold unsignedNumber
  refine .after fun next => ?_
  split
  · exact gives_fail _
  · refine .after fun _ => .after fun next => ?_
    split
    · split
      · exact gives_failNext _
      · exact gives_afterWhole _ _ _
    · exact gives_afterWhole _ _ _
  · split
    · exact gives_failNext _
    · refine .after fun run => ?_
      split
      exact gives_afterWhole _ _ _

theorem gives_number : Gives Number.Canonical number := by
  unfold number
  refine .after fun next => ?_
  split
  · exact .after fun _ => gives_unsignedNumber _
  · exact gives_unsignedNumber _

theorem gives_foldItems {step : σ → Reader σ} {I : σ → Prop} (hstep : ∀ s, I s → Gives I (step s)) (n : Nat)
    (first : Bool) {s : σ} (hs : I s) : Gives I (foldItems step n first s) := by
  induction n generalizing first s with
  | zero => exact .pure hs
  | succ n ih =>
    unfold foldItems
    refine .after fun more => ?_
    split
    · exact .bind (hstep s hs) fun s' hs' => ih false hs'
    · exact .pure hs

theorem gives_foldMembers {step : σ → String → Reader σ} {I : σ → Prop}
    (hstep : ∀ s key, I s → Gives I (step s key)) (n : Nat) (first : Bool) {s : σ} (hs : I s) :
    Gives I (foldMembers step n first s) := by
  induction n generalizing first s with
  | zero => exact .pure hs
  | succ n ih =>
    unfold foldMembers
    refine .after fun more => ?_
    split
    · exact .after fun key => .bind (hstep s key hs) fun s' hs' => ih false hs'
    · exact .pure hs

theorem gives_list {item : Reader α} (h : Gives P item) : Gives (fun as => ∀ a ∈ as, P a) (list item) := by
  unfold list
  refine .after fun s => ?_
  refine .bind (P := fun as => ∀ a ∈ as, P a) (.closedBy (.after fun _ => ?_)) fun as has => .pure ?_
  · refine gives_foldItems (fun as has => ?_) _ _ nofun
    exact .bind h fun a ha => .pure (List.forall_mem_cons.mpr ⟨ha, has⟩)
  · exact fun a ha => has a (List.mem_reverse.mp ha)

theorem gives_object {item : Reader α} (h : Gives P item) :
    Gives (fun ms => ∀ m ∈ ms, P m.2) (object item) := by
  unfold object
  refine .after fun s => .closedBy (.after fun _ => ?_)
  refine gives_foldMembers (fun ms key hms => ?_) _ _ nofun
  exact .after fun _ => .bind h fun a ha => .pure (forall_mem_insertEntry hms key ha)

theorem gives_atom (c : Char) : Gives Value.Canonical (atom c) := by
  unfold atom
  split
  · exact .after fun _ => .pure .null
  · exact .after fun _ => .pure .bool
  · exact .after fun _ => .pure .bool
  · exact .after fun _ => .pure .string
  · split
    · exact .bind gives_number fun n hn => .pure (.number hn)
    · exact gives_failNext _

theorem gives_valueWith {list object : Reader Value} (hl : Gives Value.Canonical list)
    (ho : Gives Value.Canonical object) : Gives Value.Canonical (valueWith list object) := by
  unfold valueWith
  refine .after fun next => ?_
  split
  · exact gives_failNext _
  · exact hl
  · exact ho
  · exact gives_atom _

theorem gives_value (depth : Nat) : Gives Value.Canonical (value depth) := by
  induction depth with
  | zero => exact gives_valueWith (gives_failNext _) (gives_failNext _)
  | succ depth ih =>
    refine gives_valueWith ?_ ?_
    · exact .bind (gives_list ih) fun items hitems => .pure (.array hitems)
    · exact .bind (gives_object ih) fun members hmembers => .pure (.object hmembers)

end Reader

theorem canonical_read {text : String} {v : Value} (h : read text = .ok v) : v.Canonical := by
  unfold read Reader.run at h
  dsimp only at h
  split at h
  · next a s ha =>
    cases h
    refine Reader.of_gives ha (.bind (Reader.gives_value depthLimit) fun v hv => .after fun next => ?_)
    split
    · exact Reader.gives_failNext _
    · exact .pure hv
  · cases h

end SyntaxGraph.Json
