import SyntaxGraph.Proofs.Json.Canonical

namespace SyntaxGraph.Json.Reader

variable {α β : Type} {x : Reader α} {f : α → Reader β} {text text' text'' : List Char} {a : α} {b : β}

/-- The reader takes the value from the front of the text, wherever the text stands, and stops at the
rest. -/
def Yields (x : Reader α) (text : List Char) (a : α) (rest : List Char) : Prop :=
  ∀ p, ∃ p', x ⟨text, p⟩ = .ok a ⟨rest, p'⟩

theorem Yields.pure : Yields (Pure.pure a) text a text :=
  fun p => ⟨p, rfl⟩

theorem Yields.bind (hx : Yields x text a text') (hf : Yields (f a) text' b text'') :
    Yields (x >>= f) text b text'' := by
  intro p
  obtain ⟨p', hp'⟩ := hx p
  obtain ⟨p'', hp''⟩ := hf p'
  refine ⟨p'', ?_⟩
  change EStateM.bind x f ⟨text, p⟩ = .ok b ⟨text'', p''⟩
  unfold EStateM.bind
  rw [hp']
  exact hp''

theorem Yields.get {f : Cursor → Reader α} (h : ∀ p, Yields (f ⟨text, p⟩) text a text') :
    Yields (MonadState.get >>= f) text a text' :=
  fun p => h p p

theorem Yields.placed (hx : Yields x text a text') : Yields x.placed text a text' := by
  intro p
  obtain ⟨p', hp'⟩ := hx p
  refine ⟨p', ?_⟩
  unfold Reader.placed
  rw [hp']

theorem Yields.closedBy {closing : Reader Unit} (hx : Yields x text a text')
    (hc : Yields closing text' () text'') : Yields (x.closedBy closing) text a text'' := by
  intro p
  obtain ⟨p', hp'⟩ := hx p
  obtain ⟨p'', hp''⟩ := hc p'
  refine ⟨p'', ?_⟩
  unfold Reader.closedBy
  rw [hp']
  dsimp only
  rw [hp'']

theorem yields_peek : Yields peek text text.head? text :=
  fun p => ⟨p, rfl⟩

theorem yields_skip {c : Char} : Yields skip (c :: text) () text :=
  fun p => ⟨p.char c, rfl⟩

theorem yields_takeWhile {test : Char → Bool} :
    Yields (takeWhile test) text (text.takeWhile test) (text.dropWhile test) :=
  fun _ => ⟨_, rfl⟩

theorem yields_takeWhile_append {test : Char → Bool} {front : List Char} (hf : ∀ c ∈ front, test c = true)
    (hr : ∀ c ∈ text.head?, test c = false) : Yields (takeWhile test) (front ++ text) front text := by
  have h : Yields (takeWhile test) (front ++ text) _ _ := yields_takeWhile
  rw [List.takeWhile_append_of_pos hf, List.dropWhile_append_of_pos hf] at h
  cases text with
  | nil => simpa using h
  | cons c text =>
    have hc : ¬ test c = true := Bool.not_eq_true _ ▸ hr c rfl
    rwa [List.takeWhile_cons_of_neg hc, List.dropWhile_cons_of_neg hc, List.append_nil] at h

theorem yields_peekToken {blanks : List Char} (hb : ∀ c ∈ blanks, isBlank c = true)
    (ht : ∀ c ∈ text.head?, isBlank c = false) : Yields peekToken (blanks ++ text) text.head? text :=
  .bind (yields_takeWhile_append hb ht) yields_peek

theorem eq_of_yields {p : Place} {s : Cursor} {b : α} (hb : x ⟨text, p⟩ = .ok b s)
    (hx : Yields x text a text') : b = a := by
  obtain ⟨p', hp'⟩ := hx p
  cases hb.symm.trans hp'
  rfl

theorem false_of_yields {p : Place} {s : Cursor} {e : Fault} (he : x ⟨text, p⟩ = .error e s)
    (hx : Yields x text a text') : False := by
  obtain ⟨p', hp'⟩ := hx p
  cases he.symm.trans hp'

theorem Yields.run_eq {text : String} (hx : Yields x text.toList a []) : x.run text = .ok a := by
  have hend : Yields peekToken ([] ++ []) none [] := yields_peekToken nofun nofun
  unfold run
  dsimp only
  split
  · next b s hb =>
    have hab : b = a := eq_of_yields hb (.bind hx (.bind hend .pure))
    rw [hab]
  · next e s he => exact (false_of_yields he (.bind hx (.bind hend .pure))).elim

theorem hexValue?_hexDigit {n : Nat} (h : n < 16) : Text.hexValue? (hexDigit n) = some n := by
  revert n
  decide

theorem yields_fourDigits {digits : List Char} {a b c d : Nat}
    (h : digits.mapM Text.hexValue? = some [a, b, c, d]) (hl : digits.length = 4) :
    Yields fourDigits (digits ++ text) (((a * 16 + b) * 16 + c) * 16 + d) text := by
  refine .get fun p => ?_
  dsimp only
  rw [List.take_left' hl, List.drop_left' hl, h]
  exact fun _ => ⟨_, rfl⟩

theorem yields_codePoint {c : Char} (h : c < ' ') :
    Yields codePoint (['0', '0', hexDigit (c.toNat / 16), hexDigit (c.toNat % 16)] ++ text) c text := by
  have hc : c.toNat < 32 := h
  have hdigits : ['0', '0', hexDigit (c.toNat / 16), hexDigit (c.toNat % 16)].mapM Text.hexValue?
      = some [0, 0, c.toNat / 16, c.toNat % 16] := by
    have hzero : Text.hexValue? '0' = some 0 := rfl
    have hhigh := hexValue?_hexDigit (n := c.toNat / 16) (by omega)
    have hlow := hexValue?_hexDigit (n := c.toNat % 16) (by omega)
    simp only [List.mapM_cons, List.mapM_nil, hzero, hhigh, hlow]
    rfl
  have hvalue : ((0 * 16 + 0) * 16 + c.toNat / 16) * 16 + c.toNat % 16 = c.toNat := by omega
  have htrailing : isTrailingSurrogate c.toNat = false := by
    simp only [isTrailingSurrogate, Bool.and_eq_false_iff, decide_eq_false_iff_not]
    omega
  have hleading : isLeadingSurrogate c.toNat = false := by
    simp only [isLeadingSurrogate, Bool.and_eq_false_iff, decide_eq_false_iff_not]
    omega
  refine .bind (hvalue ▸ yields_fourDigits hdigits rfl) ?_
  simp only [htrailing, hleading, Bool.false_eq_true, ↓reduceIte, Char.ofNat_toNat]
  exact .pure

theorem isPlain_iff {c : Char} : isPlain c = true ↔ (c ≠ '"' ∧ c ≠ '\\') ∧ ¬ c < ' ' := by
  simp [isPlain]

theorem escapeChar_eq_self {c : Char} (h : isPlain c = true) : escapeChar c = [c] := by
  obtain ⟨⟨hquote, hbackslash⟩, hge⟩ := isPlain_iff.mp h
  unfold escapeChar
  split
  case h_8 => rw [if_neg hge]
  all_goals cases h

theorem escapeChar_eq_cons {c : Char} (h : isPlain c = false) :
    ∃ code, escapeChar c = '\\' :: code ∧ ∀ text, Yields escaped (code ++ text) c text := by
  unfold escapeChar
  split
  case h_8 hquote hbackslash _ _ _ _ _ =>
    have hlt : c < ' ' := Decidable.byContradiction fun hge =>
      Bool.false_ne_true (h.symm.trans (isPlain_iff.mpr ⟨⟨hquote, hbackslash⟩, hge⟩))
    rw [if_pos hlt]
    exact ⟨_, rfl, fun text => .bind yields_peek (.bind yields_skip (yields_codePoint hlt))⟩
  all_goals exact ⟨_, rfl, fun text => .bind yields_peek (.bind yields_skip .pure)⟩

theorem flatMap_escapeChar {chars : List Char} (h : ∀ c ∈ chars, isPlain c = true) :
    chars.flatMap escapeChar = chars := by
  induction chars with
  | nil => rfl
  | cons c chars ih =>
    obtain ⟨hc, hchars⟩ := List.forall_mem_cons.mp h
    rw [List.flatMap_cons, escapeChar_eq_self hc, ih hchars]
    rfl

theorem yields_stringRest {n : Nat} {chars : List Char} (h : chars.length < n) (before : String) :
    Yields (stringRest n before) (chars.flatMap escapeChar ++ '"' :: text)
      (before ++ String.ofList chars) text := by
  induction n generalizing chars before with
  | zero => omega
  | succ n ih =>
    -- the plain characters in front are taken at once; behind them is the closing quote or an escape
    have hfront : ∀ c ∈ chars.takeWhile isPlain, isPlain c = true := List.all_eq_true.mp List.all_takeWhile
    have hback := List.head?_dropWhile_not isPlain chars
    have hchars : chars.takeWhile isPlain ++ chars.dropWhile isPlain = chars := List.takeWhile_append_dropWhile
    generalize chars.takeWhile isPlain = front at *
    generalize chars.dropWhile isPlain = back at *
    subst hchars
    rw [List.flatMap_append, flatMap_escapeChar hfront, List.append_assoc]
    unfold stringRest
    cases back with
    | nil =>
      rw [List.append_nil]
      refine .bind (yields_takeWhile_append hfront ?_) (.bind yields_peek (.bind yields_skip .pure))
      exact fun c hc => Option.some.inj hc ▸ rfl
    | cons c back =>
      obtain ⟨code, hcode, hescaped⟩ := escapeChar_eq_cons hback
      have hlength : back.length < n := by
        rw [List.length_append, List.length_cons] at h
        omega
      have hread : (before ++ String.ofList front).push c ++ String.ofList back
          = before ++ String.ofList (front ++ c :: back) := by
        apply String.toList_injective
        simp
      rw [List.flatMap_cons, hcode, List.cons_append, List.cons_append, List.append_assoc]
      refine .bind (yields_takeWhile_append hfront ?_) ?_
      · exact fun c hc => Option.some.inj hc ▸ rfl
      · refine .bind yields_peek (.bind yields_skip (.bind (hescaped _) ?_))
        exact hread ▸ ih hlength _

theorem length_le_flatMap_escapeChar (chars : List Char) :
    chars.length ≤ (chars.flatMap escapeChar).length := by
  induction chars with
  | nil => exact Nat.le_refl 0
  | cons c chars ih =>
    have hc : 0 < (escapeChar c).length := by
      by_cases h : isPlain c = true
      · rw [escapeChar_eq_self h]
        exact Nat.one_pos
      · obtain ⟨code, hcode, -⟩ := escapeChar_eq_cons (Bool.not_eq_true _ ▸ h)
        rw [hcode]
        exact Nat.succ_pos _
    rw [List.flatMap_cons, List.length_append, List.length_cons]
    omega

theorem toList_writeString (s : String) :
    (writeString s).toList = '"' :: (s.toList.flatMap escapeChar ++ ['"']) := by
  simp [writeString]

theorem yields_string (s : String) : Yields string ((writeString s).toList ++ text) s text := by
  have hlength : s.toList.length < (s.toList.flatMap escapeChar ++ '"' :: text).length + 1 := by
    have hle := length_le_flatMap_escapeChar s.toList
    rw [List.length_append]
    omega
  rw [toList_writeString, List.cons_append, List.append_assoc]
  refine .bind yields_skip (.get fun p => ?_)
  have h : Yields _ (_ ++ '"' :: text) _ text := yields_stringRest hlength ""
  rwa [String.ofList_toList, String.empty_append] at h

theorem le_foldl_digitValue (digits : List Char) (n : Nat) :
    n ≤ digits.foldl (fun n c => 10 * n + Decimal.digitValue c) n := by
  induction digits generalizing n with
  | nil => exact Nat.le_refl n
  | cons c digits ih =>
    have hle := ih (10 * n + Decimal.digitValue c)
    rw [List.foldl_cons]
    omega

theorem gather_eq {limit n : Nat} {digits : List Char}
    (h : digits.foldl (fun n c => 10 * n + Decimal.digitValue c) n ≤ limit) :
    gather limit n digits = (digits.foldl (fun n c => 10 * n + Decimal.digitValue c) n, []) := by
  induction digits generalizing n with
  | nil => rfl
  | cons c digits ih =>
    have hle := le_foldl_digitValue digits (10 * n + Decimal.digitValue c)
    rw [List.foldl_cons] at h ⊢
    unfold gather
    dsimp only
    rw [if_neg (by omega), ih h]

theorem head?_toDigits_ne {n : Nat} (h : n ≠ 0) : (Nat.toDigits 10 n).head? ≠ some '0' := by
  induction n using Nat.strongRecOn with
  | ind n ih =>
    rw [Nat.toDigits_eq_if (by decide)]
    split
    · exact fun hc => h (Nat.digitChar_eq_zero.mp (Option.some.inj hc))
    · next hge =>
      rw [List.head?_append, Option.or_of_isSome (List.isSome_head?.mpr Nat.toDigits_ne_nil)]
      exact ih (n / 10) (by omega) (by omega)

theorem head?_toDigits_append (n : Nat) : (Nat.toDigits 10 n ++ text).head? = (Nat.toDigits 10 n).head? := by
  rw [List.head?_append, Option.or_of_isSome (List.isSome_head?.mpr Nat.toDigits_ne_nil)]

def Ends (text : List Char) : Prop :=
  ∀ c ∈ text.head?, c.isDigit = false ∧ c ≠ '.' ∧ c ≠ 'e' ∧ c ≠ 'E'

theorem yields_afterWhole {positive : Bool} {digits : Nat} (h : Ends text) :
    Yields (afterWhole positive digits 0) text (wholeNumber positive digits) text := by
  refine .bind yields_peek ?_
  split
  · next hc => exact absurd rfl (h _ hc).2.1
  · next hc => exact absurd rfl (h _ hc).2.2.1
  · next hc => exact absurd rfl (h _ hc).2.2.2
  · exact .pure

theorem yields_unsignedNumber {positive : Bool} {n : Nat} (hn : n < Nat.pow 2 64) (h : Ends text) :
    Yields (unsignedNumber positive) (Nat.toDigits 10 n ++ text) (wholeNumber positive n) text := by
  -- zero is a digit of its own; any other number begins with another digit, so all its digits are read
  by_cases hzero : n = 0
  · subst hzero
    refine .bind yields_peek (.bind yields_skip (.bind yields_peek ?_))
    split
    · next c hc =>
      rw [(h c hc).1]
      exact yields_afterWhole h
    · exact yields_afterWhole h
  · have hdigits : ∀ c ∈ Nat.toDigits 10 n, c.isDigit = true :=
      fun c hc => Nat.isDigit_of_mem_toDigits (by decide) (by decide) hc
    have hvalue : (Nat.toDigits 10 n).foldl (fun n c => 10 * n + Decimal.digitValue c) 0 = n :=
      Nat.ofDigitChars_ten_toDigits
    have hgather : gather (Nat.pow 2 64 - 1) 0 (Nat.toDigits 10 n) = (n, []) := by
      rw [gather_eq, hvalue]
      rw [hvalue]
      exact Nat.le_sub_one_of_lt hn
    refine .bind yields_peek ?_
    rw [head?_toDigits_append]
    split
    · next hc => exact absurd (List.head?_eq_none_iff.mp hc) Nat.toDigits_ne_nil
    · next hc => exact absurd hc (head?_toDigits_ne hzero)
    · next c _ hc =>
      rw [hdigits c (List.mem_of_head? hc)]
      refine .bind (yields_takeWhile_append hdigits fun c hc => (h c hc).1) ?_
      rw [hgather]
      exact yields_afterWhole h

theorem yields_number (n : UInt64) (h : Ends text) :
    Yields number ((toString n.toNat).toList ++ text) (.natural n) text := by
  rw [Nat.toString_eq_ofList_toDigits, String.toList_ofList]
  refine .bind yields_peek ?_
  split
  · next hc =>
    rw [head?_toDigits_append] at hc
    cases Nat.isDigit_of_mem_toDigits (by decide) (by decide) (List.mem_of_head? hc)
  · have hread : Yields (unsignedNumber true) _ _ text := yields_unsignedNumber n.toNat_lt h
    rwa [wholeNumber, if_pos rfl, Nat.toUInt64, UInt64.ofNat_toNat] at hread

theorem exists_yields_number {z : Int} (hlow : -Nat.pow 2 63 ≤ z) (hhigh : z < Nat.pow 2 64) :
    ∃ m : Number, m.integer? = some z ∧
      ∀ text, Ends text → Yields number ((toString z).toList ++ text) m text := by
  cases z with
  | ofNat n =>
    have hn : n.toUInt64.toNat = n := UInt64.toNat_ofNat_of_lt' (Int.ofNat_lt.mp hhigh)
    refine ⟨.natural n.toUInt64, congrArg (fun n : Nat => some (n : Int)) hn, fun text h => ?_⟩
    have hread := yields_number n.toUInt64 h
    rwa [hn] at hread
  | negSucc n =>
    have hle : n + 1 ≤ Nat.pow 2 63 := by omega
    have hnumber : wholeNumber false (n + 1) = .negative (Int64.ofInt (-(n + 1 : Nat))) := by
      rw [wholeNumber, if_neg Bool.false_ne_true, if_pos ⟨n.succ_pos, hle⟩]
    refine ⟨wholeNumber false (n + 1), ?_, fun text h => ?_⟩
    · rw [hnumber, Number.integer?, toInt_ofInt_neg hle]
      rfl
    · have hwritten : (toString (Int.negSucc n)).toList = '-' :: Nat.toDigits 10 (n + 1) := by
        change ("-" ++ toString (n + 1)).toList = _
        simp
      have hlt : n + 1 < Nat.pow 2 64 := Nat.lt_of_le_of_lt hle (by decide)
      rw [hwritten]
      exact .bind yields_peek (.bind yields_skip (yields_unsignedNumber hlt h))

end SyntaxGraph.Json.Reader
