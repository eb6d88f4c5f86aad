import SyntaxGraph.Source.Literal

namespace SyntaxGraph.Source

open Text (Scan hexValue?)
open Text.Scan

def bases : List (Nat × List Char) :=
  [(10, []), (16, ['0', 'x']), (8, ['0', 'o']), (2, ['0', 'b'])]

def IsDigit (base : Nat) (c : Char) : Prop :=
  c = '_' ∨ ∃ d < base, hexValue? c = some d

def valueFrom (base start : Nat) (digits : List Char) : Nat :=
  (digits.filterMap hexValue?).foldl (fun n d => n * base + d) start

/-- The text has the longest beginning of a base that it can have, then all digits that follow, then a
suffix. -/
structure Spelling (text : List Char) (base : Nat) (sign digits suffix : List Char) : Prop where
  parts : text = sign ++ digits ++ suffix
  known : (base, sign) ∈ bases
  longest : ∀ other ∈ bases, other.2 <+: text → other.2 <+: sign
  digits : ∀ c ∈ digits, IsDigit base c
  suffix : ∀ c ∈ suffix.head?, ¬ IsDigit base c

def Literal.SpelledBy (l : Literal) (text : List Char) : Prop :=
  ∃ base sign digits suffix, Spelling text base sign digits suffix ∧
    l = .integer (valueFrom base 0 digits) (String.ofList suffix)

section

variable {base n length number start : Nat} {value : Option Nat} {text : List Char} {c : Char}

theorem baseOf_spec (text : List Char) :
    ∃ base sign after, baseOf text = (base, sign.length) ∧ (base, sign) ∈ bases ∧
      text = sign ++ after ∧ ∀ other ∈ bases, other.2 <+: text → other.2 <+: sign := by
  unfold baseOf
  split
  · exact ⟨16, ['0', 'x'], _, rfl, by simp [bases], rfl, by simp [bases]⟩
  · exact ⟨8, ['0', 'o'], _, rfl, by simp [bases], rfl, by simp [bases]⟩
  · exact ⟨2, ['0', 'b'], _, rfl, by simp [bases], rfl, by simp [bases]⟩
  · next hx ho hb =>
    refine ⟨10, [], _, rfl, by simp [bases], rfl, ?_⟩
    simp only [bases, List.forall_mem_cons]
    refine ⟨fun _ => List.prefix_refl [], ?_, ?_, ?_, nofun⟩
    · rintro ⟨after, rfl⟩
      exact (hx after rfl).elim
    · rintro ⟨after, rfl⟩
      exact (ho after rfl).elim
    · rintro ⟨after, rfl⟩
      exact (hb after rfl).elim

def Begins (base n length start number : Nat) (text : List Char) : Prop :=
  ∃ digits after, text = digits ++ after ∧ length = n + digits.length ∧
    number = valueFrom base start digits ∧
    (∀ c ∈ digits, IsDigit base c) ∧ ∀ c ∈ after.head?, ¬ IsDigit base c

theorem begins_of_stop (h : value.map (n, ·) = some (length, number))
    (hend : ∀ c ∈ text.head?, ¬ IsDigit base c) : Begins base n length (value.getD 0) number text := by
  obtain ⟨v, rfl, hpair⟩ := Option.map_eq_some_iff.mp h
  cases hpair
  exact ⟨[], text, rfl, rfl, rfl, nofun, hend⟩

theorem Begins.cons (h : Begins base (n + 1) length (valueFrom base start [c]) number text)
    (hc : IsDigit base c) : Begins base n length start number (c :: text) := by
  obtain ⟨digits, after, rfl, rfl, rfl, hdigits, hend⟩ := h
  refine ⟨c :: digits, after, rfl, ?_, ?_, List.forall_mem_cons.mpr ⟨hc, hdigits⟩, hend⟩
  · rw [List.length_cons]
    omega
  · cases hd : hexValue? c <;> simp [valueFrom, hd]

theorem wholeDigits_begins (h : wholeDigits base n value text = some (length, number)) :
    Begins base n length (value.getD 0) number text := by
  induction text generalizing n value with
  | nil => exact begins_of_stop h nofun
  | cons c text ih =>
    unfold wholeDigits at h
    split at h
    · next hc =>
      subst hc
      split at h
      · cases h
      · exact (ih h).cons (Or.inl rfl)
    · next hc =>
      split at h
      · next hnone =>
        refine begins_of_stop h ?_
        rintro _ ⟨⟩ (rfl | ⟨d, _, hd⟩)
        · exact hc rfl
        · cases hnone.symm.trans hd
      · next d hd =>
        have hfrom : valueFrom base (value.getD 0) [c] = value.getD 0 * base + d := by
          simp [valueFrom, hd]
        split at h
        · next hlt => exact (hfrom ▸ ih h).cons (Or.inr ⟨d, hlt, hd⟩)
        · next hge =>
          split at h
          · cases h
          · refine begins_of_stop h ?_
            rintro _ ⟨⟩ (rfl | ⟨d', hlt, hd'⟩)
            · exact hc rfl
            · cases hd.symm.trans hd'
              exact hge hlt

end

section

variable {α β : Type} {x y : Scan α} {f : α → Scan β}
variable {P P' : α → List Char → Prop} {Q : β → List Char → Prop}

def Scans (x : Scan α) (P : α → List Char → Prop) : Prop :=
  ∀ s a s', x.run s = some (a, s') → ∃ front, s.rest = front ++ s'.rest ∧ P a front

theorem Scans.pure {a : α} (h : P a []) : Scans (Pure.pure a) P := by
  intro s a' s' hr
  cases hr
  exact ⟨[], rfl, h⟩

theorem Scans.failure : Scans failure P := by
  intro s a s' hr
  cases hr

theorem Scans.imp (hx : Scans x P) (h : ∀ a front, P a front → P' a front) : Scans x P' := by
  intro s a s' hr
  obtain ⟨front, hfront, ha⟩ := hx s a s' hr
  exact ⟨front, hfront, h a front ha⟩

theorem Scans.bind (hx : Scans x P)
    (hf : ∀ a front, P a front → Scans (f a) fun b back => Q b (front ++ back)) : Scans (x >>= f) Q := by
  intro s b s'' hr
  rw [StateT.run_bind] at hr
  obtain ⟨⟨a, s'⟩, ha, hb⟩ := Option.bind_eq_some_iff.mp hr
  obtain ⟨front, hfront, hP⟩ := hx s a s' ha
  obtain ⟨back, hback, hQ⟩ := hf a front hP s' b s'' hb
  exact ⟨front ++ back, by rw [hfront, hback, List.append_assoc], hQ⟩

theorem Scans.orElse (hx : Scans x P) (hy : Scans y P) : Scans (x <|> y) P := by
  intro s a s' hr
  change (x.run s <|> y.run s) = some (a, s') at hr
  cases hxs : x.run s with
  | none =>
    rw [hxs] at hr
    exact hy s a s' hr
  | some r =>
    rw [hxs] at hr
    exact hx s a s' (hxs.trans hr)

theorem scans_peek : Scans peek fun _ front => front = [] := by
  intro s a s' hr
  cases hr
  exact ⟨[], rfl, rfl⟩

theorem scans_next : Scans next fun c front => front = [c] := by
  rintro ⟨text, place⟩ c s' hr
  cases text with
  | nil => cases hr
  | cons c' text =>
    cases hr
    exact ⟨[c], rfl, rfl⟩

theorem scans_take (n : Nat) : Scans (take n) fun _ front => front.length = n := by
  induction n with
  | zero => exact .pure rfl
  | succ n ih =>
    refine scans_next.bind fun c front hfront => ih.imp fun _ back hback => ?_
    rw [hfront, List.length_append, hback, List.length_singleton]
    omega

theorem scans_takeWhile (test : Char → Bool) : Scans (takeWhile test) fun taken front => front = taken := by
  intro s a s' hr
  have htake : Scans (do take (s.rest.takeWhile test).length; return s.rest.takeWhile test)
      fun a front => front.length = (s.rest.takeWhile test).length ∧ a = s.rest.takeWhile test :=
    (scans_take _).bind fun _ front hfront => .pure ⟨by rw [List.append_nil, hfront], rfl⟩
  obtain ⟨front, hfront, hlength, rfl⟩ := htake s a s' hr
  refine ⟨front, hfront, ?_⟩
  -- Both stand in front of the text and are of one length.
  have hprefix : front <+: s.rest := ⟨s'.rest, hfront.symm⟩
  have hshorter :=
    List.prefix_of_prefix_length_le hprefix (List.takeWhile_prefix test) (Nat.le_of_eq hlength)
  exact hshorter.eq_of_length hlength

theorem scans_nextIf (test : Char → Bool) : Scans (nextIf test) fun c front => front = [c] := by
  refine scans_next.bind fun c front hfront => ?_
  split
  · exact .pure (by rw [hfront]; rfl)
  · exact .failure

theorem scans_word : Scans Scan.word fun w front => front = w :=
  (scans_nextIf _).bind fun c front hfront => (scans_takeWhile _).bind fun w back hback =>
    .pure (by rw [hfront, hback, List.append_nil]; rfl)

theorem scans_literalSuffix : Scans Scan.literalSuffix fun suffix front => front = suffix :=
  scans_word.orElse (.pure rfl)

theorem scans_endOfWord : Scans Scan.endOfWord fun _ front => front = [] := by
  refine scans_peek.bind fun next front hfront => ?_
  subst hfront
  split
  · split
    · exact .failure
    · exact .pure rfl
  · exact .pure rfl

theorem scans_afterDigits (n value : Nat) : Scans (do
      take n
      let suffix ← Scan.literalSuffix
      Scan.endOfWord
      return .integer value (String.ofList suffix))
    fun l front => ∃ digits suffix, digits.length = n ∧ front = digits ++ suffix ∧
      l = Literal.integer value (String.ofList suffix) :=
  (scans_take n).bind fun _ digits hdigits => scans_literalSuffix.bind fun suffix front hsuffix =>
    scans_endOfWord.bind fun _ last hlast => .pure
      ⟨digits, suffix, hdigits, by rw [hsuffix, hlast, List.append_nil, List.append_nil], rfl⟩

theorem scans_integer : Scans Scan.integer Literal.SpelledBy := by
  intro s l s' hr
  obtain ⟨base, sign, after, hbase, hmem, hs, hlongest⟩ := baseOf_spec s.rest
  unfold Scan.integer at hr
  rw [StateT.run_bind] at hr
  obtain ⟨_, hget, hr⟩ := Option.bind_eq_some_iff.mp hr
  cases hget
  have hdrop : s.rest.drop sign.length = after := by rw [hs, List.drop_left]
  simp only [hbase, hdrop] at hr
  split at hr
  · cases hr
  · next n value hwhole =>
    obtain ⟨digits, rest, rfl, hlength, hvalue, hdigits, hend⟩ := wholeDigits_begins hwhole
    obtain ⟨front, hfront, taken, suffix, htaken, rfl, rfl⟩ := scans_afterDigits _ value s l s' hr
    -- What is taken by its length are the base's beginning and the digits.
    have hsplit : taken ++ (suffix ++ s'.rest) = (sign ++ digits) ++ rest := by
      rw [← List.append_assoc, ← hfront, hs, List.append_assoc]
    obtain ⟨rfl, rfl⟩ := List.append_inj hsplit (by
      rw [htaken, hlength, List.length_append]
      omega)
    refine ⟨_, hfront, base, sign, digits, suffix, ?_, by rw [hvalue]; rfl⟩
    constructor
    case parts => rfl
    case known => exact hmem
    case longest => exact fun other ho hp => hlongest other ho (hp.trans ⟨s'.rest, hfront.symm⟩)
    case digits => exact hdigits
    case suffix =>
      intro c hc
      refine hend c ?_
      rw [List.head?_append, hc]
      rfl

end

end SyntaxGraph.Source
