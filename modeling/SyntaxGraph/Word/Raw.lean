import SyntaxGraph.Text.Utf8
import SyntaxGraph.Word

namespace SyntaxGraph

namespace Text

theorem toNat_ofNat_of_lt {n : Nat} (h : n < 0xd800) : (Char.ofNat n).toNat = n := by
  rw [Char.ofNat, dif_pos (Or.inl h)]
  rfl

theorem toNat_ofNat_cases (n : Nat) : (Char.ofNat n).toNat = n ∨ (Char.ofNat n).toNat = 0 := by
  by_cases h : n.isValidChar
  · left
    rw [Char.ofNat, dif_pos h]
    rfl
  · right
    rw [Char.ofNat, dif_neg h]
    rfl

theorem isValidChar_toNat (c : Char) : c.toNat < 0xd800 ∨ 0xdfff < c.toNat ∧ c.toNat < 0x110000 :=
  c.valid

def encodeChar (c : Char) : List Nat :=
  (String.utf8EncodeChar c).map UInt8.toNat

theorem encodeChar_eq (c : Char) : encodeChar c =
    if c.toNat < 0x80 then [c.toNat]
    else if c.toNat < 0x800 then [c.toNat / 64 + 0xc0, c.toNat % 64 + 0x80]
    else if c.toNat < 0x10000 then [c.toNat / 4096 + 0xe0, c.toNat / 64 % 64 + 0x80, c.toNat % 64 + 0x80]
    else [c.toNat / 262144 + 0xf0, c.toNat / 4096 % 64 + 0x80, c.toNat / 64 % 64 + 0x80, c.toNat % 64 + 0x80] := by
  have hvalid := isValidChar_toNat c
  have hval : c.val.toNat = c.toNat := rfl
  have hbyte {n : Nat} (h : n < 256) : (UInt8.ofNat n).toNat = n := by
    rw [UInt8.toNat_ofNat']
    exact Nat.mod_eq_of_lt h
  unfold encodeChar String.utf8EncodeChar
  simp only [hval]
  generalize c.toNat = v at hvalid
  by_cases h1 : v < 0x80
  · rw [if_pos h1, if_pos (by omega), List.map_cons, List.map_nil, hbyte (by omega)]
  · rw [if_neg h1, if_neg (by omega)]
    by_cases h2 : v < 0x800
    · rw [if_pos h2, if_pos (by omega)]
      simp only [List.map_cons, List.map_nil]
      rw [hbyte (by omega), hbyte (by omega), Nat.mod_eq_of_lt (by omega)]
    · rw [if_neg h2, if_neg (by omega)]
      by_cases h3 : v < 0x10000
      · rw [if_pos h3, if_pos (by omega)]
        simp only [List.map_cons, List.map_nil]
        rw [hbyte (by omega), hbyte (by omega), hbyte (by omega), Nat.mod_eq_of_lt (b := 16) (by omega)]
      · rw [if_neg h3, if_neg (by omega)]
        simp only [List.map_cons, List.map_nil]
        rw [hbyte (by omega), hbyte (by omega), hbyte (by omega), hbyte (by omega),
          Nat.mod_eq_of_lt (b := 8) (by omega)]

theorem eq_of_mem_encodeChar {c : Char} {b : Nat} (h : b ∈ encodeChar c) (hb : b < 128) : b = c.toNat := by
  rw [encodeChar_eq] at h
  split at h
  · exact List.mem_singleton.mp h
  · split at h
    · simp only [List.mem_cons, List.not_mem_nil, or_false] at h
      omega
    · split at h <;> simp only [List.mem_cons, List.not_mem_nil, or_false] at h <;> omega

theorem isContinuation_eq_true {low high b : Nat} (h : low ≤ b) (h' : b ≤ high) :
    isContinuation low high b = true := by
  simp [isContinuation, h, h']

theorem continued_cons {code low high more b : Nat} {rest : List Nat} (h : low ≤ b) (h' : b ≤ high) :
    continued code low high (more + 1) (b :: rest) =
      ((continued (code * 64 + (b - 0x80)) 0x80 0xbf more rest).1,
        (continued (code * 64 + (b - 0x80)) 0x80 0xbf more rest).2 + 1) := by
  rw [continued, if_pos (isContinuation_eq_true h h')]

theorem continued_last {code low high b : Nat} {rest : List Nat} (h : low ≤ b) (h' : b ≤ high) :
    continued code low high 0 (b :: rest) = (some (code * 64 + (b - 0x80)), 1) := by
  rw [continued, if_pos (isContinuation_eq_true h h')]

theorem leadByte?_two {v : Nat} (h : 0x80 ≤ v) (h' : v < 0x800) :
    leadByte? (v / 64 + 0xc0) = some (v / 64, 0x80, 0xbf, 0) := by
  rw [leadByte?, if_pos (by omega), Nat.add_sub_cancel]

theorem leadByte?_three {v : Nat} (h : 0x800 ≤ v) (h' : v < 0x10000) (hv : v < 0xd800 ∨ 0xdfff < v) :
    ∃ low high, leadByte? (v / 4096 + 0xe0) = some (v / 4096, low, high, 1) ∧
      low ≤ v / 64 % 64 + 0x80 ∧ v / 64 % 64 + 0x80 ≤ high := by
  rw [leadByte?, if_neg (by omega)]
  by_cases h0 : v / 4096 = 0
  · rw [h0, if_pos rfl]
    exact ⟨_, _, rfl, by omega, by omega⟩
  · rw [if_neg (by omega)]
    by_cases hd : v / 4096 = 0xd
    · rw [hd, if_pos rfl]
      exact ⟨_, _, rfl, by omega, by omega⟩
    · rw [if_neg (by omega), if_pos (by omega), Nat.add_sub_cancel]
      exact ⟨_, _, rfl, by omega, by omega⟩

theorem leadByte?_four {v : Nat} (h : 0x10000 ≤ v) (h' : v < 0x110000) :
    ∃ low high, leadByte? (v / 262144 + 0xf0) = some (v / 262144, low, high, 2) ∧
      low ≤ v / 4096 % 64 + 0x80 ∧ v / 4096 % 64 + 0x80 ≤ high := by
  rw [leadByte?, if_neg (by omega), if_neg (by omega), if_neg (by omega), if_neg (by omega)]
  by_cases h0 : v / 262144 = 0
  · rw [h0, if_pos rfl]
    exact ⟨_, _, rfl, by omega, by omega⟩
  · rw [if_neg (by omega)]
    by_cases h4 : v / 262144 = 4
    · rw [h4, if_neg (by decide), if_pos rfl]
      exact ⟨_, _, rfl, by omega, by omega⟩
    · rw [if_pos (by omega), Nat.add_sub_cancel]
      exact ⟨_, _, rfl, by omega, by omega⟩

theorem decodeBytes_encodeChar (c : Char) (n : Nat) (rest : List Nat) :
    decodeBytes (n + 1) (encodeChar c ++ rest) = c :: decodeBytes n rest := by
  have hvalid := isValidChar_toNat c
  have hc := Char.ofNat_toNat c
  rw [encodeChar_eq]
  generalize c.toNat = v at hvalid hc
  by_cases h1 : v < 0x80
  · rw [if_pos h1, List.singleton_append, decodeBytes, if_pos h1, hc]
  · rw [if_neg h1]
    by_cases h2 : v < 0x800
    · have hcode : v / 64 * 64 + (v % 64 + 0x80 - 0x80) = v := by omega
      rw [if_pos h2]
      simp only [List.cons_append, List.nil_append, decodeBytes]
      rw [if_neg (by omega), leadByte?_two (by omega) h2]
      simp only [continued_last (show 0x80 ≤ v % 64 + 0x80 by omega) (show v % 64 + 0x80 ≤ 0xbf by omega),
        hcode, hc, List.drop_succ_cons, List.drop_zero]
    · rw [if_neg h2]
      by_cases h3 : v < 0x10000
      · obtain ⟨low, high, hlead, hlow, hhigh⟩ := leadByte?_three (show 0x800 ≤ v by omega) h3 (by omega)
        have hcode : (v / 4096 * 64 + (v / 64 % 64 + 0x80 - 0x80)) * 64 + (v % 64 + 0x80 - 0x80) = v := by omega
        rw [if_pos h3]
        simp only [List.cons_append, List.nil_append, decodeBytes]
        rw [if_neg (by omega), hlead]
        simp only [continued_cons hlow hhigh,
          continued_last (show 0x80 ≤ v % 64 + 0x80 by omega) (show v % 64 + 0x80 ≤ 0xbf by omega),
          hcode, hc, List.drop_succ_cons, List.drop_zero]
      · obtain ⟨low, high, hlead, hlow, hhigh⟩ := leadByte?_four (show 0x10000 ≤ v by omega) (by omega)
        have hcode : ((v / 262144 * 64 + (v / 4096 % 64 + 0x80 - 0x80)) * 64 + (v / 64 % 64 + 0x80 - 0x80)) * 64 +
            (v % 64 + 0x80 - 0x80) = v := by omega
        rw [if_neg h3]
        simp only [List.cons_append, List.nil_append, decodeBytes]
        rw [if_neg (by omega), hlead]
        simp only [continued_cons hlow hhigh,
          continued_cons (show 0x80 ≤ v / 64 % 64 + 0x80 by omega) (show v / 64 % 64 + 0x80 ≤ 0xbf by omega),
          continued_last (show 0x80 ≤ v % 64 + 0x80 by omega) (show v % 64 + 0x80 ≤ 0xbf by omega),
          hcode, hc, List.drop_succ_cons, List.drop_zero]

theorem decodeBytes_flatMap {n : Nat} {cs : List Char} (h : cs.length ≤ n) :
    decodeBytes n (cs.flatMap encodeChar) = cs := by
  induction cs generalizing n with
  | nil => cases n <;> rfl
  | cons c cs ih =>
    obtain ⟨m, rfl⟩ : ∃ m, n = m + 1 := ⟨n - 1, by rw [List.length_cons] at h; omega⟩
    rw [List.flatMap_cons, decodeBytes_encodeChar, ih (Nat.le_of_succ_le_succ h)]

theorem encodeChar_ne_nil (c : Char) : encodeChar c ≠ [] := by
  rw [encodeChar_eq]
  repeat' split
  all_goals exact List.cons_ne_nil _ _

theorem length_le_flatMap_encodeChar (cs : List Char) : cs.length ≤ (cs.flatMap encodeChar).length := by
  induction cs with
  | nil => exact Nat.le_refl 0
  | cons c cs ih =>
    have hpos := List.length_pos_iff.mpr (encodeChar_ne_nil c)
    rw [List.flatMap_cons, List.length_append, List.length_cons]
    omega

theorem decodeLossy_flatMap (s : String) : decodeLossy (s.toList.flatMap encodeChar) = s := by
  rw [decodeLossy, decodeBytes_flatMap (length_le_flatMap_encodeChar _), String.ofList_toList]

theorem le_of_continued {code low high more used r : Nat} {bytes : List Nat} (hlow : 0x80 ≤ low)
    (h : 2 ≤ code * 64 + (low - 0x80)) (hlast : more = 0 → 128 ≤ code * 64 + (low - 0x80))
    (hr : continued code low high more bytes = (some r, used)) : 128 ≤ r := by
  induction bytes generalizing code low high more used with
  | nil =>
    unfold continued at hr
    cases hr
  | cons b bytes ih =>
    unfold continued at hr
    split at hr
    · next hb =>
      simp only [isContinuation, Bool.and_eq_true, decide_eq_true_iff] at hb
      cases more with
      | zero =>
        have hcode := hlast rfl
        simp only [Prod.mk.injEq, Option.some.injEq] at hr
        omega
      | succ n =>
        simp only [Prod.mk.injEq] at hr
        exact ih (Nat.le_refl _) (by omega) (fun _ => by omega) (Prod.ext hr.1 rfl)
    · cases hr

theorem le_of_leadByte? {b code low high more : Nat} (h : leadByte? b = some (code, low, high, more)) :
    0x80 ≤ low ∧ 2 ≤ code * 64 + (low - 0x80) ∧ (more = 0 → 128 ≤ code * 64 + (low - 0x80)) := by
  unfold leadByte? at h
  repeat' split at h
  all_goals
    simp only [Option.some.injEq, Prod.mk.injEq, reduceCtorEq] at h
  all_goals omega

theorem mem_of_mem_decodeBytes {n : Nat} {bytes : List Nat} {c : Char} (hc : c.toNat < 128) (h0 : c.toNat ≠ 0)
    (h : c ∈ decodeBytes n bytes) : c.toNat ∈ bytes := by
  induction n generalizing bytes with
  | zero => cases h
  | succ n ih =>
    cases bytes with
    | nil => cases h
    | cons b rest =>
      have hdrop (used : Nat) (h : c ∈ decodeBytes n (rest.drop used)) : c.toNat ∈ b :: rest :=
        List.mem_cons_of_mem b (List.mem_of_mem_drop (ih h))
      have hreplacement : c ≠ replacement := by
        rintro rfl
        revert hc
        decide
      unfold decodeBytes at h
      split at h
      · next hb =>
        rcases List.mem_cons.mp h with rfl | h
        · rw [toNat_ofNat_of_lt (by omega)]
          exact List.mem_cons_self
        · exact hdrop 0 h
      · split at h
        · rcases List.mem_cons.mp h with rfl | h
          · exact absurd rfl hreplacement
          · exact hdrop 0 h
        · next hlead =>
          split at h
          · next code used hcode =>
            rcases List.mem_cons.mp h with rfl | h
            · obtain ⟨hlow, hcontinued, hlast⟩ := le_of_leadByte? hlead
              have hle := le_of_continued hlow hcontinued hlast hcode
              have hcases := toNat_ofNat_cases code
              omega
            · exact hdrop _ h
          · rcases List.mem_cons.mp h with rfl | h
            · exact absurd rfl hreplacement
            · exact hdrop _ h

end Text

structure RawText where
  bytes : List UInt8
  deriving DecidableEq, Repr

namespace RawText

def letter (b : UInt8) : Char :=
  Char.ofNat b.toNat

def spelling (r : RawText) : List Char :=
  r.bytes.map letter

def ofSpelling (letters : List Char) : RawText :=
  ⟨letters.map fun c => UInt8.ofNat c.toNat⟩

def text (r : RawText) : String :=
  Text.decodeLossy (r.bytes.map UInt8.toNat)

def ofText (s : String) : RawText :=
  ⟨s.toList.flatMap String.utf8EncodeChar⟩

theorem toNat_letter (b : UInt8) : (letter b).toNat = b.toNat :=
  Text.toNat_ofNat_of_lt (Nat.lt_trans b.toNat_lt (by decide))

theorem mem_spelling_iff {r : RawText} {c : Char} : c ∈ r.spelling ↔ c.toNat ∈ r.bytes.map UInt8.toNat := by
  simp only [spelling, List.mem_map]
  constructor
  · rintro ⟨b, hb, rfl⟩
    exact ⟨b, hb, (toNat_letter b).symm⟩
  · rintro ⟨b, hb, hc⟩
    exact ⟨b, hb, Char.toNat_inj.mp ((toNat_letter b).trans hc)⟩

theorem map_toNat_ofText (s : String) : (ofText s).bytes.map UInt8.toNat = s.toList.flatMap Text.encodeChar :=
  List.map_flatMap

theorem spelling_ofText {s : String} (h : ∀ c ∈ s.toList, c.toNat < 128) : (ofText s).spelling = s.toList := by
  have hchar {c : Char} (hc : c.toNat < 128) : (String.utf8EncodeChar c).map letter = [c] := by
    have hencode : (String.utf8EncodeChar c).map UInt8.toNat = [c.toNat] :=
      (Text.encodeChar_eq c).trans (if_pos hc)
    have hletters := congrArg (List.map Char.ofNat) hencode
    rwa [List.map_map, List.map_singleton, Char.ofNat_toNat] at hletters
  unfold spelling ofText
  generalize s.toList = cs at h
  induction cs with
  | nil => rfl
  | cons c cs ih =>
    obtain ⟨hc, hcs⟩ := List.forall_mem_cons.mp h
    dsimp only at ih ⊢
    rw [List.flatMap_cons, List.map_append, hchar hc, ih hcs]
    rfl

theorem mem_of_mem_ofText {s : String} {c : Char} (hc : c.toNat < 128) (h : c ∈ (ofText s).spelling) :
    c ∈ s.toList := by
  rw [mem_spelling_iff, map_toNat_ofText] at h
  obtain ⟨d, hd, hmem⟩ := List.mem_flatMap.mp h
  rwa [Char.toNat_inj.mp (Text.eq_of_mem_encodeChar hmem hc)]

instance : Word RawText where
  IsLetter c := c.toNat < 256
  spelling := spelling
  ofSpelling := ofSpelling
  text := text
  ofText := ofText
  isLetter_slash := by decide
  isLetter_of_mem h := by
    obtain ⟨b, _, rfl⟩ := List.mem_map.mp h
    rw [toNat_letter]
    exact b.toNat_lt
  ofSpelling_spelling r := by
    simp [ofSpelling, spelling, List.map_map, Function.comp_def, toNat_letter]
  spelling_ofSpelling h := by
    rw [spelling, ofSpelling, List.map_map]
    refine (List.map_congr_left fun c hc => ?_).trans (List.map_id _)
    apply Char.toNat_inj.mp
    rw [Function.comp_apply, toNat_letter, UInt8.toNat_ofNat']
    exact Nat.mod_eq_of_lt (h c hc)
  text_ofText s := by
    rw [text, map_toNat_ofText, Text.decodeLossy_flatMap]
  spelling_ofText := spelling_ofText
  slash_mem_of_ofText := mem_of_mem_ofText (by decide)
  slash_mem_of_text h := by
    rw [text, Text.decodeLossy, String.toList_ofList] at h
    exact mem_spelling_iff.mpr (Text.mem_of_mem_decodeBytes (by decide) (by decide) h)

end RawText

end SyntaxGraph
