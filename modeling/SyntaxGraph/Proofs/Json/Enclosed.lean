import SyntaxGraph.Graph.Document.Reader
import SyntaxGraph.Proofs.Json.Spacing
import SyntaxGraph.Proofs.Json.Reading

namespace SyntaxGraph.Json.Reader

variable {α σ : Type} {a : α} {l : Spacing} {depth : Nat} {blanks rest : List Char}

def Takes (x : Reader α) (text : List Char) (a : α) : Prop :=
  ∀ ⦃blanks rest⦄, (∀ c ∈ blanks, isBlank c = true) → Ends rest → Yields x (blanks ++ (text ++ rest)) a rest

theorem ends_cons {c : Char} (h : c ∈ [',', ']', '}']) : Ends (c :: rest) := by
  intro c' hc'
  cases hc'
  simp only [List.mem_cons, List.not_mem_nil, or_false] at h
  rcases h with rfl | rfl | rfl <;> decide

theorem ends_append (hb : ∀ c ∈ blanks, isBlank c = true) (h : Ends rest) : Ends (blanks ++ rest) := by
  cases blanks with
  | nil => exact h
  | cons c blanks =>
    intro c' hc'
    cases hc'
    have hc : isBlank c = true := hb c List.mem_cons_self
    simp only [isBlank, Bool.or_eq_true, decide_eq_true_eq] at hc
    rcases hc with ((rfl | rfl) | rfl) | rfl <;> decide

theorem yields_nextToken {c : Char} (hb : ∀ c ∈ blanks, isBlank c = true) (hc : isBlank c = false) :
    Yields peekToken (blanks ++ c :: rest) (some c) (c :: rest) :=
  yields_peekToken hb fun _ h => Option.some.inj h ▸ hc

theorem ends_following (l : Spacing) (depth : Nat) {c : Char} (hc : c ∈ [',', ']', '}'])
    (parts : List (List Char)) (rest : List Char) : Ends (l.following depth c parts ++ rest) := by
  cases parts with
  | nil =>
    rw [Spacing.following, List.append_assoc]
    exact ends_append Spacing.isBlank_of_mem_gap (ends_cons hc)
  | cons part parts => exact ends_cons (by decide)

theorem Takes.here {x : Reader α} {text : List Char} (h : Takes x text a) (hr : Ends rest) :
    Yields x (text ++ rest) a rest :=
  @h [] rest nofun hr

theorem takes_expecting {expected : String} {accept : Char → Option (Reader α)} {x : Reader α} {c : Char}
    {text : List Char} (hc : isBlank c = false) (hx : accept c = some x)
    (h : ∀ ⦃rest⦄, Ends rest → Yields x (c :: (text ++ rest)) a rest) :
    Takes (expecting expected accept) (c :: text) a := by
  intro blanks rest hb hr
  refine .placed (.bind (yields_nextToken hb hc) ?_)
  dsimp only
  rw [hx]
  exact h hr

theorem isBlank_of_isDigit {c : Char} (h : c.isDigit = true) : isBlank c = false := by
  simp only [isBlank, Bool.or_eq_false_iff, decide_eq_false_iff_not]
  refine ⟨⟨⟨?_, ?_⟩, ?_⟩, ?_⟩ <;> · rintro rfl; cases h

theorem takes_vertexId (n : UInt64) : Takes vertexId (toString n.toNat).toList n := by
  obtain ⟨c, digits, hn⟩ : ∃ c digits, Nat.toDigits 10 n.toNat = c :: digits :=
    List.exists_cons_of_ne_nil Nat.toDigits_ne_nil
  have hc : c.isDigit = true :=
    Nat.isDigit_of_mem_toDigits (by decide) (by decide) (hn ▸ List.mem_cons_self)
  have htext : (toString n.toNat).toList = c :: digits := by
    rw [Nat.toString_eq_ofList_toDigits, String.toList_ofList, hn]
  rw [htext]
  refine takes_expecting (x := do idOfNumber (← number)) (isBlank_of_isDigit hc) ?_ ?_
  · rw [hc, Bool.or_true, if_pos rfl]
  · intro rest hr
    have hread := yields_number n hr
    rw [htext] at hread
    exact .bind hread .pure

theorem takes_text (s : String) : Takes text (writeString s).toList s := by
  have hread {rest : List Char} : Yields string (_ ++ rest) s rest := yields_string s
  rw [toList_writeString] at hread ⊢
  refine takes_expecting ?_ (if_pos rfl) ?_
  · rfl
  · exact fun rest _ => hread

theorem takes_optionalText (s : String) : Takes optionalText (writeString s).toList (some s) := by
  intro blanks rest hb hr
  have htext : Yields text ([] ++ ((writeString s).toList ++ rest)) s rest := takes_text s nofun hr
  rw [toList_writeString] at htext ⊢
  exact .bind (yields_nextToken hb rfl) (.bind htext .pure)

section Items

variable {item : Reader α} {text : α → List Char}

theorem yields_firstItem {c : Char} (hb : ∀ c ∈ blanks, isBlank c = true) (hc : isBlank c = false)
    (hne : c ≠ ']') : Yields (moreItems true) (blanks ++ c :: rest) true (c :: rest) := by
  refine .bind (yields_nextToken hb hc) ?_
  split
  · next h => cases h
  · next h => exact absurd (Option.some.inj h) hne
  · exact .pure

theorem yields_nextItem {c : Char} (hb : ∀ c ∈ blanks, isBlank c = true) (hc : isBlank c = false)
    (hne : c ≠ ']') : Yields (moreItems false) (',' :: (blanks ++ c :: rest)) true (c :: rest) := by
  have hcomma : Yields peekToken ([] ++ ',' :: (blanks ++ c :: rest)) _ _ := yields_nextToken nofun rfl
  refine .bind hcomma (.bind yields_skip (.bind (yields_nextToken hb hc) ?_))
  split
  · next h => exact absurd (Option.some.inj h) hne
  · exact .pure
  · next h => cases h

theorem yields_noItem {first : Bool} (hb : ∀ c ∈ blanks, isBlank c = true) :
    Yields (moreItems first) (blanks ++ ']' :: rest) false (']' :: rest) :=
  .bind (yields_nextToken hb rfl) .pure

theorem yields_closeList : Yields closeList (']' :: rest) () rest := by
  have hclose : Yields peekToken ([] ++ ']' :: rest) _ _ := yields_nextToken nofun rfl
  exact .bind hclose yields_skip

theorem yields_followingItems (l : Spacing) (depth : Nat) (h : ∀ a, Takes item ('{' :: text a) a)
    {items : List α} {n : Nat} (hn : items.length < n) (before : List α) :
    Yields (foldItems (fun items => return (← item) :: items) n false before)
      (l.following depth ']' (items.map fun a => '{' :: text a) ++ rest) (items.reverse ++ before)
      (']' :: rest) := by
  -- one step for every item, and one more that finds the closing bracket
  induction items generalizing n before with
  | nil =>
    obtain ⟨n, rfl⟩ := Nat.exists_eq_succ_of_ne_zero (Nat.ne_zero_of_lt hn)
    rw [List.map_nil, Spacing.following, List.append_assoc]
    exact .bind (yields_noItem Spacing.isBlank_of_mem_gap) .pure
  | cons a items ih =>
    obtain ⟨n, rfl⟩ := Nat.exists_eq_succ_of_ne_zero (Nat.ne_zero_of_lt hn)
    have hends := ends_following l depth (c := ']') (by decide) (items.map fun a => '{' :: text a) rest
    rw [List.map_cons, Spacing.following, List.cons_append, List.append_assoc, List.append_assoc,
      List.reverse_cons, List.append_assoc]
    refine .bind (yields_nextItem Spacing.isBlank_of_mem_gap rfl (by decide)) ?_
    exact .bind (.bind ((h a).here hends) .pure) (ih (Nat.lt_of_succ_lt_succ hn) (a :: before))

theorem yields_items (l : Spacing) (depth : Nat) (h : ∀ a, Takes item ('{' :: text a) a) {items : List α}
    {n : Nat} (hn : items.length < n) :
    Yields (foldItems (fun items => return (← item) :: items) n true [])
      (l.inside depth ']' (items.map fun a => '{' :: text a) ++ rest) items.reverse (']' :: rest) := by
  obtain ⟨n, rfl⟩ := Nat.exists_eq_succ_of_ne_zero (Nat.ne_zero_of_lt hn)
  cases items with
  | nil =>
    have hnone : Yields (moreItems true) ([] ++ ']' :: rest) false _ := yields_noItem nofun
    exact .bind hnone .pure
  | cons a items =>
    have hends := ends_following l depth (c := ']') (by decide) (items.map fun a => '{' :: text a) rest
    rw [List.map_cons, Spacing.inside, List.append_assoc, List.append_assoc, List.reverse_cons]
    refine .bind (yields_firstItem Spacing.isBlank_of_mem_gap rfl (by decide)) ?_
    refine .bind (.bind ((h a).here hends) .pure) ?_
    exact yields_followingItems l depth h (Nat.lt_of_succ_lt_succ hn) [a]

theorem takes_sequence (l : Spacing) (depth : Nat) (h : ∀ a, Takes item ('{' :: text a) a) (items : List α) :
    Takes (sequence item) ('[' :: l.inside depth ']' (items.map fun a => '{' :: text a)) items := by
  refine takes_expecting rfl (if_pos rfl) fun rest _ => .get fun p => ?_
  have hlength :
      items.length < ('[' :: (l.inside depth ']' (items.map fun a => '{' :: text a) ++ rest)).length := by
    have hle := l.length_le_inside depth ']' (items.map fun a => '{' :: text a)
    rw [List.length_map] at hle
    rw [List.length_cons, List.length_append]
    omega
  dsimp only
  refine .bind (.closedBy (.bind yields_skip (yields_items l depth h hlength)) yields_closeList) ?_
  rw [List.reverse_reverse]
  exact .pure

end Items

section Members

variable {step : σ → String → Reader σ}

theorem yields_firstMember (hb : ∀ c ∈ blanks, isBlank c = true) :
    Yields (moreMembers true) (blanks ++ '"' :: rest) true ('"' :: rest) :=
  .bind (yields_nextToken hb rfl) .pure

theorem yields_nextMember (hb : ∀ c ∈ blanks, isBlank c = true) :
    Yields (moreMembers false) (',' :: (blanks ++ '"' :: rest)) true ('"' :: rest) := by
  have hcomma : Yields peekToken ([] ++ ',' :: (blanks ++ '"' :: rest)) _ _ := yields_nextToken nofun rfl
  exact .bind hcomma (.bind yields_skip (.bind (yields_nextToken hb rfl) .pure))

theorem yields_noMember {first : Bool} (hb : ∀ c ∈ blanks, isBlank c = true) :
    Yields (moreMembers first) (blanks ++ '}' :: rest) false ('}' :: rest) :=
  .bind (yields_nextToken hb rfl) .pure

theorem yields_closeObject : Yields closeObject ('}' :: rest) () rest := by
  have hclose : Yields peekToken ([] ++ '}' :: rest) _ _ := yields_nextToken nofun rfl
  exact .bind hclose yields_skip

/-- Reading the members takes a record under construction from one state to the other. -/
inductive Fills (l : Spacing) (depth : Nat) (step : σ → String → Reader σ) :
    List (String × Value) → σ → σ → Prop where
  | nil {s : σ} : Fills l depth step [] s s
  | cons {name : String} {v : Value} {members : List (String × Value)} {s t u : σ}
    (head : ∀ ⦃rest⦄, Ends rest → Yields (step s name) (':' :: (l.space ++ (l.spell depth v ++ rest))) t rest)
    (tail : Fills l depth step members t u) : Fills l depth step ((name, v) :: members) s u

theorem Fills.append {members members' : List (String × Value)} {s t u : σ}
    (h : Fills l depth step members s t) (h' : Fills l depth step members' t u) :
    Fills l depth step (members ++ members') s u := by
  induction h with
  | nil => exact h'
  | cons head _ ih => exact .cons head (ih h')

theorem yields_member {name : String} {v : Value} {s t u : σ} {following : List Char}
    (h : ∀ ⦃rest⦄, Ends rest → Yields (step s name) (':' :: (l.space ++ (l.spell depth v ++ rest))) t rest)
    (hr : Ends rest) (n : Nat) (hn : Yields (foldMembers step n false t) rest u following) :
    Yields (do
      let key ← string
      let s ← step s key
      foldMembers step n false s)
      ((writeString name).toList ++ ':' :: (l.space ++ (l.spell depth v ++ rest))) u following :=
  .bind (yields_string name) (.bind (h hr) hn)

theorem Fills.yields_following {members : List (String × Value)} {s t : σ}
    (h : Fills l (depth + 1) step members s t) {n : Nat} (hn : members.length < n) :
    Yields (foldMembers step n false s)
      (l.following depth '}' (l.spellMembers (depth + 1) members) ++ rest) t ('}' :: rest) := by
  induction h generalizing n with
  | nil =>
    obtain ⟨n, rfl⟩ := Nat.exists_eq_succ_of_ne_zero (Nat.ne_zero_of_lt hn)
    rw [Spacing.spellMembers, Spacing.following, List.append_assoc]
    exact .bind (yields_noMember Spacing.isBlank_of_mem_gap) .pure
  | @cons name v members s t u head tail ih =>
    obtain ⟨n, rfl⟩ := Nat.exists_eq_succ_of_ne_zero (Nat.ne_zero_of_lt hn)
    have hends := ends_following l depth (c := '}') (by decide) (l.spellMembers (depth + 1) members) rest
    have hrest := yields_member head hends n (ih (Nat.lt_of_succ_lt_succ hn))
    rw [toList_writeString, List.cons_append] at hrest
    rw [Spacing.spellMembers, Spacing.following, toList_writeString]
    simp only [List.cons_append, List.append_assoc] at hrest ⊢
    exact .bind (yields_nextMember Spacing.isBlank_of_mem_gap) hrest

theorem Fills.yields {members : List (String × Value)} {s t : σ}
    (h : Fills l (depth + 1) step members s t) {n : Nat} (hn : members.length < n) :
    Yields (foldMembers step n true s)
      (l.inside depth '}' (l.spellMembers (depth + 1) members) ++ rest) t ('}' :: rest) := by
  obtain ⟨n, rfl⟩ := Nat.exists_eq_succ_of_ne_zero (Nat.ne_zero_of_lt hn)
  cases h with
  | nil =>
    have hnone : Yields (moreMembers true) ([] ++ '}' :: rest) false _ := yields_noMember nofun
    exact .bind hnone .pure
  | @cons name v members s t u head tail =>
    have hends := ends_following l depth (c := '}') (by decide) (l.spellMembers (depth + 1) members) rest
    have hrest := yields_member head hends n (tail.yields_following (Nat.lt_of_succ_lt_succ hn))
    rw [toList_writeString, List.cons_append] at hrest
    rw [Spacing.spellMembers, Spacing.inside, toList_writeString]
    simp only [List.cons_append, List.append_assoc] at hrest ⊢
    exact .bind (yields_firstMember Spacing.isBlank_of_mem_gap) hrest

theorem takes_record {title : String} {fromList : Reader α} {start s : σ} {finish : σ → Reader α}
    {members : List (String × Value)} (h : Fills l (depth + 1) step members start s)
    (hs : ∀ text, Yields (finish s) text a text) :
    Takes (record title fromList start step finish) (l.spell depth (.object members)) a := by
  refine takes_expecting rfl rfl fun rest _ => ?_
  refine .closedBy (.bind yields_skip (.get fun p => .bind (h.yields ?_) (hs _))) yields_closeObject
  have hlt := l.length_lt_inside_members depth '}' members
  dsimp only
  rw [List.length_append]
  omega

theorem yields_onlyOnce {item : Reader α} {name : String} {v : Value} (h : Takes item (l.spell depth v) a)
    (hr : Ends rest) :
    Yields (onlyOnce name false item) (':' :: (l.space ++ (l.spell depth v ++ rest))) a rest := by
  have hcolon : Yields peekToken ([] ++ ':' :: (l.space ++ (l.spell depth v ++ rest))) _ _ :=
    yields_nextToken nofun rfl
  exact .bind (.bind hcolon yields_skip) (h Spacing.isBlank_of_mem_space hr)

end Members

end SyntaxGraph.Json.Reader
