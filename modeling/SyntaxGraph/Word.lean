/-!
What command lines and the names of files are written in. A system hands over bytes, most of which are texts
but need not be. A word is spelled letter by letter, so that it can be taken apart at a slash or a dot, and it
can be told as a text, which for a word that is no text says less than the word.
-/

namespace SyntaxGraph

class Word (ω : Type) where
  IsLetter : Char → Prop
  spelling : ω → List Char
  ofSpelling : List Char → ω
  text : ω → String
  ofText : String → ω
  isLetter_slash : IsLetter '/'
  isLetter_of_mem : ∀ {w c}, c ∈ spelling w → IsLetter c
  ofSpelling_spelling : ∀ w, ofSpelling (spelling w) = w
  spelling_ofSpelling : ∀ {l}, (∀ c ∈ l, IsLetter c) → spelling (ofSpelling l) = l
  text_ofText : ∀ s, text (ofText s) = s
  spelling_ofText : ∀ {s : String}, (∀ c ∈ s.toList, c.toNat < 128) → spelling (ofText s) = s.toList
  slash_mem_of_ofText : ∀ {s}, '/' ∈ spelling (ofText s) → '/' ∈ s.toList
  slash_mem_of_text : ∀ {w}, '/' ∈ (text w).toList → '/' ∈ spelling w

namespace Word

instance : Word String where
  IsLetter _ := True
  spelling := String.toList
  ofSpelling := String.ofList
  text := id
  ofText := id
  isLetter_slash := trivial
  isLetter_of_mem _ := trivial
  ofSpelling_spelling _ := String.ofList_toList
  spelling_ofSpelling _ := String.toList_ofList
  text_ofText _ := rfl
  spelling_ofText _ := rfl
  slash_mem_of_ofText h := h
  slash_mem_of_text h := h

variable {ω : Type} [Word ω] {w w' : ω} {s s' : String}

/-- The word is a text: nothing is lost when it is told. -/
def IsText (w : ω) : Prop :=
  ofText (text w) = w

instance [DecidableEq ω] (w : ω) : Decidable (IsText w) :=
  inferInstanceAs (Decidable (_ = _))

def text? [DecidableEq ω] (w : ω) : Option String :=
  if IsText w then some (text w) else none

theorem ofText_inj : (ofText s : ω) = ofText s' ↔ s = s' := by
  constructor
  · intro h
    have htext := congrArg text h
    rwa [text_ofText, text_ofText] at htext
  · exact congrArg ofText

theorem eq_of_text_eq (h : IsText w) (h' : IsText w') (heq : text w = text w') : w = w' := by
  unfold IsText at h h'
  rw [← h, ← h', heq]

theorem spelling_inj : spelling w = spelling w' ↔ w = w' := by
  constructor
  · intro h
    rw [← ofSpelling_spelling w, ← ofSpelling_spelling w', h]
  · exact congrArg spelling

theorem spelling_ofText_empty : spelling (ofText "" : ω) = [] :=
  spelling_ofText fun _ hc => absurd hc List.not_mem_nil

theorem eq_ofText_empty_iff : w = ofText "" ↔ spelling w = [] := by
  rw [← spelling_inj, spelling_ofText_empty]

end Word

end SyntaxGraph
