import SyntaxGraph.Proofs.Graph.Dot
import SyntaxGraph.Proofs.Splitting

/-!
The lines of a DOT document. Labels and colors leave every statement on its line. The direction and the
shape of a layout are written as they are: each line break in them moves the statements of the graph one
line down, and the header is what it should be exactly if they are identifiers of the language.
-/

namespace SyntaxGraph

namespace Dot

def linesOf (text : String) : List (List Char) :=
  text.toList.splitOn '\n'

def keywords : List String :=
  ["node", "edge", "graph", "digraph", "subgraph", "strict"]

def isNameChar (c : Char) : Bool :=
  c.isAlphanum || c == '_' || decide (128 ≤ c.toNat)

def isName (word : List Char) : Bool :=
  word.all isNameChar && word.head?.any (fun c => !c.isDigit)
    && !keywords.contains (String.ofList (word.map Char.toLower))

def isNumeral (word : List Char) : Bool :=
  let unsigned := if word.head? = some '-' then word.tail else word
  let whole := unsigned.takeWhile Char.isDigit
  match unsigned.dropWhile Char.isDigit with
  | [] => !whole.isEmpty
  | '.' :: digits => digits.all Char.isDigit && !(whole ++ digits).isEmpty
  | _ => false

def isWordChar (c : Char) : Bool :=
  isNameChar c || c == '-' || c == '.'

def quotedPart (escaped : Bool) : List Char → Option (List Char × List Char)
  | [] => none
  | c :: rest =>
    if c = '"' ∧ escaped = false then some ([c], rest)
    else (quotedPart (c == '\\' && !escaped) rest).map fun (text, rest) => (c :: text, rest)

def readIdentifier (cs : List Char) : Option (List Char × List Char) :=
  if cs.head? = some '"' then
    (quotedPart false cs.tail).map fun (text, rest) => ('"' :: text, rest)
  else
    let word := cs.takeWhile isWordChar
    if isName word || isNumeral word then some (word, cs.dropWhile isWordChar) else none

def IsIdentifier (s : String) : Prop :=
  '\n' ∉ s.toList ∧ readIdentifier s.toList = some (s.toList, [])

instance : DecidablePred IsIdentifier :=
  fun s => inferInstanceAs (Decidable ('\n' ∉ s.toList ∧ readIdentifier s.toList = some (s.toList, [])))

def readSetting (before after line : List Char) : Option String := do
  let rest ← before.isPrefixOf? line
  let (value, rest) ← readIdentifier rest
  if rest = after then return String.ofList value else none

def beforeDirection : List Char :=
  "    rankdir=".toList

def afterDirection : List Char :=
  ";".toList

def beforeShape : List Char :=
  "    node [shape=".toList

def sized (before after : List Char) (l : Layout) : List Char :=
  before ++ (toString l.fontSize.toNat).toList ++ after

def afterShape (l : Layout) : List Char :=
  sized ", style=filled, fontname=\"Helvetica\", fontsize=".toList "];".toList l

def edgeDefaults (l : Layout) : List Char :=
  sized "    edge [fontname=\"Helvetica\", fontsize=".toList "];".toList l

def opening : List Char :=
  "digraph AST \x7b".toList

/-- The lines before the vertices. The direction and the shape are read without knowing them. -/
structure Headed (l : Layout) (lines : List (List Char)) : Prop where
  opening : lines[0]? = some opening
  direction : lines[1]?.bind (readSetting beforeDirection afterDirection) = some l.direction
  shape : lines[2]?.bind (readSetting beforeShape (afterShape l)) = some l.shape
  edges : lines[3]? = some (edgeDefaults l)
  gap : lines[4]? = some []

/-- Line `first` is that of the first vertex. Each line is read on its own, as one whole statement. -/
structure Arranged (first : Nat) (g : Graph) (lines : List (List Char)) : Prop where
  count : lines.length = first + g.size + 1 + g.edges.size + 1
  vertex : ∀ k < g.size, lines[first + k]?.bind readVertex =
    some ⟨k, ((g.style? k).bind Style.label).getD "", (g.style? k).bind Style.color⟩
  gap : lines[first + g.size]? = some []
  edge : ∀ k < g.edges.size, lines[first + g.size + 1 + k]?.bind readEdge = g.edges[k]?
  closing : lines[first + g.size + 1 + g.edges.size]? = some "\x7d".toList

def breaks (l : Layout) : Nat :=
  l.direction.toList.count '\n' + l.shape.toList.count '\n'

theorem quotedPart_split {escaped : Bool} {cs text rest : List Char}
    (h : quotedPart escaped cs = some (text, rest)) : cs = text ++ rest := by
  induction cs generalizing escaped text with
  | nil => simp [quotedPart] at h
  | cons c cs ih =>
    rw [quotedPart] at h
    split at h
    · cases h
      rfl
    · obtain ⟨⟨text, _⟩, htext, heq⟩ := Option.map_eq_some_iff.mp h
      cases heq
      rw [List.cons_append, ih htext]

theorem quotedPart_append_iff {escaped : Bool} (text rest : List Char) :
    quotedPart escaped (text ++ rest) = some (text, rest) ↔ quotedPart escaped text = some (text, []) := by
  induction text generalizing escaped with
  | nil =>
    cases rest with
    | nil => simp
    | cons c rest =>
      rw [List.nil_append, quotedPart, quotedPart]
      split <;> simp
  | cons c text ih =>
    rw [List.cons_append, quotedPart, quotedPart]
    split
    · simp
    · simp [Option.map_eq_some_iff, ih]

theorem readIdentifier_split {cs value rest : List Char} (h : readIdentifier cs = some (value, rest)) :
    cs = value ++ rest := by
  unfold readIdentifier at h
  split at h
  · next hquote =>
    obtain ⟨⟨text, _⟩, htext, heq⟩ := Option.map_eq_some_iff.mp h
    cases heq
    rw [List.cons_append, ← quotedPart_split htext]
    exact (List.cons_head?_tail hquote).symm
  · dsimp only at h
    split at h
    · cases h
      exact List.takeWhile_append_dropWhile.symm
    · cases h

def Bounded (rest : List Char) : Prop :=
  rest.head?.all (fun c => !isWordChar c && c != '"') = true

theorem bounded_nil : Bounded [] :=
  rfl

theorem bounded_cons_iff {c : Char} {rest : List Char} :
    Bounded (c :: rest) ↔ isWordChar c = false ∧ c ≠ '"' := by
  simp [Bounded]

theorem Bounded.sized {before : List Char} (h : Bounded before) (hne : before ≠ []) (after : List Char)
    (l : Layout) : Bounded (sized before after l) := by
  rwa [Dot.sized, List.append_assoc, Bounded, List.head?_append_of_ne_nil before hne]

theorem bounded_afterDirection : Bounded afterDirection :=
  bounded_cons_iff.mpr (by decide)

theorem bounded_afterShape (l : Layout) : Bounded (afterShape l) :=
  Bounded.sized (bounded_cons_iff.mpr (by decide)) (List.cons_ne_nil _ _) _ l

theorem readIdentifier_word_iff {word rest : List Char} (hrest : Bounded rest)
    (hquote : word.head? ≠ some '"') :
    readIdentifier (word ++ rest) = some (word, rest) ↔
      (∀ c ∈ word, isWordChar c = true) ∧ (isName word || isNumeral word) = true := by
  have hnil : rest.takeWhile isWordChar = [] ∧ rest.dropWhile isWordChar = rest := by
    cases rest with
    | nil => exact ⟨rfl, rfl⟩
    | cons c rest => simp [(bounded_cons_iff.mp hrest).1]
  have hhead : (word ++ rest).head? ≠ some '"' := by
    cases word with
    | nil =>
      cases rest with
      | nil => exact fun h => nomatch h
      | cons c rest => exact fun h => (bounded_cons_iff.mp hrest).2 (Option.some.inj h)
    | cons c word => exact hquote
  rw [readIdentifier, if_neg hhead]
  constructor
  · intro h
    dsimp only at h
    split at h
    · next hword =>
      have htake : (word ++ rest).takeWhile isWordChar = word :=
        congrArg Prod.fst (Option.some.inj h)
      have hchars : ((word ++ rest).takeWhile isWordChar).all isWordChar = true := List.all_takeWhile
      rw [htake] at hchars hword
      exact ⟨List.all_eq_true.mp hchars, hword⟩
    · cases h
  · rintro ⟨hchars, hword⟩
    rw [List.takeWhile_append_of_pos hchars, List.dropWhile_append_of_pos hchars, hnil.1, hnil.2,
      List.append_nil]
    exact if_pos hword

theorem readIdentifier_append_iff (value : List Char) {rest : List Char} (hrest : Bounded rest) :
    readIdentifier (value ++ rest) = some (value, rest) ↔ readIdentifier value = some (value, []) := by
  by_cases hquote : value.head? = some '"'
  · obtain ⟨text, rfl⟩ : ∃ text, value = '"' :: text := ⟨value.tail, (List.cons_head?_tail hquote).symm⟩
    simp [readIdentifier, Option.map_eq_some_iff, quotedPart_append_iff]
  · have hword := readIdentifier_word_iff bounded_nil hquote
    rw [List.append_nil] at hword
    rw [readIdentifier_word_iff hrest hquote, hword]

theorem readSetting_eq_some_iff (before : List Char) {after : List Char} (hafter : Bounded after)
    {line : List Char} {s : String} :
    readSetting before after line = some s ↔
      line = before ++ s.toList ++ after ∧ readIdentifier s.toList = some (s.toList, []) := by
  constructor
  · intro h
    obtain ⟨rest, hrest, h⟩ := Option.bind_eq_some_iff.mp h
    obtain ⟨⟨value, others⟩, hvalue, h⟩ := Option.bind_eq_some_iff.mp h
    dsimp only at h
    split at h
    · next hothers =>
      cases h
      subst hothers
      rw [← List.isPrefixOf?_eq_some_iff_append_eq.mp hrest, readIdentifier_split hvalue,
        String.toList_ofList, List.append_assoc]
      rw [readIdentifier_split hvalue, readIdentifier_append_iff value hafter] at hvalue
      exact ⟨rfl, hvalue⟩
    · cases h
  · rintro ⟨rfl, hvalue⟩
    rw [readSetting, List.append_assoc, isPrefixOf?_append, Option.bind_eq_bind, Option.bind_some,
      (readIdentifier_append_iff s.toList hafter).mpr hvalue]
    simp

example : IsIdentifier "LR" ∧ IsIdentifier "\"a box\"" ∧ ¬ IsIdentifier "a box" ∧ ¬ IsIdentifier "TB; x" ∧
    ¬ IsIdentifier "\"TB" := by
  decide +kernel

theorem newline_not_mem_sized {before after : List Char} (l : Layout) (hb : '\n' ∉ before)
    (ha : '\n' ∉ after) : '\n' ∉ sized before after l := by
  simp [sized, hb, ha, newline_not_mem_toDigits]

theorem newline_not_mem_afterShape (l : Layout) : '\n' ∉ afterShape l :=
  newline_not_mem_sized l (by decide +kernel) (by decide +kernel)

theorem newline_not_mem_edgeDefaults (l : Layout) : '\n' ∉ edgeDefaults l :=
  newline_not_mem_sized l (by decide +kernel) (by decide +kernel)

theorem newline_not_mem_fixed :
    '\n' ∉ opening ∧ '\n' ∉ beforeDirection ∧ '\n' ∉ afterDirection ∧ '\n' ∉ beforeShape := by
  decide +kernel

def headerLines (l : Layout) : List (List Char) :=
  [opening, beforeDirection ++ l.direction.toList ++ afterDirection,
    beforeShape ++ l.shape.toList ++ afterShape l, edgeDefaults l, []]

theorem toList_between (before s after : String) :
    (before ++ s ++ after).toList = before.toList ++ s.toList ++ after.toList := by
  rw [String.toList_append, String.toList_append]

theorem toList_between_sized (before s middle after : String) (l : Layout) :
    (before ++ s ++ middle ++ toString l.fontSize.toNat ++ after).toList =
      before.toList ++ s.toList ++ sized middle.toList after.toList l := by
  simp [sized]

theorem map_toList_header (l : Layout) : (header l).map String.toList = headerLines l := by
  have hdirection : ("    rankdir=" ++ l.direction ++ ";").toList =
      beforeDirection ++ l.direction.toList ++ afterDirection := toList_between _ _ _
  have hshape : ("    node [shape=" ++ l.shape ++ ", style=filled, fontname=\"Helvetica\", fontsize="
      ++ toString l.fontSize.toNat ++ "];").toList = beforeShape ++ l.shape.toList ++ afterShape l :=
    toList_between_sized _ _ _ _ l
  have hedges : ("    edge [fontname=\"Helvetica\", fontsize=" ++ toString l.fontSize.toNat ++ "];").toList =
      edgeDefaults l := toList_between _ _ _
  rw [headerLines, ← hdirection, ← hshape, ← hedges]
  rfl

theorem linesOf_toDot (g : Graph) (l : Layout) : linesOf (g.toDot l) =
    (headerLines l).flatMap (List.splitOn '\n') ++ (linesBelow g).map String.toList := by
  have hlines : (lines l g).map String.toList = headerLines l ++ (linesBelow g).map String.toList := by
    rw [lines_eq_header_append, List.map_append, map_toList_header]
  have hne : headerLines l ++ (linesBelow g).map String.toList ≠ [] := by simp [headerLines]
  have htext : (g.toDot l).toList = ['\n'].intercalate (headerLines l ++ (linesBelow g).map String.toList) := by
    rw [Graph.toDot, String.toList_intercalate, hlines]
    rfl
  rw [linesOf, htext, splitOn_intercalate_eq_flatMap '\n' hne, List.flatMap_append,
    flatMap_splitOn_of_not_mem (newline_not_mem_linesBelow g)]

theorem length_header (l : Layout) :
    ((headerLines l).flatMap (List.splitOn '\n')).length = 5 + breaks l := by
  have hshape := List.count_eq_zero_of_not_mem (newline_not_mem_afterShape l)
  have hedges := List.count_eq_zero_of_not_mem (newline_not_mem_edgeDefaults l)
  obtain ⟨hopening, hbefore, hafter, hbeforeShape⟩ := newline_not_mem_fixed
  rw [← List.count_eq_zero] at hopening hbefore hafter hbeforeShape
  simp only [headerLines, breaks, List.flatMap_cons, List.flatMap_nil, List.length_append, length_splitOn,
    List.count_append, List.length_nil, List.count_nil]
  omega

theorem getElem?_append_add (above below : List (List Char)) (k : Nat) :
    (above ++ below)[above.length + k]? = below[k]? := by
  rw [List.getElem?_append_right (Nat.le_add_right _ k), Nat.add_sub_cancel_left]

theorem getElem?_vertexLines {g : Graph} {k : Nat} {v : Vertex} (hv : g.vertices[k]? = some v) :
    (vertexLines g)[k]? = some (vertexStatement k v).toList := by
  simp [vertexLines, List.getElem?_zipIdx, hv]

theorem getElem?_edgeLines {g : Graph} {k : Nat} (hk : k < g.edges.size) :
    (edgeLines g)[k]? = some (edgeStatement g.edges[k]).toList := by
  simp [edgeLines, Array.getElem?_eq_getElem hk]

theorem arranged_append (g : Graph) (above : List (List Char)) :
    Arranged above.length g (above ++ (linesBelow g).map String.toList) := by
  have hvlen : (vertexLines g).length = g.size := by simp [vertexLines, Graph.size_vertices]
  have helen : (edgeLines g).length = g.edges.size := by simp [edgeLines]
  have hparts : above ++ (vertexLines g ++ [] :: (edgeLines g ++ ["\x7d".toList])) =
      (above ++ vertexLines g ++ [[]]) ++ (edgeLines g ++ ["\x7d".toList]) := by simp
  have hfirst : above.length + g.size + 1 = (above ++ vertexLines g ++ [[]]).length := by
    simp [hvlen, Nat.add_assoc]
  rw [map_toList_linesBelow]
  constructor
  case count =>
    simp only [List.length_append, List.length_cons, List.length_nil, hvlen, helen]
    omega
  case vertex =>
    intro k hk
    obtain ⟨id, hv⟩ := Graph.exists_vertex hk
    rw [getElem?_append_add, List.getElem?_append_left (hvlen ▸ hk), getElem?_vertexLines hv, Option.bind_some]
    exact readVertex_vertexStatement k _
  case gap =>
    rw [getElem?_append_add, ← hvlen]
    exact getElem?_append_add (vertexLines g) _ 0
  case edge =>
    intro k hk
    rw [hparts, hfirst, getElem?_append_add, List.getElem?_append_left (helen ▸ hk), getElem?_edgeLines hk,
      Option.bind_some, Array.getElem?_eq_getElem hk]
    exact readEdge_edgeStatement g.edges[k]
  case closing =>
    rw [hparts, hfirst, getElem?_append_add, ← helen, List.getElem?_concat_length]

theorem Arranged.first_unique {first first' : Nat} {g : Graph} {lines : List (List Char)}
    (h : Arranged first g lines) (h' : Arranged first' g lines) : first = first' := by
  have hcount := h.count.symm.trans h'.count
  omega

theorem headed_iff (g : Graph) (l : Layout) :
    Headed l (linesOf (g.toDot l)) ↔ IsIdentifier l.direction ∧ IsIdentifier l.shape := by
  constructor
  · intro h
    obtain ⟨line, hline, hread⟩ := Option.bind_eq_some_iff.mp h.direction
    obtain ⟨line', hline', hread'⟩ := Option.bind_eq_some_iff.mp h.shape
    obtain ⟨rfl, hdirection⟩ := (readSetting_eq_some_iff _ bounded_afterDirection).mp hread
    obtain ⟨rfl, hshape⟩ := (readSetting_eq_some_iff _ (bounded_afterShape l)).mp hread'
    have hnewline := not_mem_of_mem_splitOn (List.mem_of_getElem? hline)
    have hnewline' := not_mem_of_mem_splitOn (List.mem_of_getElem? hline')
    simp only [List.mem_append, not_or] at hnewline hnewline'
    exact ⟨⟨hnewline.1.2, hdirection⟩, ⟨hnewline'.1.2, hshape⟩⟩
  · rintro ⟨⟨hnewline, hdirection⟩, ⟨hnewline', hshape⟩⟩
    have hheader : ∀ line ∈ headerLines l, '\n' ∉ line := by
      simp only [headerLines, List.forall_mem_cons, List.mem_append, not_or]
      obtain ⟨hopening, hbefore, hafter, hbeforeShape⟩ := newline_not_mem_fixed
      exact ⟨hopening, ⟨⟨hbefore, hnewline⟩, hafter⟩, ⟨⟨hbeforeShape, hnewline'⟩, newline_not_mem_afterShape l⟩,
        newline_not_mem_edgeDefaults l, List.not_mem_nil, List.forall_mem_nil _⟩
    have hline (k : Nat) (hk : k < 5) : (linesOf (g.toDot l))[k]? = (headerLines l)[k]? := by
      rw [linesOf_toDot, flatMap_splitOn_of_not_mem hheader]
      exact List.getElem?_append_left hk
    have hsecond : (headerLines l)[1]? = some (beforeDirection ++ l.direction.toList ++ afterDirection) := rfl
    have hthird : (headerLines l)[2]? = some (beforeShape ++ l.shape.toList ++ afterShape l) := rfl
    constructor
    case opening => exact hline 0 (by decide)
    case direction =>
      rw [hline 1 (by decide), hsecond, Option.bind_some]
      exact (readSetting_eq_some_iff _ bounded_afterDirection).mpr ⟨rfl, hdirection⟩
    case shape =>
      rw [hline 2 (by decide), hthird, Option.bind_some]
      exact (readSetting_eq_some_iff _ (bounded_afterShape l)).mpr ⟨rfl, hshape⟩
    case edges => exact hline 3 (by decide)
    case gap => exact hline 4 (by decide)

end Dot

namespace Graph

theorem arranged_toDot (g : Graph) (l : Layout) :
    let lines := Dot.linesOf (g.toDot l)
    Dot.Arranged (5 + Dot.breaks l) g lines ∧
      (Dot.Arranged 5 g lines ↔ Dot.breaks l = 0) ∧
      (Dot.Headed l lines ∧ Dot.Arranged 5 g lines ↔
        Dot.IsIdentifier l.direction ∧ Dot.IsIdentifier l.shape) := by
  intro lines
  have harranged : Dot.Arranged (5 + Dot.breaks l) g lines := by
    have happend := Dot.arranged_append g ((Dot.headerLines l).flatMap (List.splitOn '\n'))
    rwa [← Dot.linesOf_toDot, Dot.length_header] at happend
  have hfirst : Dot.Arranged 5 g lines ↔ Dot.breaks l = 0 := by
    constructor
    · intro h
      have heq := h.first_unique harranged
      omega
    · intro hbreaks
      rwa [hbreaks] at harranged
  refine ⟨harranged, hfirst, fun h => (Dot.headed_iff g l).mp h.1, fun h => ?_⟩
  have hdirection := List.count_eq_zero_of_not_mem h.1.1
  have hshape := List.count_eq_zero_of_not_mem h.2.1
  exact ⟨(Dot.headed_iff g l).mpr h, hfirst.mpr (by rw [Dot.breaks, hdirection, hshape])⟩

def forgingLayout : Layout :=
  { direction := "TB;\n    n1 [label=\"forged\"]" }

def onePass : Graph :=
  empty.applyAll [.paint ⟨0⟩ ⟨some "#abc7ed", some "Pass"⟩]

theorem arranged_toDot_forgingLayout :
    let lines := Dot.linesOf (onePass.toDot forgingLayout)
    lines.length = 7 + onePass.size + onePass.edges.size + 1 ∧ ¬ Dot.Arranged 5 onePass lines ∧
      lines[2]?.bind Dot.readVertex = some ⟨1, "forged", none⟩ ∧ onePass.style? 1 = none ∧
      Dot.Headed {} (Dot.linesOf (onePass.toDot {})) := by
  obtain ⟨harranged, hfirst, _⟩ := arranged_toDot onePass forgingLayout
  have hstandard := (arranged_toDot onePass {}).2.2.mpr (by decide +kernel)
  have hbreaks : Dot.breaks forgingLayout = 1 := by decide +kernel
  refine ⟨?_, ?_, by decide +kernel, by decide +kernel, hstandard.1⟩
  · rw [harranged.count, hbreaks]
    omega
  · rw [hfirst, hbreaks]
    decide

end Graph

end SyntaxGraph
