import SyntaxGraph.Decimal.Basic
import SyntaxGraph.Graph.Dot
import SyntaxGraph.Proofs.Graph.Records

namespace SyntaxGraph

namespace Dot

structure VertexStatement where
  number : Nat
  label : String
  color : Option String
  deriving DecidableEq, Repr

structure Statements where
  vertices : List VertexStatement
  edges : List Edge
  deriving DecidableEq, Repr

def unescapeChar? : Char → Option Char
  | '\\' => some '\\'
  | '"' => some '"'
  | 'n' => some '\n'
  | _ => none

def unquote : List Char → Option (List Char × List Char)
  | [] => none
  | '"' :: rest => some ([], rest)
  | '\\' :: c :: rest => do
    let d ← unescapeChar? c
    let (text, rest) ← unquote rest
    return (d :: text, rest)
  | c :: rest => do
    let (text, rest) ← unquote rest
    return (c :: text, rest)

def readQuoted (before cs : List Char) : Option (String × List Char) := do
  let rest ← (before ++ ['"']).isPrefixOf? cs
  let (text, rest) ← unquote rest
  return (String.ofList text, rest)

def readName (before cs : List Char) : Option (Nat × List Char) := do
  let rest ← before.isPrefixOf? cs
  let digits := rest.takeWhile Char.isDigit
  if digits.isEmpty then none
  else return (Decimal.ofDigits digits, rest.dropWhile Char.isDigit)

def readVertex (line : List Char) : Option VertexStatement := do
  let (number, rest) ← readName "    n".toList line
  let (label, rest) ← readQuoted " [label=".toList rest
  if rest = "];".toList then return ⟨number, label, none⟩
  else
    let (color, rest) ← readQuoted ", fillcolor=".toList rest
    if rest = "];".toList then return ⟨number, label, some color⟩ else none

def readEdge (line : List Char) : Option Edge := do
  let (tail, rest) ← readName "    n".toList line
  let (head, rest) ← readName " -> n".toList rest
  if rest = ";".toList then return ⟨tail, head, none⟩
  else
    let (label, rest) ← readQuoted " [label=".toList rest
    if rest = "];".toList then return ⟨tail, head, some label⟩ else none

def read (l : Layout) (text : String) : Option Statements := do
  let rest ← ("\n".intercalate (header l) ++ "\n").toList.isPrefixOf? text.toList
  let lines := rest.splitOn '\n'
  let vertices ← (lines.takeWhile (· ≠ [])).mapM readVertex
  let others := (lines.dropWhile (· ≠ [])).tail
  if others.getLast? = some "\x7d".toList then
    let edges ← others.dropLast.mapM readEdge
    return ⟨vertices, edges⟩
  else none

end Dot

def Graph.statements (g : Graph) : Dot.Statements where
  vertices := g.vertices.toList.zipIdx.map fun (v, number) =>
    ⟨number, (v.style.bind Style.label).getD "", v.style.bind Style.color⟩
  edges := g.edges.toList

namespace Dot

theorem unquote_plain {c : Char} (hq : c ≠ '"') (hb : c ≠ '\\') (rest : List Char) :
    unquote (c :: rest) = (unquote rest).map fun (text, rest) => (c :: text, rest) := by
  conv_lhs => unfold unquote
  split
  · simp_all
  · simp_all
  · simp_all
  · next c' rest' _ _ h =>
    cases h
    cases unquote rest <;> rfl

def escapeChar : Char → List Char
  | '\\' => ['\\', '\\']
  | '"' => ['\\', '"']
  | '\n' => ['\\', 'n']
  | c => [c]

theorem toList_escape (s : String) : (escape s).toList = s.toList.flatMap escapeChar := by
  unfold escape replace
  rw [String.toList_ofList, List.flatMap_assoc, List.flatMap_assoc]
  congr 1
  funext c
  by_cases hslash : c = '\\'
  · subst hslash
    rfl
  · by_cases hmark : c = '"'
    · subst hmark
      rfl
    · by_cases hline : c = '\n'
      · subst hline
        rfl
      · simp [escapeChar, hslash, hmark, hline]

theorem unquote_escapeChar (c : Char) (rest : List Char) :
    unquote (escapeChar c ++ rest) = (unquote rest).map fun (text, rest) => (c :: text, rest) := by
  unfold escapeChar
  split
  · cases h : unquote rest <;> simp [unquote, unescapeChar?, h]
  · cases h : unquote rest <;> simp [unquote, unescapeChar?, h]
  · cases h : unquote rest <;> simp [unquote, unescapeChar?, h]
  · next hb hq _ => exact unquote_plain hq hb rest

theorem unquote_escape (s rest : List Char) :
    unquote (s.flatMap escapeChar ++ '"' :: rest) = some (s, rest) := by
  induction s with
  | nil => rfl
  | cons c s ih =>
    rw [List.flatMap_cons, List.append_assoc, unquote_escapeChar, ih]
    rfl

theorem newline_not_mem_escape (s : String) : '\n' ∉ (escape s).toList := by
  rw [toList_escape, List.mem_flatMap]
  rintro ⟨c, _, hc⟩
  unfold escapeChar at hc
  split at hc
  · simp at hc
  · simp at hc
  · simp at hc
  · next hn => exact hn (List.mem_singleton.mp hc).symm

theorem isPrefixOf?_append (before rest : List Char) : before.isPrefixOf? (before ++ rest) = some rest :=
  List.isPrefixOf?_eq_some_iff_append_eq.mpr rfl

theorem readQuoted_quoted (before : List Char) (s : String) (rest : List Char) :
    readQuoted before (before ++ (quoted s).toList ++ rest) = some (s, rest) := by
  have hsplit : before ++ (quoted s).toList ++ rest =
      (before ++ ['"']) ++ (s.toList.flatMap escapeChar ++ '"' :: rest) := by
    simp [quoted, toList_escape]
  rw [readQuoted, hsplit, isPrefixOf?_append]
  simp [unquote_escape]

theorem ofDigits_toDigits (n : Nat) : Decimal.ofDigits (Nat.toDigits 10 n) = n := by
  have hdigits : Decimal.ofDigits (Nat.toDigits 10 n) = Nat.ofDigitChars 10 (Nat.toDigits 10 n) 0 :=
    Nat.ofDigitChars_eq_foldl.symm
  rw [hdigits, Nat.ofDigitChars_ten_toDigits]

theorem readName_toString (before : List Char) (n : Nat) {rest : List Char}
    (hrest : ∀ c ∈ rest.head?, c.isDigit = false) :
    readName before (before ++ (toString n).toList ++ rest) = some (n, rest) := by
  have hdigits : ∀ c ∈ Nat.toDigits 10 n, c.isDigit = true :=
    fun c hc => Nat.isDigit_of_mem_toDigits (by decide) (by decide) hc
  have htext : (toString n).toList = Nat.toDigits 10 n := by
    rw [Nat.toString_eq_ofList_toDigits, String.toList_ofList]
  have hnil : rest.takeWhile Char.isDigit = [] ∧ rest.dropWhile Char.isDigit = rest := by
    cases rest with
    | nil => exact ⟨rfl, rfl⟩
    | cons c rest => simp [hrest c rfl]
  rw [readName, htext, List.append_assoc, isPrefixOf?_append]
  simp only [Option.bind_eq_bind, Option.bind_some, List.takeWhile_append_of_pos hdigits,
    List.dropWhile_append_of_pos hdigits, hnil.1, hnil.2, List.append_nil]
  rw [if_neg (by simp [Nat.toDigits_ne_nil]), ofDigits_toDigits]
  rfl

theorem readVertex_vertexStatement (number : Nat) (v : Vertex) :
    readVertex (vertexStatement number v).toList =
      some ⟨number, (v.style.bind Style.label).getD "", v.style.bind Style.color⟩ := by
  generalize hl : (v.style.bind Style.label).getD "" = label
  cases hc : v.style.bind Style.color with
  | none =>
    have hline : (vertexStatement number v).toList = "    n".toList ++ (toString number).toList
        ++ (" [label=".toList ++ (quoted label).toList ++ "];".toList) := by
      simp [vertexStatement, vertexName, hl, hc]
    rw [readVertex, hline, readName_toString _ _ (by simp), Option.bind_eq_bind, Option.bind_some]
    dsimp only
    rw [readQuoted_quoted]
    rfl
  | some color =>
    have hline : (vertexStatement number v).toList = "    n".toList ++ (toString number).toList
        ++ (" [label=".toList ++ (quoted label).toList
          ++ (", fillcolor=".toList ++ (quoted color).toList ++ "];".toList)) := by
      simp [vertexStatement, vertexName, hl, hc]
    rw [readVertex, hline, readName_toString _ _ (by simp), Option.bind_eq_bind, Option.bind_some]
    dsimp only
    rw [readQuoted_quoted, Option.bind_eq_bind, Option.bind_some]
    dsimp only
    rw [if_neg (by simp), readQuoted_quoted]
    rfl

theorem readEdge_edgeStatement (e : Edge) : readEdge (edgeStatement e).toList = some e := by
  obtain ⟨tail, head, label⟩ := e
  cases label with
  | none =>
    have hline : (edgeStatement ⟨tail, head, none⟩).toList = "    n".toList ++ (toString tail).toList
        ++ (" -> n".toList ++ (toString head).toList ++ ";".toList) := by
      simp [edgeStatement, vertexName]
    have hend : ∀ c ∈ (";".toList).head?, c.isDigit = false := fun c hc => Option.some.inj hc ▸ rfl
    rw [readEdge, hline, readName_toString _ _ (by simp), Option.bind_eq_bind, Option.bind_some]
    dsimp only
    rw [readName_toString _ _ hend]
    rfl
  | some label =>
    have hline : (edgeStatement ⟨tail, head, some label⟩).toList =
        "    n".toList ++ (toString tail).toList ++ (" -> n".toList ++ (toString head).toList
          ++ (" [label=".toList ++ (quoted label).toList ++ "];".toList)) := by
      simp [edgeStatement, vertexName]
    rw [readEdge, hline, readName_toString _ _ (by simp), Option.bind_eq_bind, Option.bind_some]
    dsimp only
    rw [readName_toString _ _ (by simp), Option.bind_eq_bind, Option.bind_some]
    dsimp only
    rw [if_neg (by simp), readQuoted_quoted]
    rfl

theorem newline_not_mem_quoted (s : String) : '\n' ∉ (quoted s).toList := by
  simp [quoted, newline_not_mem_escape]

theorem newline_not_mem_toDigits (n : Nat) : '\n' ∉ Nat.toDigits 10 n := by
  intro h
  have hdigit : '\n'.isDigit = true := Nat.isDigit_of_mem_toDigits (by decide) (by decide) h
  exact absurd hdigit (by decide)

theorem newline_not_mem_vertexStatement (number : Nat) (v : Vertex) :
    '\n' ∉ (vertexStatement number v).toList := by
  unfold vertexStatement vertexName
  split <;> simp [newline_not_mem_quoted, newline_not_mem_toDigits]

theorem newline_not_mem_edgeStatement (e : Edge) : '\n' ∉ (edgeStatement e).toList := by
  unfold edgeStatement vertexName
  split <;> simp [newline_not_mem_quoted, newline_not_mem_toDigits]

theorem mapM_map_eq_some {α β γ : Type} {f : α → β} {g : β → Option γ} {h : α → γ}
    (hg : ∀ a, g (f a) = some (h a)) (as : List α) : (as.map f).mapM g = some (as.map h) := by
  induction as with
  | nil => rfl
  | cons a as ih =>
    rw [List.map_cons, List.mapM_cons, hg, ih]
    rfl

def vertexLines (g : Graph) : List (List Char) :=
  g.vertices.toList.zipIdx.map fun (v, number) => (vertexStatement number v).toList

def edgeLines (g : Graph) : List (List Char) :=
  g.edges.toList.map fun e => (edgeStatement e).toList

def linesBelow (g : Graph) : List String :=
  g.vertices.toList.zipIdx.map (fun (v, number) => vertexStatement number v)
    ++ "" :: (g.edges.toList.map edgeStatement ++ ["\x7d"])

theorem lines_eq_header_append (g : Graph) (l : Layout) : lines l g = header l ++ linesBelow g := by
  simp [lines, linesBelow]

theorem map_toList_linesBelow (g : Graph) : (linesBelow g).map String.toList =
    vertexLines g ++ [] :: (edgeLines g ++ ["\x7d".toList]) := by
  simp [linesBelow, vertexLines, edgeLines, Function.comp_def]

theorem newline_not_mem_linesBelow (g : Graph) : ∀ line ∈ (linesBelow g).map String.toList, '\n' ∉ line := by
  intro line hline
  rw [map_toList_linesBelow, vertexLines, edgeLines] at hline
  simp only [List.mem_append, List.mem_cons, List.mem_map, List.not_mem_nil, or_false] at hline
  rcases hline with ⟨_, _, rfl⟩ | rfl | ⟨_, _, rfl⟩ | rfl
  · exact newline_not_mem_vertexStatement _ _
  · exact List.not_mem_nil
  · exact newline_not_mem_edgeStatement _
  · decide

theorem read_toDot (g : Graph) (l : Layout) : read l (g.toDot l) = some g.statements := by
  have hbelow := map_toList_linesBelow g
  have htext : (g.toDot l).toList = ("\n".intercalate (header l) ++ "\n").toList
      ++ ['\n'].intercalate (vertexLines g ++ [] :: (edgeLines g ++ ["\x7d".toList])) := by
    rw [Graph.toDot, lines_eq_header_append,
      String.intercalate_append_of_ne_nil (by simp [header]) (by simp [linesBelow]),
      String.toList_append, String.toList_intercalate, hbelow]
    rfl
  have hnewline : ∀ line ∈ vertexLines g ++ [] :: (edgeLines g ++ ["\x7d".toList]), '\n' ∉ line :=
    hbelow ▸ newline_not_mem_linesBelow g
  have hne : ∀ line ∈ vertexLines g, decide (line ≠ []) = true := by
    intro line hline
    obtain ⟨_, _, rfl⟩ := List.mem_map.mp hline
    simp [vertexStatement]
  have hvertices : (vertexLines g).mapM readVertex = some g.statements.vertices :=
    mapM_map_eq_some (fun _ => readVertex_vertexStatement _ _) _
  have hedges : (edgeLines g).mapM readEdge = some g.edges.toList := by
    have hmap := mapM_map_eq_some readEdge_edgeStatement g.edges.toList
    simpa [edgeLines] using hmap
  rw [read, htext, isPrefixOf?_append, Option.bind_eq_bind, Option.bind_some,
    List.splitOn_intercalate '\n' hnewline (by simp)]
  dsimp only
  rw [List.takeWhile_append_of_pos hne, List.dropWhile_append_of_pos hne]
  simp [hvertices, hedges, Graph.statements]

end Dot

namespace Graph

/-- The graphs look the same. A missing label of a vertex looks like an empty one, that of an edge does
not. -/
structure LooksLike (g h : Graph) : Prop where
  size : g.size = h.size
  label : ∀ k, ((g.style? k).bind Style.label).getD "" = ((h.style? k).bind Style.label).getD ""
  color : ∀ k, (g.style? k).bind Style.color = (h.style? k).bind Style.color
  edges : g.edges = h.edges

theorem getElem?_vertices_statements (g : Graph) (k : Nat) :
    g.statements.vertices[k]? = if k < g.size then
      some ⟨k, ((g.style? k).bind Style.label).getD "", (g.style? k).bind Style.color⟩ else none := by
  simp only [statements, List.getElem?_map, List.getElem?_zipIdx, Array.getElem?_toList]
  split
  · next h =>
    obtain ⟨id, hv⟩ := exists_vertex h
    simp [hv]
  · next h =>
    have hnone : g.vertices[k]? = none := Array.getElem?_eq_none (g.size_vertices ▸ Nat.le_of_not_lt h)
    simp [hnone]

theorem length_vertices_statements (g : Graph) : g.statements.vertices.length = g.size := by
  simp [statements, size_vertices]

theorem statements_eq_iff {g h : Graph} : g.statements = h.statements ↔ g.LooksLike h := by
  constructor
  · intro heq
    have hsize : g.size = h.size := by
      rw [← length_vertices_statements, heq, length_vertices_statements]
    have hvertex (k : Nat) : ((g.style? k).bind Style.label).getD "" = ((h.style? k).bind Style.label).getD ""
        ∧ (g.style? k).bind Style.color = (h.style? k).bind Style.color := by
      by_cases hk : k < g.size
      · have hstatement := congrArg (fun s : Dot.Statements => s.vertices[k]?) heq
        simp only [getElem?_vertices_statements, ← hsize, if_pos hk, Option.some.injEq,
          Dot.VertexStatement.mk.injEq, true_and] at hstatement
        exact hstatement
      · rw [style?_of_le (Nat.le_of_not_lt hk), style?_of_le (hsize ▸ Nat.le_of_not_lt hk)]
        exact ⟨rfl, rfl⟩
    refine ⟨hsize, fun k => (hvertex k).1, fun k => (hvertex k).2, ?_⟩
    exact Array.toList_inj.mp (congrArg Dot.Statements.edges heq)
  · intro hlike
    have hvertices : g.statements.vertices = h.statements.vertices := by
      apply List.ext_getElem?
      intro k
      rw [getElem?_vertices_statements, getElem?_vertices_statements, hlike.size, hlike.label, hlike.color]
    have hedges : g.statements.edges = h.statements.edges := congrArg Array.toList hlike.edges
    exact congrArg₂ Dot.Statements.mk hvertices hedges

theorem lines_eq (g : Graph) (l : Layout) : Dot.lines l g = Dot.header l
    ++ g.statements.vertices.map (fun s => Dot.vertexStatement s.number ⟨⟨0⟩, some ⟨s.color, some s.label⟩⟩)
    ++ [""] ++ g.statements.edges.map Dot.edgeStatement ++ ["\x7d"] := by
  simp [Dot.lines, statements, Dot.vertexStatement, Function.comp_def]

theorem toDot_eq_iff {g h : Graph} {l : Layout} : g.toDot l = h.toDot l ↔ g.LooksLike h := by
  rw [← statements_eq_iff]
  constructor
  · intro htext
    have hread := Dot.read_toDot g l
    rw [htext, Dot.read_toDot] at hread
    exact (Option.some.inj hread).symm
  · intro hstatements
    rw [toDot, toDot, lines_eq, lines_eq, hstatements]

theorem read_toDot_applyAll (l : Layout) (cs : List Change) :
    let g := empty.applyAll cs
    Dot.read l (g.toDot l) = some g.statements ∧
      (∀ e ∈ g.statements.edges, ∃ tail ∈ g.statements.vertices, ∃ head ∈ g.statements.vertices,
        tail.number = e.tail ∧ head.number = e.head) ∧
      ∀ ds, g.toDot l = (empty.applyAll ds).toDot l ↔ g.LooksLike (empty.applyAll ds) := by
  intro g
  have hvertex {k : Nat} (hk : k < g.size) : ∃ s ∈ g.statements.vertices, s.number = k := by
    have hstatement := getElem?_vertices_statements g k
    rw [if_pos hk] at hstatement
    exact ⟨_, List.mem_of_getElem? hstatement, rfl⟩
  refine ⟨Dot.read_toDot g l, fun e he => ?_, fun ds => toDot_eq_iff⟩
  obtain ⟨htail, hhead⟩ := (wellFormed_applyAll wellFormed_empty cs).joined e he
  obtain ⟨tail, ht, htn⟩ := hvertex htail
  obtain ⟨head, hh, hhn⟩ := hvertex hhead
  exact ⟨tail, ht, head, hh, htn, hhn⟩

def quotedChanges : List Change := [
  .paint ⟨7⟩ ⟨some "red\", shape=\"box", some "a\"];\n    n9 [label=\"\\"⟩,
  .attach ⟨3⟩ (some (⟨7⟩, some ""))]

theorem read_toDot_quotedChanges :
    Dot.read {} ((empty.applyAll quotedChanges).toDot {}) = some {
      vertices := [⟨0, "a\"];\n    n9 [label=\"\\", some "red\", shape=\"box"⟩, ⟨1, "", none⟩]
      edges := [⟨0, 1, some ""⟩] } ∧
    (empty.applyAll quotedChanges).toDot {} ≠
      (empty.applyAll (quotedChanges.take 1 ++ [.attach ⟨3⟩ (some (⟨7⟩, none))])).toDot {} := by
  obtain ⟨hread, _, hlike⟩ := read_toDot_applyAll {} quotedChanges
  refine ⟨hread.trans (by decide +kernel), fun htext => ?_⟩
  have hedges := ((hlike _).mp htext).edges
  exact absurd hedges (by decide +kernel)

end Graph

end SyntaxGraph
