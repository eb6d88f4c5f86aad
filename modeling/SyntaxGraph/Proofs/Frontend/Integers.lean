import Mathlib
import SyntaxGraph.Proofs.Drawing.Widening
import SyntaxGraph.Proofs.Frontend
import SyntaxGraph.Proofs.Json.Reading
import SyntaxGraph.Proofs.Source.Constants
import SyntaxGraph.Proofs.Source.Literals
import SyntaxGraph.Proofs.Source.Visible

namespace SyntaxGraph

theorem Registry.resolve_constant (s : Settings) (h : Hierarchy) :
    (standard s h).resolve "Constant" = some (.constant s.palette.constant) := by
  rw [standard_eq, resolve_insertAll]
  rfl

section

variable {t : Tree} {s : Settings} {h : Hierarchy} {root id : NodeId} {g : Graph} {value : Option Scalar}

theorem styleOf_constant (hid : (id, value) ∈ t.constants)
    (hd : View.draw ⟨t, .standard s h⟩ root .empty = (.ok (), g)) (hg : (g.number? id).isSome) :
    g.styleOf id = some ⟨some s.palette.constant, value.map Scalar.text⟩ := by
  obtain ⟨n, hn, hkind, rfl⟩ := t.node_of_mem_constants hid
  obtain ⟨visited, hv⟩ := View.visited_of_draw hd
  have hresolve : (Registry.standard s h).resolve n.kind = some (.constant s.palette.constant) := by
    rw [hkind, Registry.resolve_constant]
  have hdrawing : View.drawing? ⟨t, .standard s h⟩ id = some (n, .constant s.palette.constant) :=
    View.drawing?_eq_some_iff.mpr ⟨hn, hresolve⟩
  exact hv.styleOf_eq hg hdrawing

end

namespace Frontend

open Json.Reader (Ends Yields number exists_yields_number)

/-- The integer literal that the constant number `k` of a source text is made of. -/
def literalAt? (text : String) (k : Nat) : Option Nat :=
  match Source.parse text with
  | .ok items => (Source.constantsOfItems items)[k]?.bind Source.Expr.integer?
  | .error _ => none

def numberAt? (text : String) (k : Nat) : Option Int :=
  match Json.read text with
  | .ok v => v.constants[k]?.join.bind Json.Value.integer?
  | .error _ => none

/-- The text writes the integer as its constant number `k`. -/
inductive Writes : Frontend → String → Nat → Int → Prop
  | source {text : String} {k n : Nat} (h : literalAt? text k = some n) : Writes rust text k n
  | document {text : String} {k : Nat} {z : Int} (h : numberAt? text k = some z) : Writes jsonTree text k z

inductive Shows (f : Frontend) (text : String) (k : Nat) : Option String → Prop
  | intro {t : Tree} {s : Settings} {h : Hierarchy} {name : String} {g : Graph} {id : NodeId}
    {value : Option Scalar} {style : Style} (ht : f.parse text = .ok t)
    (hg : Pipeline.graph ⟨.standard s h, stock⟩ ⟨name, f.language, text⟩ = .ok g)
    (hid : t.constants[k]? = some (id, value)) (hs : g.styleOf id = some style) : Shows f text k style.label

section

variable {f : Frontend} {text : String} {t : Tree} {k : Nat} {z : Int} {label : Option String}

theorem Writes.mem_stock (h : f.Writes text k z) : f ∈ stock := by
  cases h with
  | source => exact List.mem_cons_self
  | document => exact List.mem_cons_of_mem _ List.mem_cons_self

theorem exists_stored_literal {n : Nat} (h : literalAt? text k = some n) (ht : rust.parse text = .ok t) :
    ∃ s, (t.constants.map Prod.snd)[k]? = some (some s) ∧ s.Denotes n := by
  obtain ⟨items, hitems, rfl⟩ := exists_parsed_items ht
  unfold literalAt? at h
  rw [hitems] at h
  obtain ⟨e, he, hn⟩ := Option.bind_eq_some_iff.mp h
  obtain ⟨s, hs, hdenotes⟩ := e.exists_scalar hn
  refine ⟨s, ?_, hdenotes⟩
  rw [Source.constants_treeOfItems, List.getElem?_map, he, Option.map_some, hs]

theorem exists_stored_number (h : numberAt? text k = some z) (ht : jsonTree.parse text = .ok t) :
    ∃ s, (t.constants.map Prod.snd)[k]? = some (some s) ∧ s.Denotes z := by
  unfold numberAt? at h
  split at h
  · next v hv =>
    obtain ⟨value, hvalue, hz⟩ := Option.bind_eq_some_iff.mp h
    obtain ⟨s, hs, hdenotes⟩ := value.exists_scalar hz
    refine ⟨s, ?_, hdenotes⟩
    rw [parse_of_read hv] at ht
    rw [Json.constants_toTree (Except.of_mapError_eq_ok ht), List.getElem?_map,
      Option.join_eq_some_iff.mp hvalue, Option.map_some, Option.bind_some, hs]
  · cases h

theorem Writes.stored (h : f.Writes text k z) (ht : f.parse text = .ok t) :
    ∃ id s, t.constants[k]? = some (id, some s) ∧ s.Denotes z := by
  have hvalue : ∃ s, (t.constants.map Prod.snd)[k]? = some (some s) ∧ s.Denotes z := by
    cases h with
    | source h => exact exists_stored_literal h ht
    | document h => exact exists_stored_number h ht
  obtain ⟨s, hs, hdenotes⟩ := hvalue
  rw [List.getElem?_map] at hs
  obtain ⟨⟨id, _⟩, hid, rfl⟩ := Option.map_eq_some_iff.mp hs
  exact ⟨id, s, hid, hdenotes⟩

theorem Writes.label_eq (h : f.Writes text k z) (hshows : f.Shows text k label) :
    label = some (toString z) := by
  cases hshows with
  | @intro t s kinds name g id value style ht hg hid hs =>
    obtain ⟨id', scalar, hid', hdenotes⟩ := h.stored ht
    cases hid.symm.trans hid'
    obtain ⟨root, g', _, hdraw, hgraph⟩ := drawn_of_parse h.mem_stock ht (.standard s kinds)
    cases hg.symm.trans (hgraph name)
    obtain ⟨number, hnumber, _⟩ := Option.bind_eq_some_iff.mp hs
    have hstyle := styleOf_constant (List.mem_of_getElem? hid) hdraw (Option.isSome_of_eq_some hnumber)
    cases hs.symm.trans hstyle
    exact congrArg some hdenotes.text_eq

theorem isSome_number?_constant {id : NodeId} {value : Option Scalar} {name : String} {g : Graph}
    (ht : rust.parse text = .ok t) (hid : (id, value) ∈ t.constants)
    (hg : Pipeline.graph ⟨.standard {} .standard, stock⟩ ⟨name, .rust, text⟩ = .ok g) :
    (g.number? id).isSome := by
  obtain ⟨root, g', hroot, hdraw, hgraph⟩ := drawn_of_parse List.mem_cons_self ht (.standard {} .standard)
  cases hg.symm.trans (hgraph name)
  obtain ⟨n, hn, hkind, _⟩ := t.node_of_mem_constants hid
  have hdrawable : n.kind.isDrawable = true := by
    rw [hkind]
    decide +kernel
  obtain ⟨items, rfl⟩ := exists_items ht
  obtain ⟨hfitting, _⟩ := Source.fitting_treeOfItems items
  rw [hfitting.isSome_number? (Source.sound_treeOfItems items) hroot hdraw, Source.isDrawn_eq_isDrawable hn]
  exact hdrawable

end

/-- What becomes of an integer that a text writes: the node stores it, and where it is drawn, its numeral is
its label. In a source text it is always drawn. -/
structure KeepsInteger (f : Frontend) (text : String) (k : Nat) (z : Int) (t : Tree) (id : NodeId) : Prop where
  stored : ∃ s, t.constants[k]? = some (id, some s) ∧ s.Denotes z
  labelled : ∀ s h, ∃ g, (∀ name, Pipeline.graph ⟨.standard s h, stock⟩ ⟨name, f.language, text⟩ = .ok g) ∧
    ((g.number? id).isSome → g.styleOf id = some ⟨some s.palette.constant, some (toString z)⟩)
  drawn : f = rust → ∀ name g, Pipeline.graph ⟨.standard {} .standard, stock⟩ ⟨name, .rust, text⟩ = .ok g →
    (g.number? id).isSome
  distinguished : ∀ (f' : Frontend) (text' : String) (k' : Nat) (z' : Int), f'.Writes text' k' z' →
    ∀ label label', f.Shows text k label → f'.Shows text' k' label' → (label = label' ↔ z = z')

theorem integers_kept :
    Source.Scans Source.Scan.integer Source.Literal.SpelledBy ∧
    (∀ z : Int, -2 ^ 63 ≤ z → z < 2 ^ 64 → ∃ m : Json.Number, m.integer? = some z ∧
      ∀ rest, Ends rest → Yields number ((toString z).toList ++ rest) m rest) ∧
    ∀ (f : Frontend) (text : String) (k : Nat) (z : Int) (t : Tree), f.Writes text k z →
      f.parse text = .ok t → ∃ id, KeepsInteger f text k z t id := by
  refine ⟨Source.scans_integer, fun z hlow hhigh => exists_yields_number hlow hhigh, ?_⟩
  intro f text k z t hz ht
  obtain ⟨id, scalar, hid, hdenotes⟩ := hz.stored ht
  have hmem := List.mem_of_getElem? hid
  refine ⟨id, ?_⟩
  constructor
  case stored => exact ⟨scalar, hid, hdenotes⟩
  case labelled =>
    intro s h
    obtain ⟨root, g, _, hdraw, hgraph⟩ := drawn_of_parse hz.mem_stock ht (.standard s h)
    refine ⟨g, hgraph, fun hg => ?_⟩
    rw [styleOf_constant hmem hdraw hg, Option.map_some, hdenotes.text_eq]
  case drawn =>
    rintro rfl name g hg
    exact isSome_number?_constant ht hmem hg
  case distinguished =>
    intro f' text' k' z' hz' label label' hlabel hlabel'
    rw [hz.label_eq hlabel, hz'.label_eq hlabel', Option.some.injEq, Int.toString_eq_repr,
      Int.toString_eq_repr, Int.repr_inj]

def wideText : String :=
  "const A: u64 = 0xffff_ffff_ffff_ffff; const B: u128 = 18_446_744_073_709_551_616u128;"

def largestDocument : String :=
  "\x7b\"kind\": \"Constant\", \"fields\": \x7b\"value\": 18446744073709551615\x7d\x7d"

theorem integers_kept_wideText :
    (∃ m : Json.Number, m.integer? = some (-2 ^ 63) ∧
      Yields number "-9223372036854775808,".toList m ",".toList) ∧
    rust.Writes wideText 0 18446744073709551615 ∧ rust.Writes wideText 1 18446744073709551616 ∧
      jsonTree.Writes largestDocument 0 18446744073709551615 ∧
      (∃ t, rust.parse wideText = .ok t ∧ (∃ id, KeepsInteger rust wideText 0 18446744073709551615 t id) ∧
        ∃ id, KeepsInteger rust wideText 1 18446744073709551616 t id) ∧
      ∃ t, jsonTree.parse largestDocument = .ok t ∧
        ∃ id, KeepsInteger jsonTree largestDocument 0 18446744073709551615 t id := by
  have hfirst : rust.Writes wideText 0 18446744073709551615 :=
    .source (n := 18446744073709551615) (by decide +kernel)
  have hsecond : rust.Writes wideText 1 18446744073709551616 :=
    .source (n := 18446744073709551616) (by decide +kernel)
  have hdocument : jsonTree.Writes largestDocument 0 18446744073709551615 := .document (by decide +kernel)
  have hparse : (rust.parse wideText).isOk = true := by decide +kernel
  have hparse' : (jsonTree.parse largestDocument).isOk = true := by decide +kernel
  obtain ⟨t, ht⟩ := Except.isOk_iff_exists.mp hparse
  obtain ⟨t', ht'⟩ := Except.isOk_iff_exists.mp hparse'
  obtain ⟨m, hm, hread⟩ := integers_kept.2.1 (-2 ^ 63) (by decide) (by decide)
  have hends : Ends ",".toList := by
    intro c hc
    cases hc
    decide
  exact ⟨⟨m, hm, hread _ hends⟩, hfirst, hsecond, hdocument,
    ⟨t, ht, integers_kept.2.2 _ _ _ _ _ hfirst ht, integers_kept.2.2 _ _ _ _ _ hsecond ht⟩,
    t', ht', integers_kept.2.2 _ _ _ _ _ hdocument ht'⟩

end Frontend

end SyntaxGraph
