import Mathlib.Data.List.Nodup
import SyntaxGraph.Toml.Reader

/-!
The names in a table. What a document has given it cannot give again, so in no table that is read does a
name stand twice.
-/

namespace SyntaxGraph.Toml

open Text (Scan)

/-- Neither this value nor any value in it is a table with a name that stands twice. -/
inductive Value.Distinct : Value → Prop where
  | string {s : String} : Distinct (.string s)
  | integer {i : Int64} : Distinct (.integer i)
  | float {x : Float} : Distinct (.float x)
  | boolean {b : Bool} : Distinct (.boolean b)
  | datetime {text : String} : Distinct (.datetime text)
  | array {items : List Value} : (∀ v ∈ items, v.Distinct) → Distinct (.array items)
  | table {entries : List (String × Value)} : (entries.map Prod.fst).Nodup →
    (∀ e ∈ entries, e.2.Distinct) → Distinct (.table entries)

inductive Item.Distinct : Item → Prop where
  | value {v : Value} : v.Distinct → Distinct (.value v)
  | table {origin : Origin} {es : List (String × Item)} : (es.map Prod.fst).Nodup →
    (∀ e ∈ es, e.2.Distinct) → Distinct (.table origin es)
  | tables {last : List (String × Item)} {earlier : List (List (String × Item))} :
    (∀ es ∈ last :: earlier, (es.map Prod.fst).Nodup) →
    (∀ es ∈ last :: earlier, ∀ e ∈ es, e.2.Distinct) → Distinct (.tables last earlier)

structure Entries.Distinct (es : Entries) : Prop where
  names : (es.map Prod.fst).Nodup
  items : ∀ e ∈ es, e.2.Distinct

def Line.Distinct : Line → Prop
  | .table _ => True
  | .element _ => True
  | .entry _ v => v.Distinct

section

variable {es es' : Entries} {name : String} {item : Item}

theorem valuesOf_eq (es : Entries) : valuesOf es = es.map fun e => (e.1, e.2.toValue) := by
  induction es with
  | nil => rfl
  | cons e es ih => rw [valuesOf, ih, List.map_cons]

theorem valuesOfEach_eq (ess : List Entries) : valuesOfEach ess = ess.map (.table ∘ valuesOf) := by
  induction ess with
  | nil => rfl
  | cons es ess ih => rw [valuesOfEach, ih, List.map_cons, Function.comp_apply]

theorem distinct_valuesOf (hnames : (es.map Prod.fst).Nodup) (hitems : ∀ e ∈ es, e.2.toValue.Distinct) :
    (Value.table (valuesOf es)).Distinct := by
  rw [valuesOf_eq]
  refine .table ?_ fun e he => ?_
  · rwa [List.map_map]
  · obtain ⟨e', he', rfl⟩ := List.mem_map.mp he
    exact hitems e' he'

theorem Item.Distinct.toValue (h : item.Distinct) : item.toValue.Distinct := by
  induction h with
  | value hv => exact hv
  | table hnames _ ih => exact distinct_valuesOf hnames ih
  | @tables last earlier hnames _ ih =>
    rw [Item.toValue, valuesOfEach_eq]
    refine .array fun v hv => ?_
    rw [List.mem_reverse, ← Function.comp_apply (f := Value.table), ← List.map_cons] at hv
    obtain ⟨es, hes, rfl⟩ := List.mem_map.mp hv
    exact distinct_valuesOf (hnames es hes) (ih es hes)

theorem Entries.Distinct.toValue (h : es.Distinct) : (Value.table (valuesOf es)).Distinct :=
  distinct_valuesOf h.names fun e he => (h.items e he).toValue

theorem Entries.distinct_nil : Entries.Distinct [] :=
  ⟨List.nodup_nil, nofun⟩

theorem Item.distinct_tables {last : Entries} {earlier : List Entries} :
    (Item.tables last earlier).Distinct ↔ ∀ es ∈ last :: earlier, es.Distinct := by
  constructor
  · rintro (_ | _ | ⟨hnames, hitems⟩) es hes
    exact ⟨hnames es hes, hitems es hes⟩
  · intro h
    exact .tables (fun es hes => (h es hes).names) fun es hes => (h es hes).items

theorem Entries.Distinct.of_lookup (h : es.Distinct) (hl : es.lookup name = some item) : item.Distinct := by
  obtain ⟨before, after, rfl, _⟩ := List.lookup_eq_some_iff.mp hl
  exact h.items (name, item) (by simp)

theorem Entries.Distinct.put (h : es.Distinct) (hi : item.Distinct) : (es.put name item).Distinct := by
  unfold Entries.put
  split
  · next hholds =>
    have hfst : (es.map fun e => if e.1 = name then (name, item) else e).map Prod.fst = es.map Prod.fst := by
      rw [List.map_map]
      refine List.map_congr_left fun e _ => ?_
      by_cases he : e.1 = name <;> simp [he]
    refine ⟨hfst ▸ h.names, fun e he => ?_⟩
    obtain ⟨e', he', rfl⟩ := List.mem_map.mp he
    split
    · exact hi
    · exact h.items e' he'
  · next hholds =>
    have hname : name ∉ es.map Prod.fst := by
      intro hmem
      obtain ⟨e, he, rfl⟩ := List.mem_map.mp hmem
      exact hholds (List.any_eq_true.mpr ⟨e, he, beq_self_eq_true _⟩)
    constructor
    · rw [List.map_append, List.map_singleton, List.nodup_append]
      refine ⟨h.names, List.nodup_singleton _, ?_⟩
      rintro a ha b hb rfl
      rw [List.mem_singleton.mp hb] at ha
      exact hname ha
    · intro e he
      rcases List.mem_append.mp he with he | he
      · exact h.items e he
      · rw [List.mem_singleton.mp he]
        exact hi

theorem Entries.Distinct.within {dotted : Bool} {change : Origin → Entries → Option Entries}
    (hchange : ∀ origin es es', Entries.Distinct es → change origin es = some es' → Entries.Distinct es')
    {path : List String} {origin : Origin} (h : es.Distinct)
    (hw : es.within dotted change path origin = some es') : es'.Distinct := by
  induction path generalizing origin es es' with
  | nil => exact hchange _ _ _ h hw
  | cons name path ih =>
    simp only [Entries.within, Option.bind_eq_bind, Option.pure_def] at hw
    split at hw
    · obtain ⟨inner, hinner, hput⟩ := Option.bind_eq_some_iff.mp hw
      cases hput
      have hd := ih Entries.distinct_nil hinner
      exact h.put (.table hd.names hd.items)
    · cases hw
    · next inner hl =>
      cases h.of_lookup hl with | table hnames hitems => ?_
      split at hw
      · cases hw
      · obtain ⟨inner', hinner, hput⟩ := Option.bind_eq_some_iff.mp hw
        cases hput
        have hd := ih ⟨hnames, hitems⟩ hinner
        exact h.put (.table hd.names hd.items)
    · next last earlier hl =>
      have hall := Item.distinct_tables.mp (h.of_lookup hl)
      obtain ⟨last', hlast, hput⟩ := Option.bind_eq_some_iff.mp hw
      cases hput
      have hd := ih (hall last List.mem_cons_self) hlast
      refine h.put (Item.distinct_tables.mpr fun es hes => ?_)
      rcases List.mem_cons.mp hes with rfl | hes
      · exact hd
      · exact hall es (List.mem_cons_of_mem _ hes)

theorem Entries.Distinct.assign {path : List String} {v : Value} (h : es.Distinct) (hv : v.Distinct)
    (ha : es.assign path name v = some es') : es'.Distinct := by
  refine h.within (fun origin inner inner' hinner hput => ?_) ha
  split at hput
  · cases hput
  · split at hput
    · cases hput
    · cases hput
      exact hinner.put (.value hv)

theorem Entries.Distinct.openTable (h : es.Distinct) (ho : es.openTable name = some es') :
    es'.Distinct := by
  unfold Entries.openTable at ho
  split at ho
  · cases ho
    exact h.put (.table List.nodup_nil nofun)
  · next inner hl =>
    cases ho
    cases h.of_lookup hl with
    | table hnames hitems => exact h.put (.table hnames hitems)
  · cases ho

theorem Entries.Distinct.openElement (h : es.Distinct) (ho : es.openElement name = some es') :
    es'.Distinct := by
  unfold Entries.openElement at ho
  split at ho
  · cases ho
    refine h.put (Item.distinct_tables.mpr fun es hes => ?_)
    rw [List.mem_singleton.mp hes]
    exact distinct_nil
  · next last earlier hl =>
    cases ho
    have hall := Item.distinct_tables.mp (h.of_lookup hl)
    refine h.put (Item.distinct_tables.mpr fun es hes => ?_)
    rcases List.mem_cons.mp hes with rfl | hes
    · exact distinct_nil
    · exact hall es hes
  · cases ho

theorem distinct_add {d d' : Draft} {l : Line} (hd : d.root.Distinct) (hl : l.Distinct)
    (ha : d.add l = some d') : d'.root.Distinct := by
  cases l with
  | table k =>
    obtain ⟨root, hroot, hd'⟩ := Option.bind_eq_some_iff.mp ha
    cases hd'
    exact hd.within (fun _ _ _ h ho => h.openTable ho) hroot
  | element k =>
    obtain ⟨root, hroot, hd'⟩ := Option.bind_eq_some_iff.mp ha
    cases hd'
    exact hd.within (fun _ _ _ h ho => h.openElement ho) hroot
  | entry k v =>
    obtain ⟨root, hroot, hd'⟩ := Option.bind_eq_some_iff.mp ha
    cases hd'
    exact hd.within (fun _ _ _ h ho => h.assign hl ho) hroot

theorem distinct_addAll {lines : List Line} {d d' : Draft} (hd : d.root.Distinct)
    (hlines : ∀ l ∈ lines, l.Distinct) (ha : lines.foldlM Draft.add d = some d') : d'.root.Distinct := by
  induction lines generalizing d with
  | nil =>
    cases ha
    exact hd
  | cons l lines ih =>
    rw [List.foldlM_cons] at ha
    obtain ⟨d₁, hd₁, ha⟩ := Option.bind_eq_some_iff.mp ha
    have hl := distinct_add hd (hlines l List.mem_cons_self) hd₁
    exact ih hl (fun l' hl' => hlines l' (List.mem_cons_of_mem _ hl')) ha

end

section

variable {α β : Type} {P : α → Prop} {Q : β → Prop} {x y : Scan α} {f : α → Scan β}

def Gives (P : α → Prop) (x : Scan α) : Prop :=
  ∀ s a s', x.run s = some (a, s') → P a

theorem Gives.pure {a : α} (h : P a) : Gives P (Pure.pure a) := by
  intro s a' s' hr
  cases hr
  exact h

theorem Gives.bind (hx : Gives P x) (hf : ∀ a, P a → Gives Q (f a)) : Gives Q (x >>= f) := by
  intro s b s'' hr
  rw [StateT.run_bind] at hr
  obtain ⟨⟨a, s'⟩, ha, hb⟩ := Option.bind_eq_some_iff.mp hr
  exact hf a (hx s a s' ha) s' b s'' hb

theorem Gives.after (hf : ∀ a, Gives Q (f a)) : Gives Q (x >>= f) :=
  .bind (P := fun _ => True) (fun _ _ _ _ => trivial) fun a _ => hf a

theorem Gives.map {g : α → β} (hg : ∀ a, Q (g a)) : Gives Q (g <$> x) := by
  rw [map_eq_pure_bind]
  exact .after fun a => .pure (hg a)

theorem Gives.failure : Gives P failure := by
  intro s a s' hr
  cases hr

theorem Gives.orElse (hx : Gives P x) (hy : Gives P y) : Gives P (x <|> y) := by
  intro s a s' hr
  change (x.run s <|> y.run s) = some (a, s') at hr
  cases hxs : x.run s with
  | none =>
    rw [hxs] at hr
    exact hy s a s' hr
  | some r =>
    rw [hxs] at hr
    exact hx s a s' (hxs.trans hr)

theorem gives_liftM {o : Option α} (h : ∀ a, o = some a → P a) : Gives P (liftM o : Scan α) := by
  intro s a s' hr
  obtain ⟨a', ha', hs⟩ := Option.bind_eq_some_iff.mp hr
  cases hs
  exact h a ha'

theorem gives_simpleValue : Gives Value.Distinct Scan.simpleValue := by
  unfold Scan.simpleValue
  refine .orElse ?_ (.orElse ?_ (.orElse ?_ (.orElse ?_ ?_)))
  · exact .map fun _ => .string
  · exact .map fun _ => .datetime
  · exact .map fun _ => .float
  · exact .map fun _ => .integer
  · exact .orElse (.after fun _ => .pure .boolean) (.after fun _ => .pure .boolean)

theorem gives_items {item : Scan Value} (h : Gives Value.Distinct item) (n : Nat) {found : List Value}
    (hfound : ∀ v ∈ found, v.Distinct) : Gives (fun vs => ∀ v ∈ vs, v.Distinct) (Scan.items item n found) := by
  induction n generalizing found with
  | zero => exact .failure
  | succ n ih =>
    have hreverse {vs : List Value} (hvs : ∀ v ∈ vs, v.Distinct) : ∀ v ∈ vs.reverse, v.Distinct :=
      fun v hv => hvs v (List.mem_reverse.mp hv)
    unfold Scan.items
    refine .after fun _ => .after fun close => ?_
    split
    · exact .after fun _ => .pure (hreverse hfound)
    · refine .bind h fun v hv => ?_
      have hcons : ∀ v' ∈ v :: found, v'.Distinct := List.forall_mem_cons.mpr ⟨hv, hfound⟩
      refine .after fun _ => .after fun comma => ?_
      split
      · exact .after fun _ => ih hcons
      · exact .after fun _ => .pure (hreverse hcons)

theorem gives_entry {item : Scan Value} (h : Gives Value.Distinct item) :
    Gives (fun e => e.2.Distinct) (Scan.entry item) :=
  .after fun _ => .after fun _ => .after fun _ => .bind h fun _ hv => .pure hv

theorem gives_entries {item : Scan Value} (h : Gives Value.Distinct item) (n : Nat) {found : Entries}
    (hfound : found.Distinct) : Gives Entries.Distinct (Scan.entries item n found) := by
  induction n generalizing found with
  | zero => exact .failure
  | succ n ih =>
    unfold Scan.entries
    refine .bind (gives_entry h) fun e he => ?_
    refine .bind (gives_liftM fun found' hf => hfound.assign he hf) fun found' hfound' => ?_
    refine .after fun _ => .after fun comma => ?_
    split
    · exact .after fun _ => ih hfound'
    · exact .after fun _ => .pure hfound'

theorem gives_inlineTable {item : Scan Value} (h : Gives Value.Distinct item) :
    Gives Entries.Distinct (Scan.inlineTable item) := by
  unfold Scan.inlineTable
  refine .after fun _ => .after fun close => ?_
  split
  · exact .after fun _ => .pure Entries.distinct_nil
  · exact .after fun n => gives_entries h n Entries.distinct_nil

theorem gives_valueWithin (n : Nat) : Gives Value.Distinct (Scan.valueWithin n) := by
  induction n with
  | zero => exact gives_simpleValue
  | succ n ih =>
    unfold Scan.valueWithin
    refine .after fun bracket => ?_
    split
    · exact .after fun _ => .after fun n => .bind (gives_items ih n nofun) fun vs hvs => .pure (.array hvs)
    · refine .after fun brace => ?_
      split
      · exact .after fun _ => .bind (gives_inlineTable ih) fun es hes => .pure hes.toValue
      · exact gives_simpleValue

theorem gives_header : Gives Line.Distinct Scan.header := by
  unfold Scan.header
  refine .after fun double => ?_
  split
  · exact .after fun _ => .after fun _ => .after fun _ => .pure trivial
  · exact .after fun _ => .after fun _ => .after fun _ => .pure trivial

theorem gives_lines (n : Nat) {found : List Line} (hfound : ∀ l ∈ found, l.Distinct) :
    Gives (fun ls => ∀ l ∈ ls, l.Distinct) (Scan.lines n found) := by
  induction n generalizing found with
  | zero => exact .failure
  | succ n ih =>
    unfold Scan.lines
    refine .after fun _ => .after fun next => ?_
    split
    · exact .pure fun l hl => hfound l (List.mem_reverse.mp hl)
    · exact .after fun _ => .after fun _ => ih hfound
    · exact .after fun _ => ih hfound
    · exact .after fun _ => ih hfound
    · exact .bind gives_header fun l hl => .after fun _ => ih (List.forall_mem_cons.mpr ⟨hl, hfound⟩)
    · refine .bind (gives_entry (gives_valueWithin _)) fun e he => ?_
      exact .after fun _ => ih (List.forall_mem_cons.mpr ⟨he, hfound⟩)

theorem distinct_read {text : String} {entries : List (String × Value)} (h : read text = some entries) :
    (Value.table entries).Distinct := by
  obtain ⟨⟨lines, s⟩, hlines, htable⟩ := Option.bind_eq_some_iff.mp h
  obtain ⟨d, hd, rfl⟩ := Option.map_eq_some_iff.mp htable
  have hall : Gives (fun ls => ∀ l ∈ ls, l.Distinct) Scan.document :=
    .after fun _ => .after fun n => gives_lines n nofun
  exact (distinct_addAll Entries.distinct_nil (hall _ lines s hlines) hd).toValue

end

end SyntaxGraph.Toml
