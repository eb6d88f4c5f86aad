import SyntaxGraph.Drawing.Strategy
import SyntaxGraph.Entries
import SyntaxGraph.Text.Quoted

/-!
Which strategy draws which kind. A kind that is registered itself is drawn by its own strategy; any
other by that of its first registered ancestor, first in the order of registration. Where a kind stands
in that order is kept in an index.
-/

namespace SyntaxGraph

class Registrable (σ : Type) where
  ownKinds : σ → List Kind

instance : Registrable Strategy where
  ownKinds := Strategy.ownKinds

structure Registry (σ : Type := Strategy) where
  hierarchy : Hierarchy
  entries : List (Kind × σ) := []
  index : List (Kind × Nat) := []
  indexed : Indexes index (entries.map (·.1)) := by exact indexes_nil
  deriving DecidableEq, Repr

namespace Registry

variable {σ : Type}

def builder (h : Hierarchy) : Registry σ :=
  { hierarchy := h }

def kinds (r : Registry σ) : List Kind :=
  r.entries.map (·.1)

theorem lookup_index (r : Registry σ) (kind : Kind) (slot : Nat) :
    r.index.lookup kind = some slot ↔ r.kinds[slot]? = some kind :=
  r.indexed kind slot

theorem slot_lt (r : Registry σ) {kind : Kind} {slot : Nat} (h : r.index.lookup kind = some slot) :
    slot < r.entries.length := by
  obtain ⟨hlt, _⟩ := List.getElem?_eq_some_iff.mp ((r.lookup_index kind slot).mp h)
  simpa [kinds] using hlt

theorem map_fst_replace (entries : List (Kind × σ)) (slot : Nat) (s : σ) :
    (entries.modify slot fun e => (e.1, s)).map (·.1) = entries.map (·.1) := by
  apply List.ext_getElem?
  intro i
  rw [List.getElem?_map, List.getElem?_map, List.getElem?_modify]
  split <;> cases entries[i]? <;> rfl

def insert (r : Registry σ) (s : σ) (kind : Kind) : Registry σ :=
  match h : r.index.lookup kind with
  | some slot =>
    { r with
      entries := r.entries.modify slot fun e => (e.1, s)
      indexed := by rw [map_fst_replace]; exact r.indexed }
  | none =>
    { r with
      entries := r.entries ++ [(kind, s)]
      index := (kind, r.entries.length) :: r.index
      indexed := by simpa using r.indexed.append h }

def registerFor (r : Registry σ) (s : σ) (kinds : List Kind) : Registry σ :=
  kinds.foldl (·.insert s ·) r

def register [Registrable σ] (r : Registry σ) (s : σ) : Registry σ :=
  r.registerFor s (Registrable.ownKinds s)

/-- The strategy of the first registered kind that is the kind itself or above it. -/
def inherited (r : Registry σ) (kind : Kind) : Option σ :=
  let above := r.hierarchy.ancestors kind
  (r.entries.find? fun e => above.contains e.1).map (·.2)

def resolve (r : Registry σ) (kind : Kind) : Option σ :=
  match h : r.index.lookup kind with
  | some slot => some (r.entries.get ⟨slot, r.slot_lt h⟩).2
  | none => r.inherited kind

def draws (r : Registry σ) (kind : Kind) : Bool :=
  (r.resolve kind).isSome

def text (r : Registry) : String :=
  let entry := fun ((kind, s) : Kind × Strategy) =>
    Text.quoted kind ++ ": " ++ Text.quoted s.title
  "\x7b" ++ ", ".intercalate (r.entries.map entry) ++ "\x7d"

def standard (s : Settings) (h : Hierarchy) : Registry :=
  builder h
    |>.register (.general s.palette.general)
    |>.register (.binary s.binarySymbols s.palette.binary)
    |>.register (.call s.palette.call)
    |>.register (.name s.palette.name)
    |>.register (.constant s.palette.constant)
    |>.register (.comparison s.comparisonSymbols s.palette.comparison)

end Registry

end SyntaxGraph
