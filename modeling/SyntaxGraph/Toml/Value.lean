/-!
TOML values and the tables that a document is made of. A table is put together line by line: headers
name a table to fill, dotted keys reach into tables below it, and what has been given once is not given
again. How a table came about decides what may still be put into it.
-/

namespace SyntaxGraph.Toml

inductive Value where
  | string (value : String)
  | integer (value : Int64)
  | float (value : Float)
  | boolean (value : Bool)
  | datetime (text : String)
  | array (items : List Value)
  | table (entries : List (String × Value))
  deriving Repr

/-- How a table came about: it has a header of its own, or it lies on the way of a longer header, or on
the way of a dotted key. -/
inductive Origin where
  | header
  | path
  | key
  deriving DecidableEq, Repr

inductive Item where
  | value (v : Value)
  | table (origin : Origin) (entries : List (String × Item))
  | tables (last : List (String × Item)) (earlier : List (List (String × Item)))
  deriving Repr

abbrev Entries := List (String × Item)

namespace Entries

def holds (es : Entries) (name : String) : Bool :=
  es.any (·.1 == name)

def put (es : Entries) (name : String) (item : Item) : Entries :=
  if es.holds name then es.map fun e => if e.1 = name then (name, item) else e
  else es ++ [(name, item)]

/-- Changes the table that a path leads to. Tables missing on the way are made, an array of tables
leads to its last one, and a dotted key does not lead into a table with a header. -/
def within (dotted : Bool) (change : Origin → Entries → Option Entries) :
    List String → Origin → Entries → Option Entries
  | [], origin, es => change origin es
  | name :: path, _, es => do
    match es.lookup name with
    | none =>
      let origin := if dotted then .key else .path
      let inner ← within dotted change path origin []
      return es.put name (.table origin inner)
    | some (.value _) => none
    | some (.table origin inner) =>
      if dotted && origin = .header then none
      let inner ← within dotted change path origin inner
      return es.put name (.table origin inner)
    | some (.tables last earlier) =>
      let last ← within dotted change path .header last
      return es.put name (.tables last earlier)

def assign (es : Entries) (path : List String) (name : String) (v : Value) : Option Entries :=
  es.within true (fun origin es =>
    if !path.isEmpty && origin ≠ .key then none
    else if es.holds name then none
    else es.put name (.value v)) path .header

def openTable (es : Entries) (name : String) : Option Entries :=
  match es.lookup name with
  | none => es.put name (.table .header [])
  | some (.table .path inner) => es.put name (.table .header inner)
  | some _ => none

def openElement (es : Entries) (name : String) : Option Entries :=
  match es.lookup name with
  | none => es.put name (.tables [] [])
  | some (.tables last earlier) => es.put name (.tables [] (last :: earlier))
  | some _ => none

end Entries

mutual

def Item.toValue : Item → Value
  | .value v => v
  | .table _ entries => .table (valuesOf entries)
  | .tables last earlier => .array ((Value.table (valuesOf last) :: valuesOfEach earlier).reverse)

def valuesOf : List (String × Item) → List (String × Value)
  | [] => []
  | (name, item) :: rest => (name, item.toValue) :: valuesOf rest

def valuesOfEach : List (List (String × Item)) → List Value
  | [] => []
  | entries :: rest => .table (valuesOf entries) :: valuesOfEach rest

end

structure Key where
  path : List String
  name : String
  deriving DecidableEq, Repr

inductive Line where
  | table (key : Key)
  | element (key : Key)
  | entry (key : Key) (value : Value)
  deriving Repr

structure Draft where
  root : Entries := []
  current : List String := []

namespace Draft

def change (d : Draft) (path : List String) (f : Entries → Option Entries) : Option Entries :=
  d.root.within false (fun _ es => f es) path .header

def add (d : Draft) : Line → Option Draft
  | .table k => do
    let root ← d.change k.path (·.openTable k.name)
    return { root := root, current := k.path ++ [k.name] }
  | .element k => do
    let root ← d.change k.path (·.openElement k.name)
    return { root := root, current := k.path ++ [k.name] }
  | .entry k v => do
    let root ← d.change d.current (·.assign k.path k.name v)
    return { d with root := root }

end Draft

def tableOfLines (lines : List Line) : Option (List (String × Value)) :=
  (lines.foldlM Draft.add {}).map fun d => valuesOf d.root

end SyntaxGraph.Toml
