import SyntaxGraph.Settings.Basic
import SyntaxGraph.Toml.Reader

namespace SyntaxGraph

inductive SettingsError where
  | malformed
  | unfit
  deriving DecidableEq, Repr

namespace SettingsError

def message : SettingsError → String
  | _ => "Invalid configuration"

def messages (e : SettingsError) : List String :=
  match e with
  | malformed => [e.message, "TOML parse error"]
  | unfit => [e.message, "TOML parse error: an entry of the wrong type"]

end SettingsError

namespace Settings

open Toml (Value)

/-- The name under which a date reads as a table of one entry. -/
def dateEntry : String := "$__toml_private_datetime"

def entries? : Value → Option (List (String × Value))
  | .table entries => some entries
  | .datetime text => some [(dateEntry, .string text)]
  | _ => none

def record? (names : List String) : Value → Option (List (String × Value))
  | .array items => some (names.zip items)
  | v => entries? v

def text? : Value → Option String
  | .string s => some s
  | _ => none

def fontSize? : Value → Option UInt32
  | .integer i => if 0 ≤ i ∧ i.toInt < Int.pow 2 32 then some i.toNatClampNeg.toUInt32 else none
  | _ => none

def entryD {α : Type} (entries : List (String × Value)) (name : String) (stock : α)
    (read : Value → Option α) : Option α :=
  match entries.lookup name with
  | none => some stock
  | some v => read v

def texts? (v : Value) : Option (List (String × String)) := do
  let entries ← entries? v
  let texts ← entries.mapM fun (name, v) => (text? v).map (name, ·)
  return texts.mergeSort fun a b => a.1 ≤ b.1

def palette? (v : Value) : Option Palette := do
  let entries ← record? ["default", "binop", "call", "name", "constant", "compare"] v
  let stock : Palette := {}
  return {
    general := ← entryD entries "default" stock.general text?
    binary := ← entryD entries "binop" stock.binary text?
    call := ← entryD entries "call" stock.call text?
    name := ← entryD entries "name" stock.name text?
    constant := ← entryD entries "constant" stock.constant text?
    comparison := ← entryD entries "compare" stock.comparison text? }

def layout? (v : Value) : Option Layout := do
  let entries ← record? ["rankdir", "font_size", "node_shape"] v
  let stock : Layout := {}
  return {
    direction := ← entryD entries "rankdir" stock.direction text?
    fontSize := ← entryD entries "font_size" stock.fontSize fontSize?
    shape := ← entryD entries "node_shape" stock.shape text? }

def ofEntries? (entries : List (String × Value)) : Option Settings := do
  let stock : Settings := {}
  return {
    binarySymbols := ← entryD entries "binop_symbols" stock.binarySymbols texts?
    comparisonSymbols := ← entryD entries "compare_symbols" stock.comparisonSymbols texts?
    palette := ← entryD entries "palette" stock.palette palette?
    layout := ← entryD entries "render" stock.layout layout?
    hierarchy := ← entryD entries "hierarchy" stock.hierarchy texts? }

def read (text : String) : Except SettingsError Settings :=
  match Toml.read text with
  | none => .error .malformed
  | some entries =>
    match ofEntries? entries with
    | none => .error .unfit
    | some s => .ok s

end Settings

end SyntaxGraph
