import SyntaxGraph.Path

namespace SyntaxGraph

inductive Language where
  | rust
  | jsonTree
  deriving DecidableEq, Repr

namespace Language

def all : List Language := [rust, jsonTree]

def names : Language → List String
  | rust => ["rust", "rs"]
  | jsonTree => ["json", "json-tree"]

def name : Language → String
  | rust => "rust"
  | jsonTree => "json"

def extension : Language → String
  | rust => "rs"
  | jsonTree => "json"

def fallback : Language := rust

def ofName? (s : String) : Option Language :=
  all.find? fun l => l.names.contains s.toLower

def ofPath? {ω : Type} [Word ω] [DecidableEq ω] (path : ω) : Option Language :=
  ((Path.extension? path).bind Word.text?).bind fun e => all.find? fun l => l.extension = e.toLower

def unknownMessage (s : String) : String :=
  "unknown language `" ++ s ++ "` (expected rust or json)"

end Language

end SyntaxGraph
