import SyntaxGraph.Language
import SyntaxGraph.Source.Draft
import SyntaxGraph.Source.Parse
import SyntaxGraph.Tree.Document

namespace SyntaxGraph

inductive ParseError where
  | faulty (place : Text.Position)
  | misshapen (error : MisshapenTree)
  | malformed (error : Json.ReadError)
  deriving DecidableEq, Repr

namespace ParseError

def message : ParseError → String
  | faulty place => "syntax error at " ++ toString place.line ++ ":" ++ toString place.column
  | misshapen error => "invalid tree: " ++ error.message
  | malformed error => "malformed JSON: " ++ error.message

def messages (e : ParseError) : List String :=
  match e with
  | malformed error => [e.message, error.message]
  | _ => [e.message]

end ParseError

structure Frontend where
  language : Language
  parse : String → Except ParseError Tree

namespace Frontend

def rust : Frontend where
  language := .rust
  parse text := ((Source.parse text).map Source.treeOfItems).mapError .faulty

def jsonTree : Frontend where
  language := .jsonTree
  parse text := (Tree.ofDocument text).mapError fun
    | .malformed error => .malformed error
    | .misshapen error => .misshapen error

def stock : List Frontend := [rust, jsonTree]

end Frontend

end SyntaxGraph
