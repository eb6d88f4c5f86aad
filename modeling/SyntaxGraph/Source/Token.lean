import SyntaxGraph.Text.Scan

namespace SyntaxGraph.Source

open Text (Position)

inductive Delimiter where
  | parenthesis
  | bracket
  | brace
  deriving DecidableEq, Repr

inductive Literal where
  | text (value : String)
  | character (value : Char)
  | bytes (value : List Nat)
  | byte (value : Nat)
  | integer (value : Nat) (suffix : String)
  | float (written suffix : String)
  | other
  deriving DecidableEq, Repr

inductive Token where
  | word (text : String)
  | lifetime (name : String)
  | mark (symbol : Char) (joint : Bool)
  | literal (value : Literal)
  deriving DecidableEq, Repr

inductive TokenTree where
  | leaf (token : Token) (place : Position)
  | group (delimiter : Delimiter) (body : List TokenTree) (opening closing : Position)
  deriving Repr

def TokenTree.place : TokenTree → Position
  | leaf _ place => place
  | group _ _ opening _ => opening

mutual

def TokenTree.count : TokenTree → Nat
  | .leaf _ _ => 1
  | .group _ body _ _ => countAll body + 2

def countAll : List TokenTree → Nat
  | [] => 0
  | t :: rest => t.count + countAll rest

end

end SyntaxGraph.Source
