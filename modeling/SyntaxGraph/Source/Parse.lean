import SyntaxGraph.Source.Grammar.Item
import SyntaxGraph.Source.Lexer

namespace SyntaxGraph.Source

open Text (Position)

def Grammar.deeper (g : Grammar) : Grammar where
  type := g.typeWith
  bound := g.boundWith
  expr := g.exprWith
  operand := g.operandWith
  statementExpr := g.statementExprWith
  pattern := g.patternWith
  statements := g.statementsWith
  item := g.itemWith
  genericParameter := g.genericParameterWith
  useTree := g.useTreeWith
  namedFields := g.namedFieldsWith

def Grammar.ofDepth (n : Nat) : Grammar :=
  n.repeat Grammar.deeper Grammar.empty

def Grammar.file (g : Grammar) : Parser (List Item) := do
  g.innerAttributes
  Parser.all g.item

def parse (text : String) : Except Position (List Item) := do
  let trees ← tokenTrees text
  let grammar := Grammar.ofDepth (2 * countAll trees + 8)
  let (items, rest) ← grammar.file.run { rest := trees, close := {} }
  match rest.stray with
  | some place => throw place
  | none => return items

end SyntaxGraph.Source
