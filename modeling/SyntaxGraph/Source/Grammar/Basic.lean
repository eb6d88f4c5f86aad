import SyntaxGraph.Source.Grammar.Parser

namespace SyntaxGraph.Source

open Text (Position)

structure PatternForm where
  pattern : Pattern
  openRange : Option Position := none
  isRest : Bool := false

structure Grammar where
  type : (plus : Bool) → Parser TypeExpr
  bound : (capture const : Bool) → Parser Bool
  expr : (structs : Bool) → Parser Expr
  operand : (structs : Bool) → Parser Expr
  statementExpr : Parser Expr
  pattern : Parser PatternForm
  statements : Parser (List Stmt)
  item : Parser Item
  genericParameter : Parser Unit
  useTree : (crateRoot : Bool) → Parser (Option UseTree)
  namedFields : Parser (List String)

def Grammar.empty : Grammar where
  type _ := Parser.failHere
  bound _ _ := Parser.failHere
  expr _ := Parser.failHere
  operand _ := Parser.failHere
  statementExpr := Parser.failHere
  pattern := Parser.failHere
  statements := Parser.failHere
  item := Parser.failHere
  genericParameter := Parser.failHere
  useTree _ := Parser.failHere
  namedFields := Parser.failHere

namespace Grammar

open Parser

def plainPath : Parser Path := do
  let rooted ← tryMarks "::"
  let rec names : Nat → List Segment → Parser (List Segment)
    | 0, found => return found
    | n + 1, found => do
      if (← sees .ident) || (← sees (.oneOf ["super", "self", "Self", "crate"])) then
        let found := ⟨← anyWord, .absent⟩ :: found
        if ← tryMarks "::" then
          if (← sees .ident) || (← sees (.oneOf ["super", "self", "Self", "crate"])) then
            names n found
          else failHere
        else return found
      else return found
  let found ← names (← limit) []
  if found.isEmpty then failHere else return ⟨rooted, found.reverse⟩

def delimited : Parser Bool := do
  if (← sees .paren) || (← sees .bracket) || (← sees .brace) then
    let braced ← sees .brace
    drop 1
    return braced
  else failHere

def attributeBody (g : Grammar) : Parser Unit := do
  if !(← tryWord "unsafe") then
    let _ ← plainPath
  if (← sees .paren) || (← sees .bracket) || (← sees .brace) then drop 1
  else if (← seesMarks "=") && !(← seesMarks "==") && !(← seesMarks "=>") then
    drop 1
    if (← seesMarks "#") && (← sees2 .bracket) then failHere
    else
      let _ ← g.expr true

def outerAttribute (g : Grammar) : Parser Unit := do
  marks "#"
  inBrackets g.attributeBody

def outerAttributes (g : Grammar) : Parser Bool := do
  let seen ← seesMarks "#"
  repeatStep do
    if ← seesMarks "#" then
      g.outerAttribute
      return true
    else return false
  return seen

def innerAttributes (g : Grammar) : Parser Unit :=
  repeatStep do
    if (← seesMarks "#") && (← sees2 (.marks "!")) then
      drop 2
      inBrackets g.attributeBody
      return true
    else return false

def literal : Parser Expr := do
  match (← get).rest with
  | .leaf (.literal l) _ :: _ =>
    drop 1
    return .literal l
  | .leaf (.mark '-' _) _ :: .leaf (.literal l) _ :: _ =>
    if ← sees .literal then
      drop 2
      return .unary .negate (.literal l)
    else failHere
  | _ =>
    if ← seesWord "true" then drop 1; return .bool true
    else if ← seesWord "false" then drop 1; return .bool false
    else failHere

end Grammar

end SyntaxGraph.Source
