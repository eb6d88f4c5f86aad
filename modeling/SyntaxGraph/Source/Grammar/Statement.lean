import SyntaxGraph.Source.Grammar.Expression

namespace SyntaxGraph.Source.Grammar

open Parser

variable (g : Grammar)

inductive StatementKind where
  | macroCall (path : Path)
  | declaration
  | item
  | expr

def seesStatementMacro : Parser (Option StatementKind) := do
  let decide : Parser (Option StatementKind) := do
    let p ← plainPath
    if ← seesMarks "!" then
      if (← sees2 .ident) || (← sees2 (.word "try")) then return some .item
      else if (← sees2 .brace) && !(((← sees3 (.marks ".")) && !(← sees3 (.marks ".."))) ||
          (← sees3 (.marks "?"))) then return some (.macroCall p)
      else return none
    else return none
  return (← lookahead decide).join

def seesItem : Parser Bool := do
  let rest := (← get).rest
  let second := rest.drop 1
  let third := rest.drop 2
  return Ahead.oneOf ["pub", "extern", "use", "fn", "mod", "type", "struct", "enum", "trait", "impl",
      "macro"] rest ||
    (Ahead.word "crate" rest && !Ahead.marks "::" second) ||
    (Ahead.word "static" rest && (Ahead.word "mut" second || Ahead.ident second)) ||
    (Ahead.word "const" rest &&
      !(Ahead.brace second || Ahead.oneOf ["static", "move"] second || Ahead.marks "|" second ||
        (Ahead.word "async" second && !Ahead.oneOf ["unsafe", "extern", "fn"] third))) ||
    (Ahead.word "unsafe" rest && !Ahead.brace second) ||
    (Ahead.word "async" rest && Ahead.oneOf ["unsafe", "extern", "fn"] second) ||
    (Ahead.word "union" rest && Ahead.ident second) ||
    (Ahead.word "auto" rest && Ahead.word "trait" second) ||
    (Ahead.word "default" rest && Ahead.oneOf ["unsafe", "impl"] second)

def statementKind : Parser StatementKind := do
  match ← seesStatementMacro with
  | some kind => return kind
  | none =>
    if ← seesWord "let" then return .declaration
    else if ← seesItem then return .item
    else return .expr

def declaration : Parser Stmt := do
  Parser.word "let"
  let p ← g.pattern
  let target ← if ← tryMarks ":" then
      let _ ← g.type true
      pure (Pattern.typed p.pattern)
    else pure p.pattern
  let value ← if ← tryMarks "=" then
      let e ← g.expr true
      if !(← get).afterBrace && (← seesWord "else") then
        drop 1
        let _ ← g.block
      pure (some e)
    else pure none
  marks ";"
  return .declaration target value

def expressionStatement : Parser (Stmt × Bool) := do
  let e ← g.statementExpr
  let ended ← tryMarks ";"
  match e with
  | .macroCall m =>
    if ended || m.braced then return (.macroCall m, false) else return (.expr e, true)
  | _ => return (.expr e, !ended && e.needsSemicolon)

def statement : Parser (Stmt × Bool) := do
  let start ← get
  let _ ← g.outerAttributes
  match ← statementKind with
  | .macroCall p =>
    let _ ← plainPath
    marks "!"
    let _ ← delimited
    let _ ← tryMarks ";"
    return (.macroCall ⟨p, true⟩, false)
  | .declaration => return (← g.declaration, false)
  | .item =>
    set start
    return (.item (← g.item), false)
  | .expr => g.expressionStatement

def semicolons : Nat → Nat → Parser Nat
  | 0, count => return count
  | n + 1, count => do
    if ← tryMarks ";" then semicolons n (count + 1) else return count

def statementsWithin : Nat → List Stmt → Parser (List Stmt)
  | 0, found => return found.reverse
  | n + 1, found => do
    let count ← semicolons (← limit) 0
    let found := List.replicate count (.expr (.undrawn .verbatim)) ++ found
    if ← isEmpty then return found.reverse
    let (s, last) ← g.statement
    if ← isEmpty then return (s :: found).reverse
    else if last then failHere
    else statementsWithin n (s :: found)

def statementsWith : Parser (List Stmt) := do
  g.statementsWithin (← limit) []

end SyntaxGraph.Source.Grammar
