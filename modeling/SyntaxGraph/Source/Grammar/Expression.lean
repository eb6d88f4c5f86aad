import SyntaxGraph.Decimal.Basic
import SyntaxGraph.Source.Grammar.Pattern
import SyntaxGraph.Source.Literal

namespace SyntaxGraph.Source

inductive Precedence where
  | jump | assign | range | or | and | compare | bitOr | bitXor | bitAnd | shift | sum | product
  | cast
  deriving DecidableEq, Repr

def Precedence.rank : Precedence → Nat
  | jump => 0
  | assign => 1
  | range => 2
  | or => 3
  | and => 4
  | compare => 5
  | bitOr => 6
  | bitXor => 7
  | bitAnd => 8
  | shift => 9
  | sum => 10
  | product => 11
  | cast => 12

def ArithmeticOperator.precedence : ArithmeticOperator → Precedence
  | add | sub => .sum
  | mul | div | rem => .product
  | bitXor => .bitXor
  | bitAnd => .bitAnd
  | bitOr => .bitOr
  | shiftLeft | shiftRight => .shift

def BinaryOperator.precedence : BinaryOperator → Precedence
  | arithmetic op => op.precedence
  | boolean .and => .and
  | boolean .or => .or
  | comparison _ => .compare
  | augmented _ => .assign

def BinaryOperator.spellings : List (String × BinaryOperator) := [
  ("+=", .augmented .add), ("-=", .augmented .sub), ("*=", .augmented .mul),
  ("/=", .augmented .div), ("%=", .augmented .rem), ("^=", .augmented .bitXor),
  ("&=", .augmented .bitAnd), ("|=", .augmented .bitOr), ("<<=", .augmented .shiftLeft),
  (">>=", .augmented .shiftRight), ("&&", .boolean .and), ("||", .boolean .or),
  ("<<", .arithmetic .shiftLeft), (">>", .arithmetic .shiftRight), ("==", .comparison .eq),
  ("<=", .comparison .le), ("!=", .comparison .ne), (">=", .comparison .ge),
  ("+", .arithmetic .add), ("-", .arithmetic .sub), ("*", .arithmetic .mul),
  ("/", .arithmetic .div), ("%", .arithmetic .rem), ("^", .arithmetic .bitXor),
  ("&", .arithmetic .bitAnd), ("|", .arithmetic .bitOr), ("<", .comparison .lt),
  (">", .comparison .gt)]

namespace Grammar

open Parser

variable (g : Grammar)

def seesOperator : Parser (Option (Nat × BinaryOperator)) := do
  let rest := (← get).rest
  return (BinaryOperator.spellings.find? fun (m, _) => Ahead.marks m rest).map
    fun (m, op) => (m.length, op)

def seesAssign : Parser Bool := do
  return (← seesMarks "=") && !(← seesMarks "=>")

def seesPrecedence : Parser Precedence := do
  match ← seesOperator with
  | some (_, op) => return op.precedence
  | none =>
    if ← seesAssign then return .assign
    else if ← seesMarks ".." then return .range
    else if ← seesWord "as" then return .cast
    else return .jump

def endsRange (structs : Bool) : Parser Bool := do
  let rest := (← get).rest
  return rest.isEmpty ||
    ([",", ";", "?", "=>", "=", "+", "/", "%", "^", ">", "<=", "!=", "-=", "*=", "&=", "|=",
      "<<="].any fun m => Ahead.marks m rest) ||
    (Ahead.marks "." rest && !Ahead.marks ".." rest) || (!structs && Ahead.brace rest) ||
    Ahead.word "as" rest

def checkCast : Parser Unit := do
  if ((← seesMarks ".") && !(← seesMarks "..")) || (← seesMarks "?") || (← sees .bracket) ||
      (← sees .paren) then failHere

mutual

/-- Joins operands to the left one as long as the operators are at least as strong as `base`. -/
def joined (structs : Bool) : Nat → Precedence → Expr → Parser Expr
  | 0, _, left => return left
  | n + 1, base, left => do
    if left.isRange then return left
    else
      match ← seesOperator with
      | some (length, op) =>
        let strength := op.precedence
        if strength.rank < base.rank then return left
        else if strength = .compare && left.isComparison then failHere
        else
          drop length
          let right ← rightOperand structs n strength
          joined structs n base (.binary op left right)
      | none =>
        if base.rank ≤ Precedence.assign.rank && (← seesAssign) then
          drop 1
          let right ← rightOperand structs n .assign
          joined structs n base (.assign left right)
        else if base.rank ≤ Precedence.range.rank && (← seesMarks "..") then
          let upper ← rangeEnd structs n
          joined structs n base (.range (some left) upper)
        else if base.rank ≤ Precedence.cast.rank && (← seesWord "as") then
          drop 1
          let _ ← g.type false
          checkCast
          joined structs n base (.undrawn .cast)
        else return left

def rightOperand (structs : Bool) : Nat → Precedence → Parser Expr
  | 0, _ => failHere
  | n + 1, strength => do
    strengthened structs n strength (← g.operand structs)

def strengthened (structs : Bool) : Nat → Precedence → Expr → Parser Expr
  | 0, _, e => return e
  | n + 1, strength, e => do
    let next ← seesPrecedence
    if strength.rank < next.rank || (next = strength && strength = .assign) then
      let before := (← get).rest.length
      let e ← joined structs n next e
      if (← get).rest.length = before then return e
      else strengthened structs n strength e
    else return e

def rangeEnd (structs : Bool) : Nat → Parser (Option Expr)
  | 0 => failHere
  | n + 1 => do
    let inclusive ← rangeDots false
    if !inclusive && (← endsRange structs) then return none
    else some <$> rightOperand structs n .range

end

def operatorLimit : Parser Nat := do
  return 4 * (← limit) + 8

def joinedFrom (structs : Bool) (base : Precedence) (left : Expr) : Parser Expr := do
  g.joined structs (← operatorLimit) base left

def exprWith (structs : Bool) : Parser Expr := do
  g.joinedFrom structs .jump (← g.operand structs)

def block : Parser (List Stmt) :=
  inBraces g.statements

def attributedBlock : Parser (List Stmt) :=
  inBraces do
    g.innerAttributes
    g.statements

def placesOf (written : String) : Option (List String) :=
  (written.splitOn ".").mapM fun part =>
    if part.isEmpty || part.toList.any (!isDecimal ·) then none
    else
      let value := Decimal.ofDigits (part.toList.filter Char.isDigit)
      if value < Nat.pow 2 32 then some (toString value) else none

def arguments : Parser (List Expr) :=
  inParens (separated (g.expr true))

def afterDot (base : Expr) : Parser Expr := do
  match (← get).rest with
  | .leaf (.literal (.float written suffix)) _ :: _ =>
    let whole := written ++ suffix
    let trailing := whole.endsWith "."
    match placesOf (if trailing then (whole.dropEnd 1).toString else whole) with
    | none => failHere
    | some places =>
      drop 1
      let base := places.foldl .field base
      if trailing then named base else return base
  | _ => named base
where
  named (base : Expr) : Parser Expr := do
    if ← tryWord "await" then return .awaiting base
    else
      let (isName, name) ← member
      let turbofish := isName && (← seesMarks "::")
      if turbofish then
        drop 2
        g.angledArguments
      if isName && (turbofish || (← sees .paren)) then
        return .methodCall base name (← g.arguments)
      else return .field base name

def trailers : Nat → Expr → Parser Expr
  | 0, e => return e
  | n + 1, e => do
    if ← sees .paren then trailers n (.call e (← g.arguments))
    else if (← seesMarks ".") && !(← seesMarks "..") && !e.isRange then
      drop 1
      trailers n (← g.afterDot e)
    else if ← sees .bracket then trailers n (.index e (← inBrackets (g.expr true)))
    else if (← seesMarks "?") && !e.isRange then
      drop 1
      trailers n (.undrawn .question)
    else return e

def withTrailers (e : Expr) : Parser Expr := do
  g.trailers (← limit) e

def startsExpr : Parser Bool := do
  let rest := (← get).rest
  let marksBut := fun (m : String) (others : List String) =>
    Ahead.marks m rest && !others.any fun o => Ahead.marks o rest
  return Ahead.anyWord rest || Ahead.paren rest || Ahead.bracket rest || Ahead.brace rest ||
    Ahead.literal rest || marksBut "!" ["!="] || marksBut "-" ["-=", "->"] ||
    marksBut "*" ["*="] || marksBut "|" ["|="] || marksBut "&" ["&="] || Ahead.marks ".." rest ||
    marksBut "<" ["<=", "<<="] || Ahead.marks "::" rest || Ahead.lifetime rest ||
    Ahead.marks "#" rest

def optionalExpr : Parser (Option Expr) := do
  if ← startsExpr then some <$> g.expr true else return none

def ifExpr : Nat → Parser Expr
  | 0 => failHere
  | n + 1 => do
    Parser.word "if"
    let test ← g.expr false
    let body ← g.block
    if ← tryWord "else" then
      if ← seesWord "if" then return .ifThen test body (some (← ifExpr n))
      else if ← sees .brace then return .ifThen test body (some (.block (← g.block)))
      else failHere
    else return .ifThen test body none

def whileExpr : Parser Expr := do
  Parser.word "while"
  let test ← g.expr false
  return .whileLoop test (← g.attributedBlock)

def forExpr : Parser Expr := do
  Parser.word "for"
  let target ← g.anyPattern
  Parser.word "in"
  let iter ← g.expr false
  return .forLoop target.pattern iter (← g.attributedBlock)

def loopExpr : Parser Expr := do
  Parser.word "loop"
  return .loop (← g.attributedBlock)

def labeled : Parser Expr := do
  lifetime
  marks ":"
  if ← seesWord "while" then g.whileExpr
  else if ← seesWord "for" then g.forExpr
  else if ← seesWord "loop" then g.loopExpr
  else if ← sees .brace then return .block (← g.attributedBlock)
  else failHere

def closureParameter : Parser Pattern := do
  let _ ← g.outerAttributes
  let p ← g.pattern
  if ← tryMarks ":" then
    let _ ← g.type true
    return .typed p.pattern
  else return p.pattern

def closureParameters : Nat → List Pattern → Parser (List Pattern)
  | 0, found => return found.reverse
  | n + 1, found => do
    if ← seesMarks "|" then return found.reverse
    let found := (← g.closureParameter) :: found
    if ← seesMarks "|" then return found.reverse
    marks ","
    closureParameters n found

def closure (structs : Bool) : Parser Expr := do
  let _ ← g.boundLifetimes
  for w in ["const", "static", "async", "move"] do
    let _ ← tryWord w
  marks "|"
  let parameters ← g.closureParameters (← limit) []
  marks "|"
  if ← tryMarks "->" then
    let _ ← g.type true
    return .closure parameters (.block (← g.block))
  else return .closure parameters (← g.exprWith structs)

def literalFields : Nat → Parser Unit
  | 0 => return ()
  | n + 1 => do
    if !(← isEmpty) then
      if ← tryMarks ".." then
        if !(← isEmpty) then
          let _ ← g.expr true
      else
        let _ ← g.outerAttributes
        let (isName, _) ← member
        if !isName || (← seesMarks ":") then
          marks ":"
          let _ ← g.expr true
        if !(← isEmpty) then
          marks ","
          literalFields n

def pathExpr (structs : Bool) : Parser Expr := do
  let (qualified, p) ← g.qualifiedPath true
  if !qualified && (← seesMarks "!") && !(← seesMarks "!=") && p.isPlain then
    drop 1
    return .macroCall ⟨p, ← delimited⟩
  else if structs && (← sees .brace) then
    inBraces do g.literalFields (← limit)
    return .undrawn .structLiteral
  else return .path p

def moreItems : Parser (List Expr) := do
  if ← isEmpty then return []
  else
    marks ","
    separated (g.expr true)

def parenthesized : Parser Expr :=
  inParens do
    if ← isEmpty then return .tuple []
    else
      let first ← g.expr true
      if ← isEmpty then return .paren first
      else return .tuple (first :: (← g.moreItems))

def bracketed : Parser Expr :=
  inBrackets do
    if ← isEmpty then return .array []
    else
      let first ← g.expr true
      if (← isEmpty) || (← seesMarks ",") then return .array (first :: (← g.moreItems))
      else if ← tryMarks ";" then
        let _ ← g.expr true
        return .undrawn .repetition
      else failHere

def breakExpr (structs : Bool) : Parser Expr := do
  Parser.word "break"
  if (← sees .lifetime) && (← sees2 (.marks ":")) then
    let start ← here
    let _ ← g.expr true
    throw start
  else
    if ← sees .lifetime then drop 1
    if (← startsExpr) && (structs || !(← sees .brace)) then
      let _ ← g.expr true
    return .breaking

def letExpr (structs : Bool) : Parser Expr := do
  Parser.word "let"
  let _ ← g.anyPattern
  marks "="
  let _ ← g.joinedFrom structs .compare (← g.operand structs)
  return .undrawn .letCondition

def matchArm : Parser Unit := do
  let _ ← g.outerAttributes
  let _ ← g.anyPattern
  if ← tryWord "if" then
    let _ ← g.expr true
  marks "=>"
  let body ← g.statementExpr
  if !body.isBlockLike && !(← isEmpty) then marks ","
  else
    let _ ← tryMarks ","

def matchExpr : Parser Expr := do
  Parser.word "match"
  let _ ← g.expr false
  inBraces do
    g.innerAttributes
    let _ ← all g.matchArm
  return .undrawn .matching

def asyncBlock : Parser Expr := do
  Parser.word "async"
  let _ ← tryWord "move"
  let _ ← g.block
  return .undrawn .asyncBlock

def tryBlock : Parser Expr := do
  Parser.word "try"
  let _ ← g.block
  return .undrawn .tryBlock

def unsafeBlock : Parser Expr := do
  Parser.word "unsafe"
  return .unsafeBlock (← g.attributedBlock)

def builtinExpr : Parser Expr := do
  drop 2
  let _ ← ident
  if ← sees .paren then drop 1 else failHere
  return .undrawn .verbatim

def startsClosure : Parser Bool := do
  let rest := (← get).rest
  let second := rest.drop 1
  return Ahead.marks "|" rest || Ahead.oneOf ["move", "static"] rest ||
    (Ahead.word "for" rest && startsGenerics second) ||
    (Ahead.word "const" rest && !Ahead.brace second) ||
    (Ahead.word "async" rest && (Ahead.marks "|" second || Ahead.word "move" second))

def seesTryBlock : Parser Bool := do
  return (← seesWord "try") && (← sees2 .brace)

def atom (structs : Bool) : Parser Expr := do
  if ← sees .literal then literal
  else if (← seesWord "async") &&
      ((← sees2 .brace) || ((← sees2 (.word "move")) && (← sees3 .brace))) then g.asyncBlock
  else if ← seesTryBlock then g.tryBlock
  else if ← startsClosure then g.closure structs
  else if (← seesWord "builtin") && (← sees2 (.marks "#")) then builtinExpr
  else if (← startsName) ||
      ((← seesWord "try") && ((← sees2 (.marks "!")) || (← sees2 (.marks "::")))) then
    g.pathExpr structs
  else if ← sees .paren then g.parenthesized
  else if ← seesWord "break" then g.breakExpr structs
  else if ← tryWord "continue" then
    if ← sees .lifetime then drop 1
    return .continuing
  else if ← tryWord "return" then return .returning (← g.optionalExpr)
  else if ← tryWord "become" then
    let _ ← g.expr true
    return .undrawn .verbatim
  else if ← sees .bracket then g.bracketed
  else if ← seesWord "let" then g.letExpr structs
  else if ← seesWord "if" then g.ifExpr (← limit)
  else if ← seesWord "while" then g.whileExpr
  else if ← seesWord "for" then g.forExpr
  else if ← seesWord "loop" then g.loopExpr
  else if ← seesWord "match" then g.matchExpr
  else if ← tryWord "yield" then
    let _ ← g.optionalExpr
    return .undrawn .yield
  else if ← seesWord "unsafe" then g.unsafeBlock
  else if ← seesWord "const" then
    g.constBlock
    return .undrawn .constBlock
  else if ← sees .brace then return .block (← g.attributedBlock)
  else if ← seesMarks ".." then return .range none (← g.rangeEnd structs (← operatorLimit))
  else if ← tryWord "_" then return .undrawn .placeholder
  else if ← sees .lifetime then g.labeled
  else failHere

def plainOperand (structs attributed : Bool) : Parser Expr := do
  let start ← here
  let e ← g.withTrailers (← g.atom structs)
  if attributed && e.isRange then throw start else return e

def reference (structs : Bool) : Parser Expr := do
  marks "&"
  let raw := (← seesWord "raw") && (← sees2 (.oneOf ["mut", "const"]))
  if raw then drop 2
  else
    let _ ← tryWord "mut"
  let e ← g.operand structs
  return if raw then .undrawn .rawAddress else .unary .reference e

def operandWith (structs : Bool) : Parser Expr := do
  let attributed ← g.outerAttributes
  if ← seesMarks "&" then g.reference structs
  else if ← tryMarks "*" then return .unary .dereference (← g.operand structs)
  else if ← tryMarks "!" then return .unary .not (← g.operand structs)
  else if ← tryMarks "-" then return .unary .negate (← g.operand structs)
  else g.plainOperand structs attributed

def statementStart : Parser Expr := do
  let _ ← g.outerAttributes
  if ← seesWord "if" then g.ifExpr (← limit)
  else if ← seesWord "while" then g.whileExpr
  else if (← seesWord "for") && !startsGenerics ((← get).rest.drop 1) then g.forExpr
  else if ← seesWord "loop" then g.loopExpr
  else if ← seesWord "match" then g.matchExpr
  else if ← seesTryBlock then g.tryBlock
  else if ← seesWord "unsafe" then g.unsafeBlock
  else if (← seesWord "const") && (← sees2 .brace) then
    g.constBlock
    return .undrawn .constBlock
  else if ← sees .brace then return .block (← g.attributedBlock)
  else if ← sees .lifetime then g.labeled
  else g.operandWith true

def statementExprWith : Parser Expr := do
  let e ← g.statementStart
  if !e.isBlockLike then g.joinedFrom true .jump e
  else if ((← seesMarks ".") && !(← seesMarks "..")) || (← seesMarks "?") then
    g.joinedFrom true .jump (← g.withTrailers e)
  else return e

end Grammar

end SyntaxGraph.Source
