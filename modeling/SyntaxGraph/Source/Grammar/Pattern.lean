import SyntaxGraph.Source.Grammar.Type

namespace SyntaxGraph.Source.Grammar

open Parser

variable (g : Grammar)

def undrawnPattern : PatternForm := ⟨.other, none, false⟩

def alternatives (leadingBar : Bool) : Parser PatternForm := do
  let seesBar : Parser Bool := do
    return (← seesMarks "|") && !(← seesMarks "||") && !(← seesMarks "|=")
  let first ← g.pattern
  if leadingBar || (← seesBar) then
    repeatStep do
      if ← seesBar then
        drop 1
        let _ ← g.pattern
        return true
      else return false
    return undrawnPattern
  else return first

def anyPattern : Parser PatternForm := do
  g.alternatives (← tryMarks "|")

def constBlock : Parser Unit := do
  Parser.word "const"
  inBraces do
    g.innerAttributes
    let _ ← g.statements

def rangeBound : Parser Bool := do
  if (← isEmpty) || (← seesMarks "|") || (← seesMarks "=") || (← seesColon) || (← seesMarks ",") ||
      (← seesMarks ";") || (← seesWord "if") then return false
  else if ← sees .literal then
    let _ ← literal
    return true
  else if ← startsName then
    let _ ← g.qualifiedPath true
    return true
  else if ← seesWord "const" then
    g.constBlock
    return true
  else failHere

def rangeDots (allowThree : Bool) : Parser Bool := do
  if ← tryMarks "..=" then return true
  else if ← seesMarks "..." then
    if allowThree then drop 3; return true else failHere
  else
    marks ".."
    return false

def rangeRest : Parser PatternForm := do
  let dots ← here
  let inclusive ← rangeDots true
  if ← g.rangeBound then return undrawnPattern
  else if inclusive then failHere
  else return ⟨.other, some dots, false⟩

def openPattern : Parser PatternForm := do
  let dots ← here
  let inclusive ← rangeDots false
  if ← g.rangeBound then return ⟨.other, some dots, false⟩
  else if inclusive then failHere
  else return ⟨.other, none, true⟩

def literalPattern : Parser PatternForm := do
  let _ ← g.rangeBound
  if ← seesMarks ".." then g.rangeRest else return undrawnPattern

def member : Parser (Bool × String) := do
  if ← sees .ident then return (true, ← ident)
  else
    match (← get).rest with
    | .leaf (.literal (.integer value suffix)) _ :: _ =>
      if suffix = "" && value < Nat.pow 2 32 then
        drop 1
        return (false, toString value)
      else failHere
    | _ => failHere

def fieldPattern : Parser Unit := do
  let boxed ← tryWord "box"
  let byRef ← tryWord "ref"
  let mutable_ ← tryWord "mut"
  if boxed || byRef || mutable_ then
    let _ ← ident
  else
    let (named, _) ← member
    if !named || (← seesMarks ":") then
      marks ":"
      let _ ← g.anyPattern

def fieldPatterns : Nat → Parser Unit
  | 0 => return ()
  | n + 1 => do
    if !(← isEmpty) then
      let _ ← g.outerAttributes
      if ← seesMarks ".." then drop 2
      else
        g.fieldPattern
        if !(← isEmpty) then
          marks ","
          fieldPatterns n

def pathPattern : Parser PatternForm := do
  let (qualified, p) ← g.qualifiedPath true
  if !qualified && (← seesMarks "!") && !(← seesMarks "!=") && p.isPlain then
    drop 1
    let _ ← delimited
    return undrawnPattern
  else if ← sees .brace then
    inBraces do g.fieldPatterns (← limit)
    return undrawnPattern
  else if ← sees .paren then
    let _ ← inParens (separated g.anyPattern)
    return undrawnPattern
  else if ← seesMarks ".." then g.rangeRest
  else return undrawnPattern

def identPattern : Parser PatternForm := do
  let _ ← tryWord "ref"
  let _ ← tryWord "mut"
  let name ← if ← seesWord "self" then anyWord else ident
  if ← tryMarks "@" then
    let _ ← g.pattern
  return ⟨.ident name, none, false⟩

def tuplePatterns : Nat → List PatternForm → Parser (List PatternForm × Bool)
  | 0, found => return (found.reverse, true)
  | n + 1, found => do
    if ← isEmpty then return (found.reverse, true)
    let found := (← g.anyPattern) :: found
    if ← isEmpty then return (found.reverse, false)
    marks ","
    tuplePatterns n found

def parenthesizedPattern : Parser PatternForm := do
  let (items, trailing) ← inParens do g.tuplePatterns (← limit) []
  match items, trailing with
  | [item], false =>
    return if item.isRest then ⟨.tuple [item.pattern], none, false⟩ else undrawnPattern
  | _, _ => return ⟨.tuple (items.map PatternForm.pattern), none, false⟩

def slicePattern : Parser PatternForm := do
  let item : Parser Unit := do
    match (← g.anyPattern).openRange with
    | some dots => throw dots
    | none => return ()
  let _ ← inBrackets (separated item)
  return undrawnPattern

def startsPathPattern : Parser Bool := do
  let behindIdent := (← sees .ident) && ((← sees2 (.marks "::")) || (← sees2 (.marks "!")) ||
    (← sees2 .brace) || (← sees2 .paren) || (← sees2 (.marks "..")))
  return behindIdent || ((← seesWord "self") && (← sees2 (.marks "::"))) || (← seesMarks "::") ||
    (← seesMarks "<") || (← sees (.oneOf ["Self", "super", "crate"]))

def patternWith : Parser PatternForm := do
  if ← startsPathPattern then g.pathPattern
  else if ← tryWord "_" then return ⟨.wild, none, false⟩
  else if ← tryWord "box" then
    let _ ← g.pattern
    return undrawnPattern
  else if (← seesMarks "-") || (← sees .literal) || (← seesWord "const") then g.literalPattern
  else if (← sees (.oneOf ["ref", "mut", "self"])) || (← sees .ident) then g.identPattern
  else if ← tryMarks "&" then
    let _ ← tryWord "mut"
    return ⟨.reference (← g.pattern).pattern, none, false⟩
  else if ← sees .paren then g.parenthesizedPattern
  else if ← sees .bracket then g.slicePattern
  else if (← seesMarks "..") && !(← seesMarks "...") then g.openPattern
  else failHere

end SyntaxGraph.Source.Grammar
