import SyntaxGraph.Source.Grammar.Basic

namespace SyntaxGraph.Source.Grammar

open Parser
open Text (Position)

variable (g : Grammar)

def angledItems (item : Parser Unit) : Parser Unit :=
  repeatStep do
    if ← seesMarks ">" then return false
    item
    if ← seesMarks ">" then return false
    marks ","
    return true

def seesColon : Parser Bool := do
  return (← seesMarks ":") && !(← seesMarks "::")

def boundsUntil (capture const : Bool) (ended : Parser Bool) : Parser Unit :=
  repeatStep do
    if ← ended then return false
    let _ ← g.bound capture const
    tryMarks "+"

def constArgument : Parser Unit := do
  if ← sees .literal then
    let _ ← literal
  else if ← sees .ident then drop 1
  else inBraces do
    g.innerAttributes
    let _ ← g.statements

def boundLifetimes : Parser Bool := do
  if ← tryWord "for" then
    marks "<"
    angledItems g.genericParameter
    marks ">"
    return true
  else return false

def returnType (plus : Bool) : Parser Unit := do
  if ← tryMarks "->" then
    let _ ← g.type plus

def parenthesizedArguments : Parser Unit := do
  let _ ← inParens (separated (g.type true))
  g.returnType false

def seesParenthesized : Parser Bool := do
  return (← sees .paren) || ((← seesMarks "::") && (← sees3 .paren))

def lacksArguments (p : Path) : Bool :=
  match p.segments.getLast? with
  | some s => s.arguments = .absent
  | none => false

def withParenthesized (p : Path) : Path :=
  { p with segments := p.segments.dropLast ++
      p.segments.getLast?.toList.map fun s => { s with arguments := .parenthesized } }

def isAssociatedName (p : Path) : Bool :=
  !p.rooted && p.segments.length = 1 && p.segments.all (·.arguments ≠ .parenthesized)

def genericArgument : Parser Unit := do
  if (← sees .lifetime) && !(← sees2 (.marks "+")) then drop 1
  else if (← sees .literal) || (← sees .brace) then g.constArgument
  else
    match ← g.type true with
    | .path false p =>
      if isAssociatedName p then
        if ← tryMarks "=" then
          if (← sees .literal) || (← sees .brace) then g.constArgument
          else
            let _ ← g.type true
        else if ← tryMarks ":" then
          g.boundsUntil false true do return (← seesMarks ",") || (← seesMarks ">")
    | _ => return ()

def angledArguments : Parser Unit := do
  marks "<"
  angledItems g.genericArgument
  marks ">"

/-- A name in a path. In expressions arguments stand after `::` only. -/
def segment (inExpr : Bool) : Parser Segment := do
  if ← sees (.oneOf ["super", "self", "crate", "try"]) then return ⟨← anyWord, .absent⟩
  else
    let name ← if ← seesWord "Self" then anyWord else ident
    if (!inExpr && (← seesMarks "<") && !(← seesMarks "<=")) ||
        ((← seesMarks "::") && (← sees3 (.marks "<"))) then
      let _ ← tryMarks "::"
      g.angledArguments
      return ⟨name, .angled⟩
    else return ⟨name, .absent⟩

def moreSegments (inExpr : Bool) : Nat → List Segment → Parser (List Segment)
  | 0, found => return found.reverse
  | n + 1, found => do
    if (← seesMarks "::") && !(← sees3 .paren) then
      drop 2
      moreSegments inExpr n ((← g.segment inExpr) :: found)
    else return found.reverse

def path (inExpr : Bool) : Parser Path := do
  let rooted ← tryMarks "::"
  let first ← g.segment inExpr
  return ⟨rooted, ← g.moreSegments inExpr (← limit) [first]⟩

def qualifiedSegments (inExpr : Bool) : Nat → List Segment → Parser (List Segment)
  | 0, found => return found.reverse
  | n + 1, found => do
    let found := (← g.segment inExpr) :: found
    if ← tryMarks "::" then qualifiedSegments inExpr n found
    else return found.reverse

def qualifiedPath (inExpr : Bool) : Parser (Bool × Path) := do
  if ← tryMarks "<" then
    let _ ← g.type true
    let trait? ← if ← tryWord "as" then some <$> g.path false else pure none
    marks ">"
    marks "::"
    let names ← g.qualifiedSegments inExpr (← limit) []
    match trait? with
    | some p => return (true, { p with segments := p.segments ++ names })
    | none => return (true, ⟨true, names⟩)
  else return (false, ← g.path inExpr)

def capturedNames : Parser Unit := do
  marks "<"
  angledItems do
    if (← sees .lifetime) || (← sees .ident) || (← seesWord "Self") then drop 1 else failHere
  marks ">"

def traitBound (const : Bool) : Parser Unit := do
  let quantified ← g.boundLifetimes
  let start ← here
  if ← sees .bracket then
    inBrackets (Parser.word "const")
    if !const then throw start
  else if ← tryWord "const" then
    if !const then throw start
  if ← tryMarks "?" then
    if !quantified then
      let _ ← g.boundLifetimes
  let p ← g.path false
  if lacksArguments p && (← seesParenthesized) then
    let _ ← tryMarks "::"
    g.parenthesizedArguments

def boundWith (capture const : Bool) : Parser Bool := do
  if ← sees .lifetime then
    drop 1
    return false
  else if ← seesWord "use" then
    let start ← here
    drop 1
    capturedNames
    if capture then return false else throw start
  else
    if ← sees .paren then inParens (g.traitBound const) else g.traitBound const
    return true

def seesBound : Parser Bool := do
  return (← sees .anyWord) || (← seesMarks "::") || (← seesMarks "?") || (← sees .lifetime) ||
    (← sees .paren)

def boundSum (plus capture const : Bool) (ofTrait : Bool) (count : Nat) :
    Nat → Parser (Nat × Bool × Bool)
  | 0 => return (count, false, ofTrait)
  | n + 1 => do
    let ofTrait := (← g.bound capture const) || ofTrait
    if plus && (← seesMarks "+") then
      drop 1
      if (← seesBound) || (const && (← sees .bracket)) then
        boundSum plus capture const ofTrait (count + 1) n
      else return (count + 1, true, ofTrait)
    else return (count + 1, false, ofTrait)

def objectBounds (start : Position) (plus capture const : Bool) : Parser TypeExpr := do
  let (count, open_, ofTrait) ← g.boundSum plus capture const false 0 (← limit)
  if ofTrait then return .bounds (count = 1 && !open_) else throw start

def moreBounds : Parser Unit :=
  repeatStep do
    if ← tryMarks "+" then
      let _ ← g.bound false false
      return true
    else return false

def isBound : TypeExpr → Bool
  | .path qualified _ => !qualified
  | .bounds single => single
  | .other => false

inductive Enclosed where
  | tuple
  | bound
  | single (type : TypeExpr)

def enclosed : Parser Enclosed := do
  if ← isEmpty then return .tuple
  else if ← sees .lifetime then
    let _ ← g.objectBounds (← here) true false false
    return .single .other
  else if ← seesMarks "?" then
    g.traitBound false
    return .bound
  else
    let first ← g.type true
    if ← tryMarks "," then
      let _ ← separated (g.type true)
      return .tuple
    else return .single first

def parenthesizedType (plus : Bool) : Parser TypeExpr := do
  match ← inParens g.enclosed with
  | .tuple => return .other
  | .bound =>
    let more ← seesMarks "+"
    g.moreBounds
    return .bounds (!more)
  | .single first =>
    if plus && isBound first && (← seesMarks "+") then
      g.moreBounds
      return .bounds false
    else return .other

def optionalAbi : Parser Unit := do
  if ← tryWord "extern" then
    if ← sees .text then drop 1

def functionTypeParameter (allowSelf : Bool) : Parser Unit := do
  let _ ← g.outerAttributes
  let mutSelf := allowSelf && (← seesWord "mut") && (← sees2 (.word "self"))
  if mutSelf then drop 1
  let selfAhead := allowSelf && (← seesWord "self")
  let named := ((← sees .ident) || (← seesWord "_") || selfAhead) && (← sees2 (.marks ":")) &&
    !(← sees2 (.marks "::"))
  if named then drop 2
  if allowSelf && !(named && selfAhead) && (← seesWord "mut") && (← sees2 (.word "self")) then drop 2
  else if mutSelf && !named then Parser.word "self"
  else
    let _ ← g.type true

def seesVariadic : Parser Bool := do
  return (← seesMarks "...") || (((← sees .ident) || (← seesWord "_")) && (← sees2 (.marks ":")) &&
    (← sees3 (.marks "...")))

def functionTypeParameters : (first : Bool) → Nat → Parser Unit
  | _, 0 => return ()
  | first, n + 1 => do
    if !(← isEmpty) then
      let _ ← g.outerAttributes
      if ← seesVariadic then
        if !(← seesMarks "...") then drop 2
        marks "..."
        let _ ← tryMarks ","
      else
        g.functionTypeParameter first
        if !(← isEmpty) then
          marks ","
          functionTypeParameters false n

def functionType : Parser TypeExpr := do
  let _ ← tryWord "unsafe"
  optionalAbi
  Parser.word "fn"
  inParens do g.functionTypeParameters true (← limit)
  g.returnType false
  return .other

def namedType (plus quantified : Bool) : Parser TypeExpr := do
  let rec arguments : Nat → Path → Parser Path
    | 0, p => return p
    | n + 1, p => do
      if lacksArguments p && (← seesParenthesized) then
        let _ ← tryMarks "::"
        g.parenthesizedArguments
        let p := withParenthesized p
        arguments n ⟨p.rooted, ← g.moreSegments false (← limit) p.segments.reverse⟩
      else return p
  let (qualified, p) ← g.qualifiedPath false
  let p ← arguments (← limit) p
  if qualified then return .path true p
  else if (← seesMarks "!") && !(← seesMarks "!=") && p.isPlain then
    drop 1
    let _ ← delimited
    return .other
  else
    let more := plus && (← seesMarks "+")
    if more then
      repeatStep do
        if ← tryMarks "+" then
          let goesOn ← seesBound
          if goesOn then
            let _ ← g.bound false false
          return goesOn
        else return false
    return if quantified || more then .bounds (!more) else .path false p

def startsName : Parser Bool := do
  return (← sees .ident) || (← sees (.oneOf ["super", "self", "Self", "crate"])) ||
    (← seesMarks "::") || (← seesMarks "<")

def typeWith (plus : Bool) : Parser TypeExpr := do
  let quantified ← g.boundLifetimes
  if quantified && !((← sees .ident) ||
      (← sees (.oneOf ["fn", "unsafe", "extern", "super", "self", "Self", "crate"]))) then failHere
  if ← sees .paren then g.parenthesizedType plus
  else if ← sees (.oneOf ["fn", "unsafe", "extern"]) then g.functionType
  else if ← startsName then g.namedType plus quantified
  else if ← seesWord "dyn" then
    let start ← here
    drop 1
    let _ ← tryMarks "*"
    let _ ← g.objectBounds start plus false false
    return .other
  else if ← sees .bracket then
    inBrackets do
      let _ ← g.type true
      if ← tryMarks ";" then
        let _ ← g.expr true
    return .other
  else if ← tryMarks "*" then
    if ← sees (.oneOf ["const", "mut"]) then drop 1 else failHere
    let _ ← g.type false
    return .other
  else if ← tryMarks "&" then
    if ← sees .lifetime then drop 1
    let _ ← tryWord "mut"
    let _ ← g.type false
    return .other
  else if (← seesMarks "!") && !(← seesMarks "=") then
    drop 1
    return .other
  else if ← seesWord "impl" then
    let start ← here
    drop 1
    let _ ← g.objectBounds start plus true true
    return .other
  else if ← tryWord "_" then return .other
  else if ← sees .lifetime then
    g.objectBounds (← here) true false false
  else failHere

def genericParameterBody : Parser Unit := do
  if ← sees .lifetime then
    drop 1
    if ← tryMarks ":" then
      repeatStep do
        if (← isEmpty) || (← seesMarks ",") || (← seesMarks ">") then return false
        lifetime
        tryMarks "+"
  else if ← sees .ident then
    drop 1
    if ← tryMarks ":" then
      g.boundsUntil false true do
        return (← isEmpty) || (← seesMarks ",") || (← seesMarks ">") || (← seesMarks "=")
    if ← tryMarks "=" then
      let _ ← g.type true
  else if ← tryWord "const" then
    let _ ← ident
    marks ":"
    let _ ← g.type true
    if ← tryMarks "=" then g.constArgument
  else failHere

def genericParameterWith : Parser Unit := do
  let _ ← g.outerAttributes
  g.genericParameterBody

def generics : Parser Bool := do
  if ← tryMarks "<" then
    angledItems do
      let _ ← g.outerAttributes
      if ← seesWord "_" then drop 1 else g.genericParameterBody
    marks ">"
    return true
  else return false

def seesPredicatesEnd : Parser Bool := do
  return (← isEmpty) || (← sees .brace) || (← seesMarks ",") || (← seesMarks ";") ||
    (← seesColon) || (← seesMarks "=")

def wherePredicate : Parser Unit := do
  if (← sees .lifetime) && (← sees2 (.marks ":")) then
    drop 2
    repeatStep do
      if (← isEmpty) || (← sees .brace) || (← seesMarks ",") || (← seesMarks ";") ||
          (← seesMarks ":") || (← seesMarks "=") then return false
      lifetime
      tryMarks "+"
  else
    let _ ← g.boundLifetimes
    let _ ← g.type true
    marks ":"
    g.boundsUntil false true seesPredicatesEnd

def whereClause : Parser Bool := do
  if ← tryWord "where" then
    repeatStep do
      if ← seesPredicatesEnd then return false
      g.wherePredicate
      tryMarks ","
    return true
  else return false

def startsGenerics (rest : List TokenTree) : Bool :=
  let second := rest.drop 1
  let third := rest.drop 2
  Ahead.marks "<" rest &&
    (Ahead.marks ">" second || Ahead.marks "#" second ||
      ((Ahead.lifetime second || Ahead.ident second) &&
        (Ahead.marks ">" third || Ahead.marks "," third ||
          (Ahead.marks ":" third && !Ahead.marks "::" third) || Ahead.marks "=" third)) ||
      Ahead.word "const" second)

end SyntaxGraph.Source.Grammar
