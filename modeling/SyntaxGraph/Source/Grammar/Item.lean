import SyntaxGraph.Source.Grammar.Statement

namespace SyntaxGraph.Source.Grammar

open Parser
open Text (Position)

variable (g : Grammar)

def visibility : Parser Bool := do
  if ← tryWord "pub" then
    match (← get).rest with
    | .group .parenthesis body _ _ :: _ =>
      if Ahead.oneOf ["crate", "self", "super"] body then
        if body.length = 1 then drop 1
      else if Ahead.word "in" body then
        inParens do
          drop 1
          let _ ← plainPath
    | _ => return true
    return true
  else return false

def seesSignature (allowSafe : Bool) : Parser Bool := do
  let words : Parser Unit := do
    let _ ← tryWord "const"
    let _ ← tryWord "async"
    if allowSafe && (← seesWord "safe") then drop 1
    else
      let _ ← tryWord "unsafe"
    optionalAbi
    Parser.word "fn"
  return (← lookahead words).isSome

def receiver : Parser Unit := do
  if ← tryMarks "&" then
    if ← sees .lifetime then drop 1
    let _ ← tryWord "mut"
    Parser.word "self"
  else
    let _ ← tryWord "mut"
    Parser.word "self"
    if ← tryMarks ":" then
      let _ ← g.type true

def receiverPlace (trees : List TokenTree) : Option Position :=
  (trees.find? fun t => Ahead.word "self" [t]).map TokenTree.place

def parameter (first : Bool) : Parser (Option Parameter) := do
  let start := (← get).rest
  if let some () ← attempt g.receiver then
    match first, receiverPlace start with
    | false, some place => throw place
    | _, _ => return some .receiver
  else if (← sees .ident) && (← sees2 (.marks "<")) then
    let _ ← g.type true
    return some (.pattern .wild)
  else
    let p ← g.pattern
    marks ":"
    if ← tryMarks "..." then return none
    else
      let _ ← g.type true
      return some (.pattern (.typed p.pattern))

def parametersWithin : Nat → List Parameter → Parser (List Parameter)
  | 0, found => return found.reverse
  | n + 1, found => do
    if ← isEmpty then return found.reverse
    let _ ← g.outerAttributes
    let parameter? ← if ← tryMarks "..." then pure none else g.parameter found.isEmpty
    match parameter? with
    | none =>
      if !(← isEmpty) then marks ","
      return found.reverse
    | some p =>
      if ← isEmpty then return (p :: found).reverse
      marks ","
      parametersWithin n (p :: found)

def signature (allowSafe : Bool) : Parser Signature := do
  let _ ← tryWord "const"
  let isAsync ← tryWord "async"
  if allowSafe && (← seesWord "safe") then drop 1
  else
    let _ ← tryWord "unsafe"
  optionalAbi
  Parser.word "fn"
  let name ← ident
  let _ ← g.generics
  let parameters ← inParens do g.parametersWithin (← limit) []
  g.returnType true
  let _ ← g.whereClause
  return ⟨isAsync, name, parameters⟩

def functionItem : Parser Item := do
  let _ ← visibility
  let s ← g.signature false
  if ← tryMarks ";" then return .other
  else return .function s (← g.attributedBlock)

def foreignType (before after : Bool) : Parser Unit := do
  Parser.word "type"
  let _ ← ident
  let _ ← g.generics
  if ← tryMarks ":" then
    let ended : Parser Bool := do
      return (← seesWord "where") || (← seesMarks "=") || (← seesMarks ";")
    repeatStep do
      if ← ended then return false
      let _ ← g.bound false true
      if ← ended then return false
      marks "+"
      return true
  let clause ← if before then g.whereClause else pure false
  if ← tryMarks "=" then
    let _ ← g.type true
  if after && !clause then
    let _ ← g.whereClause
  marks ";"

def macroItem (named : Bool) : Parser MacroCall := do
  let p ← plainPath
  marks "!"
  if named then
    if (← seesWord "try") || (← sees .ident) then drop 1
  let braced ← delimited
  if !braced then marks ";"
  return ⟨p, braced⟩

def startsMacro : Parser Bool := do
  return (← sees .ident) || (← sees (.oneOf ["self", "super", "crate"])) || (← seesMarks "::")

def constantRest : Parser (Option (String × Expr)) := do
  let name ← if (← sees .ident) || (← seesWord "_") then anyWord else failHere
  let generic ← g.generics
  marks ":"
  let _ ← g.type true
  let value ← if ← tryMarks "=" then some <$> g.expr true else pure none
  let constrained ← g.whereClause
  marks ";"
  if generic || constrained then return none else return value.map (name, ·)

def constantItem : Parser Item := do
  let _ ← visibility
  Parser.word "const"
  match ← g.constantRest with
  | some (name, value) => return .binding name value
  | none => return .other

def staticItem : Parser Item := do
  let _ ← visibility
  Parser.word "static"
  let _ ← tryWord "mut"
  let name ← ident
  if ← tryMarks "=" then
    let _ ← g.expr true
    marks ";"
    return .other
  else
    marks ":"
    let _ ← g.type true
    if ← tryMarks ";" then return .other
    else
      marks "="
      let value ← g.expr true
      marks ";"
      return .binding name value

def useGroup (crateRoot : Bool) : Nat → Bool → Parser Bool
  | 0, plain => return plain
  | n + 1, plain => do
    if ← isEmpty then return plain
    let rooted ← if crateRoot then tryMarks "::" else pure false
    let tree? ← g.useTree (crateRoot && !rooted)
    let plain := plain && !rooted && tree?.isSome
    if ← isEmpty then return plain
    marks ","
    useGroup crateRoot n plain

def useTreeWith (crateRoot : Bool) : Parser (Option UseTree) := do
  if (← sees .ident) || (← sees (.oneOf ["self", "super", "crate", "try"])) then
    let name ← anyWord
    if ← tryMarks "::" then return (← g.useTree false).map (.path name)
    else if ← tryWord "as" then
      if (← sees .ident) || (← seesWord "_") then return some (.rename name (← anyWord))
      else failHere
    else return some (.name name)
  else if ← tryMarks "*" then return some .glob
  else
    let plain ← inBraces do g.useGroup crateRoot (← limit) true
    return if plain then some .group else none

def useItem : Parser Item := do
  let _ ← visibility
  Parser.word "use"
  let rooted ← tryMarks "::"
  let tree? ← g.useTree (!rooted)
  marks ";"
  return (tree?.map Item.use).getD .other

def externCrate : Parser Item := do
  let _ ← visibility
  Parser.word "extern"
  Parser.word "crate"
  if ← seesWord "self" then drop 1
  else
    let _ ← ident
  if ← tryWord "as" then
    if ← seesWord "_" then drop 1
    else
      let _ ← ident
  marks ";"
  return .other

def foreignFunction : Parser Unit := do
  let _ ← visibility
  let _ ← g.signature true
  if ← sees .brace then
    let _ ← g.attributedBlock
  else marks ";"

def foreignStatic : Parser Unit := do
  let _ ← visibility
  if ← sees (.oneOf ["unsafe", "safe"]) then drop 1
  Parser.word "static"
  let _ ← tryWord "mut"
  let _ ← ident
  marks ":"
  let _ ← g.type true
  if ← tryMarks "=" then
    let _ ← g.expr true
  marks ";"

def foreignItem : Parser Unit := do
  let _ ← g.outerAttributes
  let start ← get
  let visible ← visibility
  if ← seesSignature true then
    set start
    g.foreignFunction
  else if (← seesWord "static") ||
      ((← sees (.oneOf ["unsafe", "safe"])) && (← sees2 (.word "static"))) then
    set start
    g.foreignStatic
  else if ← seesWord "type" then g.foreignType true true
  else if !visible && (← startsMacro) then
    let _ ← macroItem false
  else failHere

def foreignModule : Parser Item := do
  let _ ← tryWord "unsafe"
  Parser.word "extern"
  if ← sees .text then drop 1
  inBraces do
    g.innerAttributes
    let _ ← all g.foreignItem
  return .other

def moduleItem : Parser Item := do
  let _ ← visibility
  let _ ← tryWord "unsafe"
  Parser.word "mod"
  let name ← if ← seesWord "try" then anyWord else ident
  if ← tryMarks ";" then return .module name []
  else
    return .module name (← inBraces do
      g.innerAttributes
      all g.item)

def namedField : Parser String := do
  let _ ← g.outerAttributes
  let _ ← visibility
  let unnamed ← seesWord "_"
  let name ← if unnamed then anyWord else ident
  marks ":"
  if unnamed && ((← seesWord "struct") || ((← seesWord "union") && (← sees2 .brace))) then
    drop 1
    let _ ← g.namedFields
  else
    let _ ← g.type true
  return name

def namedFieldsWith : Parser (List String) :=
  inBraces (separated g.namedField)

def unnamedFields : Parser Unit := do
  let _ ← inParens <| separated do
    let _ ← g.outerAttributes
    let _ ← visibility
    g.type true

def structItem : Parser Item := do
  let _ ← visibility
  Parser.word "struct"
  let name ← ident
  let _ ← g.generics
  let constrained ← g.whereClause
  if !constrained && (← sees .paren) then
    g.unnamedFields
    let _ ← g.whereClause
    marks ";"
    return .structure name []
  else if ← sees .brace then return .structure name (← g.namedFields)
  else
    marks ";"
    return .structure name []

def variant : Parser String := do
  let _ ← g.outerAttributes
  let _ ← visibility
  let name ← ident
  if ← sees .brace then
    let _ ← g.namedFields
  else if ← sees .paren then g.unnamedFields
  if ← tryMarks "=" then
    let _ ← g.expr true
  return name

def enumItem : Parser Item := do
  let _ ← visibility
  Parser.word "enum"
  let name ← ident
  let _ ← g.generics
  let _ ← g.whereClause
  return .enumeration name (← inBraces (separated g.variant))

def unionItem : Parser Item := do
  let _ ← visibility
  Parser.word "union"
  let _ ← ident
  let _ ← g.generics
  let _ ← g.whereClause
  let _ ← g.namedFields
  return .other

def traitFunction : Parser Unit := do
  let _ ← g.signature false
  if ← sees .brace then
    let _ ← g.attributedBlock
  else marks ";"

def traitItem : Parser Unit := do
  let _ ← g.outerAttributes
  let visible ← visibility
  let isDefault ← tryWord "default"
  if ← seesSignature false then g.traitFunction
  else if ← seesWord "const" then
    if (← sees2 .ident) || (← sees2 (.word "_")) then
      drop 1
      let _ ← g.constantRest
    else if ← sees2 (.oneOf ["async", "unsafe", "extern", "fn"]) then g.traitFunction
    else
      drop 1
      failHere
  else if ← seesWord "type" then g.foreignType false true
  else if !visible && !isDefault && (← startsMacro) then
    let _ ← macroItem false
  else failHere

def traitBody : Parser Unit := do
  if ← tryMarks ":" then
    let ended : Parser Bool := do return (← seesWord "where") || (← sees .brace)
    repeatStep do
      if ← ended then return false
      let _ ← g.bound false true
      if ← ended then return false
      marks "+"
      return true
  let _ ← g.whereClause
  inBraces do
    g.innerAttributes
    let _ ← all g.traitItem

def traitAliasBody : Parser Unit := do
  marks "="
  let ended : Parser Bool := do return (← seesWord "where") || (← seesMarks ";")
  repeatStep do
    if ← ended then return false
    let _ ← g.bound false true
    if ← ended then return false
    marks "+"
    return true
  let _ ← g.whereClause
  marks ";"

def traitDeclaration (allowAlias : Bool) : Parser Item := do
  let _ ← visibility
  let _ ← tryWord "unsafe"
  let _ ← tryWord "auto"
  Parser.word "trait"
  let _ ← ident
  let _ ← g.generics
  if allowAlias && (← seesMarks "=") then g.traitAliasBody else g.traitBody
  return .other

def method : Parser (Option Method) := do
  let _ ← visibility
  let _ ← tryWord "default"
  let s ← g.signature false
  if ← tryMarks ";" then return none
  else return some (.mk s (← g.attributedBlock))

def implementationMember : Parser (Option Method) := do
  let _ ← g.outerAttributes
  let start ← get
  let visible ← visibility
  let isDefault := (← seesWord "default") && !(← sees2 (.marks "!"))
  if isDefault then drop 1
  if ← seesSignature false then
    set start
    g.method
  else if ← tryWord "const" then
    let _ ← g.constantRest
    return none
  else if ← seesWord "type" then
    g.foreignType false true
    return none
  else if !visible && !isDefault && (← startsMacro) then
    let _ ← macroItem false
    return none
  else failHere

def implementation : Parser Item := do
  let visible ← visibility
  let _ ← tryWord "default"
  let _ ← tryWord "unsafe"
  Parser.word "impl"
  if startsGenerics (← get).rest then
    let _ ← g.generics
  let isConst := (← seesWord "const") || ((← seesMarks "?") && (← sees2 (.word "const")))
  if isConst then
    let _ ← tryMarks "?"
    drop 1
  let negative := (← seesMarks "!") && !(← sees2 .brace)
  if negative then drop 1
  let first ← g.type true
  let ofTrait ← tryWord "for"
  let self ← if ofTrait then g.type true else pure (if negative then .other else first)
  let _ ← g.whereClause
  let members ← inBraces do
    g.innerAttributes
    all g.implementationMember
  let methods := members.filterMap id
  match ofTrait, first with
  | false, _ => return if visible || isConst then .other else .implementation none self methods
  | true, .path false p =>
    return if visible || isConst then .other else .implementation (some p) self methods
  | true, _ => return .other

def macroDefinition : Parser Item := do
  let _ ← visibility
  Parser.word "macro"
  let _ ← ident
  if ← sees .paren then drop 1
  if ← sees .brace then drop 1 else failHere
  return .other

def itemParser (visible : Bool) : Parser (Parser Item) := do
  let rest := (← get).rest
  let second := rest.drop 1
  if ← seesSignature false then return g.functionItem
  else if ← tryWord "extern" then
    if ← seesWord "crate" then return externCrate
    else if ← sees .brace then return g.foreignModule
    else if ← sees .text then
      drop 1
      if ← sees .brace then return g.foreignModule else failHere
    else failHere
  else if ← seesWord "use" then return g.useItem
  else if ← seesWord "static" then return g.staticItem
  else if ← seesWord "const" then return g.constantItem
  else if ← tryWord "unsafe" then
    if (← seesWord "trait") || ((← seesWord "auto") && (← sees2 (.word "trait"))) then
      return g.traitDeclaration false
    else if ← seesWord "impl" then return g.implementation
    else if ← seesWord "extern" then return g.foreignModule
    else if ← seesWord "mod" then return g.moduleItem
    else failHere
  else if ← seesWord "mod" then return g.moduleItem
  else if ← seesWord "type" then
    return do
      let _ ← visibility
      g.foreignType true false
      return .other
  else if ← seesWord "struct" then return g.structItem
  else if ← seesWord "enum" then return g.enumItem
  else if (← seesWord "union") && Ahead.ident second then return g.unionItem
  else if ← seesWord "trait" then return g.traitDeclaration true
  else if (← seesWord "auto") && Ahead.word "trait" second then return g.traitDeclaration false
  else if (← seesWord "impl") || ((← seesWord "default") && !Ahead.marks "!" second) then
    return g.implementation
  else if ← seesWord "macro" then return macroDefinition
  else if !visible && (← startsMacro) then return Item.macroCall <$> macroItem true
  else failHere

def itemWith : Parser Item := do
  let _ ← g.outerAttributes
  let start ← get
  let chosen ← g.itemParser (← visibility)
  set start
  chosen

end SyntaxGraph.Source.Grammar
