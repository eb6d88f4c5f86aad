import SyntaxGraph.Source.Literal

namespace SyntaxGraph.Source

open Text (Cursor Position Scan)
open Text.Scan

namespace Scan

def isMark (c : Char) : Bool :=
  "~!@#$%^&*-=+|;:,<.>/?'".toList.contains c

def isRaw (text : List Char) : Bool :=
  "r#".toList.isPrefixOf text

def identifier : Scan String := do
  if isRaw (← get).rest then
    take 2
    let name := String.ofList (← word)
    if ["_", "super", "self", "Self", "crate"].contains name then failure
    else return "r#" ++ name
  else return String.ofList (← word)

def literalBeginnings : List String :=
  ["r\"", "r#\"", "r##", "b\"", "b'", "br\"", "br#", "c\"", "cr\"", "cr#"]

def plainIdentifier : Scan String := do
  let text := (← get).rest
  if literalBeginnings.any fun b => b.toList.isPrefixOf text then failure
  else identifier

def markCharacter : Scan Char := do
  if (← startsWith "//") || (← startsWith "/*") then failure
  else nextIf isMark

def mark : Scan Token := do
  let c ← markCharacter
  let joint := (markCharacter.run (← get)).isSome
  return .mark c joint

def lifetime (n : Nat) : Scan Token := do
  exactly "'"
  let rest ← get
  match identifier.run rest with
  | none => failure
  | some (_, after) =>
    if after.rest.head? = some '\'' then failure
    else if after.rest.head? = some '#' && !isRaw rest.rest then failure
    else if ((literal n).run rest).isSome then return .mark '\'' true
    else return .lifetime (← plainIdentifier)

def erroneous : Scan Token := do
  exactly "(/*ERROR*/)"
  return .literal .other

def leaf (n : Nat) : Scan Token :=
  (return .literal (← literal n))
    <|> (do
      if ← startsWith "'" then lifetime n else mark)
    <|> (return .word (← plainIdentifier))
    <|> erroneous

def documentation (n : Nat) : Scan (List Char × Bool) := do
  if ← startsWith "//!" then
    take 3
    return (← restOfLine n [], true)
  else if ← startsWith "/*!" then
    return ((← blockComment n).drop 1, true)
  else if ← startsWith "///" then
    take 3
    if ← startsWith "/" then failure
    return (← restOfLine n [], false)
  else if (← startsWith "/**") && !(← startsWith "/***") then
    return ((← blockComment n).drop 1, false)
  else failure

def noBareReturn : List Char → Bool
  | [] => true
  | '\r' :: '\n' :: rest => noBareReturn rest
  | '\r' :: _ => false
  | _ :: rest => noBareReturn rest

def documentationTrees (n : Nat) : Scan (List TokenTree) := do
  let place := (← get).place
  let (text, inner) ← documentation n
  if !noBareReturn text then failure
  let sign := fun c => TokenTree.leaf (.mark c false) place
  let body := [.leaf (.word "doc") place, sign '=',
    .leaf (.literal (.text (String.ofList text))) place]
  let bracketed := TokenTree.group .bracket body place place
  return if inner then [bracketed, sign '!', sign '#'] else [bracketed, sign '#']

end Scan

def opens? : Char → Option Delimiter
  | '(' => some .parenthesis
  | '[' => some .bracket
  | '{' => some .brace
  | _ => none

def closes? : Char → Option Delimiter
  | ')' => some .parenthesis
  | ']' => some .bracket
  | '}' => some .brace
  | _ => none

structure OpenGroup where
  delimiter : Delimiter
  opening : Position
  before : List TokenTree

def readTrees : Nat → List OpenGroup → List TokenTree → Cursor →
    Except Position (List TokenTree)
  | 0, _, _, s => .error s.place
  | n + 1, opened, trees, s =>
    let s := match (Scan.gaps (n + 1)).run s with
      | some (_, s) => s
      | none => s
    match (Scan.documentationTrees (n + 1)).run s with
    | some (documented, s) => readTrees n opened (documented ++ trees) s
    | none =>
      match s.rest with
      | [] =>
        match opened with
        | [] => .ok trees.reverse
        | g :: _ => .error g.opening
      | c :: rest =>
        let erroneous := (Scan.erroneous.run s).isSome
        match opens? c, closes? c with
        | some d, _ =>
          if erroneous then
            match (Scan.leaf (n + 1)).run s with
            | some (t, s') => readTrees n opened (.leaf t s.place :: trees) s'
            | none => .error s.place
          else readTrees n (⟨d, s.place, trees⟩ :: opened) [] ⟨rest, s.place.after c⟩
        | none, some d =>
          match opened with
          | [] => .error s.place
          | g :: outer =>
            if g.delimiter = d then
              let group := TokenTree.group d trees.reverse g.opening s.place
              readTrees n outer (group :: g.before) ⟨rest, s.place.after c⟩
            else .error s.place
        | none, none =>
          match (Scan.leaf (n + 1)).run s with
          | some (t, s') => readTrees n opened (.leaf t s.place :: trees) s'
          | none => .error s.place

def byteOrderMark : Char := '\ufeff'

/-- The text without a first line that names an interpreter; its line break stays. Where a bracket
follows `#!`, the line is an attribute. -/
def withoutInterpreterLine (text : List Char) : List Char :=
  match text with
  | '#' :: '!' :: rest =>
    let after := match (Scan.gaps rest.length).run ⟨rest, {}⟩ with
      | some (_, s) => s.rest
      | none => rest
    if after.head? = some '[' then text else text.dropWhile (· ≠ '\n')
  | _ => text

def withoutMark : List Char → List Char
  | c :: rest => if c = byteOrderMark then rest else c :: rest
  | [] => []

def tokenTrees (text : String) : Except Position (List TokenTree) :=
  let chars := withoutInterpreterLine (withoutMark text.toList)
  let start : Position := if chars.head? = some byteOrderMark then ⟨1, 2⟩ else {}
  readTrees (chars.length + 1) [] [] ⟨withoutMark chars, start⟩

end SyntaxGraph.Source
