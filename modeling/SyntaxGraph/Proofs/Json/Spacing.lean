import SyntaxGraph.Json.Cursor
import SyntaxGraph.Json.Writer

/-!
The two spacings of JSON texts in one form. In both of them the parts of a list or an object stand
behind gaps that depend on the depth only, and a gap stands before the closing bracket.
-/

namespace SyntaxGraph.Json

inductive Spacing where
  | compact
  | pretty
  deriving DecidableEq, Repr

namespace Spacing

def write : Spacing → Value → String
  | compact => Value.compact
  | pretty => Value.pretty

def gap : Spacing → Nat → List Char
  | compact, _ => []
  | pretty, depth => '\n' :: List.replicate (2 * depth) ' '

def space : Spacing → List Char
  | compact => []
  | pretty => [' ']

def following (l : Spacing) (depth : Nat) (closing : Char) : List (List Char) → List Char
  | [] => l.gap depth ++ [closing]
  | part :: parts => ',' :: (l.gap (depth + 1) ++ (part ++ l.following depth closing parts))

def inside (l : Spacing) (depth : Nat) (closing : Char) : List (List Char) → List Char
  | [] => [closing]
  | part :: parts => l.gap (depth + 1) ++ (part ++ l.following depth closing parts)

mutual

def spell (l : Spacing) (depth : Nat) : Value → List Char
  | .array items => '[' :: l.inside depth ']' (l.spellItems (depth + 1) items)
  | .object members => '{' :: l.inside depth '}' (l.spellMembers (depth + 1) members)
  | v => v.compact.toList

def spellItems (l : Spacing) (depth : Nat) : List Value → List (List Char)
  | [] => []
  | v :: rest => l.spell depth v :: l.spellItems depth rest

def spellMembers (l : Spacing) (depth : Nat) : List (String × Value) → List (List Char)
  | [] => []
  | (name, v) :: rest =>
    ((writeString name).toList ++ ':' :: (l.space ++ l.spell depth v)) :: l.spellMembers depth rest

end

theorem spellItems_eq (l : Spacing) (depth : Nat) (items : List Value) :
    l.spellItems depth items = items.map (l.spell depth) := by
  induction items with
  | nil => rfl
  | cons v rest ih => rw [spellItems, List.map_cons, ih]

theorem length_lt_following (l : Spacing) (depth : Nat) (closing : Char) (parts : List (List Char)) :
    parts.length < (l.following depth closing parts).length := by
  induction parts with
  | nil =>
    rw [following, List.length_append]
    exact Nat.lt_add_left _ Nat.one_pos
  | cons part parts ih =>
    simp only [following, List.length_cons, List.length_append]
    omega

theorem length_le_inside (l : Spacing) (depth : Nat) (closing : Char) (parts : List (List Char)) :
    parts.length ≤ (l.inside depth closing parts).length := by
  cases parts with
  | nil => exact Nat.zero_le _
  | cons part parts =>
    have h := l.length_lt_following depth closing parts
    simp only [inside, List.length_cons, List.length_append]
    omega

theorem length_lt_inside_members (l : Spacing) (depth : Nat) (closing : Char) (members : List (String × Value)) :
    members.length < (l.inside depth closing (l.spellMembers (depth + 1) members)).length := by
  have hlength : (l.spellMembers (depth + 1) members).length = members.length := by
    induction members with
    | nil => rfl
    | cons member members ih => rw [spellMembers, List.length_cons, List.length_cons, ih]
  cases members with
  | nil => exact Nat.one_pos
  | cons member members =>
    have h := l.length_lt_following depth closing (l.spellMembers (depth + 1) members)
    simp only [spellMembers, List.length_cons] at hlength
    simp only [spellMembers, inside, List.length_cons, List.length_append]
    omega

theorem isBlank_of_mem_gap {l : Spacing} {depth : Nat} : ∀ c ∈ l.gap depth, Reader.isBlank c = true := by
  cases l with
  | compact => exact nofun
  | pretty =>
    refine List.forall_mem_cons.mpr ⟨rfl, fun c hc => ?_⟩
    rw [List.eq_of_mem_replicate hc]
    rfl

theorem isBlank_of_mem_space {l : Spacing} : ∀ c ∈ l.space, Reader.isBlank c = true := by
  cases l with
  | compact => exact nofun
  | pretty => exact List.forall_mem_singleton.mpr rfl

theorem following_eq (l : Spacing) (depth : Nat) (closing : Char) (parts : List (List Char)) :
    l.following depth closing parts
      = parts.flatMap (fun part => ',' :: (l.gap (depth + 1) ++ part)) ++ (l.gap depth ++ [closing]) := by
  induction parts with
  | nil => rfl
  | cons part parts ih => simp [following, ih]

theorem intercalate_cons {α : Type} (separator part : List α) (parts : List (List α)) :
    separator.intercalate (part :: parts) = part ++ parts.flatMap (separator ++ ·) := by
  induction parts generalizing part with
  | nil => simp
  | cons next parts ih =>
    rw [List.intercalate_cons_cons, ih, List.flatMap_cons, List.append_assoc, List.append_assoc]

theorem toList_bracketed (depth : Nat) (opening closing : Char) (parts : List String) :
    (String.singleton opening ++ ",".intercalate parts ++ String.singleton closing).toList
      = opening :: compact.inside depth closing (parts.map String.toList) := by
  cases parts with
  | nil => simp [inside]
  | cons part parts => simp [inside, following_eq, gap, intercalate_cons]

def indent (depth : Nat) : String :=
  String.ofList (List.replicate (2 * depth) ' ')

theorem indent_succ (depth : Nat) : indent depth ++ "  " = indent (depth + 1) := by
  have htwo : "  " = String.ofList (List.replicate 2 ' ') := rfl
  unfold indent
  rw [htwo, ← String.ofList_append, List.replicate_append_replicate]
  rfl

theorem toList_block (depth : Nat) (opening closing : Char) (parts : List String) :
    (block (indent depth) (String.singleton opening) (String.singleton closing) parts).toList
      = opening :: pretty.inside depth closing (parts.map String.toList) := by
  unfold block
  rw [indent_succ]
  cases parts with
  | nil => simp [inside]
  | cons part parts => simp [inside, following_eq, gap, intercalate_cons, indent, List.flatMap_map]

mutual

theorem toList_compact (depth : Nat) : ∀ v : Value, v.compact.toList = compact.spell depth v
  | .null | .bool _ | .number _ | .string _ => rfl
  | .array items => by
    have h := toList_bracketed depth '[' ']' (compactItems items)
    rwa [toList_compactItems (depth + 1) items] at h
  | .object members => by
    have h := toList_bracketed depth '{' '}' (compactMembers members)
    rwa [toList_compactMembers (depth + 1) members] at h

theorem toList_compactItems (depth : Nat) :
    ∀ items : List Value, (compactItems items).map String.toList = compact.spellItems depth items
  | [] => rfl
  | v :: rest => by
    rw [compactItems, spellItems, List.map_cons, toList_compact depth v, toList_compactItems depth rest]

theorem toList_compactMembers (depth : Nat) :
    ∀ members, (compactMembers members).map String.toList = compact.spellMembers depth members
  | [] => rfl
  | (name, v) :: rest => by
    rw [compactMembers, spellMembers, List.map_cons, toList_compactMembers depth rest, String.toList_append,
      String.toList_append, toList_compact depth v, List.append_assoc]
    rfl

end

mutual

theorem toList_prettyAt (depth : Nat) : ∀ v : Value, (v.prettyAt (indent depth)).toList = pretty.spell depth v
  | .null | .bool _ | .number _ | .string _ => rfl
  | .array items => by
    have h := toList_block depth '[' ']' (prettyItems (indent (depth + 1)) items)
    rw [toList_prettyItems (depth + 1) items] at h
    rw [Value.prettyAt, indent_succ]
    exact h
  | .object members => by
    have h := toList_block depth '{' '}' (prettyMembers (indent (depth + 1)) members)
    rw [toList_prettyMembers (depth + 1) members] at h
    rw [Value.prettyAt, indent_succ]
    exact h

theorem toList_prettyItems (depth : Nat) :
    ∀ items, (prettyItems (indent depth) items).map String.toList = pretty.spellItems depth items
  | [] => rfl
  | v :: rest => by
    rw [prettyItems, spellItems, List.map_cons, toList_prettyAt depth v, toList_prettyItems depth rest]

theorem toList_prettyMembers (depth : Nat) :
    ∀ members, (prettyMembers (indent depth) members).map String.toList = pretty.spellMembers depth members
  | [] => rfl
  | (name, v) :: rest => by
    rw [prettyMembers, spellMembers, List.map_cons, toList_prettyMembers depth rest, String.toList_append,
      String.toList_append, toList_prettyAt depth v, List.append_assoc]
    rfl

end

theorem toList_write (l : Spacing) (v : Value) : (l.write v).toList = l.spell 0 v := by
  cases l with
  | compact => exact toList_compact 0 v
  | pretty => exact toList_prettyAt 0 v

end Spacing

end SyntaxGraph.Json
