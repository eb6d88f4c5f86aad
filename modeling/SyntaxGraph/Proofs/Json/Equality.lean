import SyntaxGraph.Json.Value

namespace SyntaxGraph.Json

mutual

def Value.same : Value → Value → Bool
  | .null, .null => true
  | .bool a, .bool b => a = b
  | .number m, .number n => m = n
  | .string s, .string t => s = t
  | .array items, .array others => sameItems items others
  | .object members, .object others => sameMembers members others
  | _, _ => false

def sameItems : List Value → List Value → Bool
  | [], [] => true
  | v :: rest, w :: others => v.same w && sameItems rest others
  | _, _ => false

def sameMembers : List (String × Value) → List (String × Value) → Bool
  | [], [] => true
  | (name, v) :: rest, (name', w) :: others => name = name' && (v.same w && sameMembers rest others)
  | _, _ => false

end

mutual

theorem Value.eq_of_same : ∀ v w : Value, v.same w = true → v = w
  | .null, .null, _ => rfl
  | .bool _, .bool _, h => congrArg Value.bool (of_decide_eq_true h)
  | .number _, .number _, h => congrArg Value.number (of_decide_eq_true h)
  | .string _, .string _, h => congrArg Value.string (of_decide_eq_true h)
  | .array items, .array others, h => congrArg Value.array (eq_of_sameItems items others h)
  | .object members, .object others, h => congrArg Value.object (eq_of_sameMembers members others h)

theorem eq_of_sameItems : ∀ vs ws : List Value, sameItems vs ws = true → vs = ws
  | [], [], _ => rfl
  | v :: rest, w :: others, h => by
    obtain ⟨hv, hrest⟩ := Bool.and_eq_true_iff.mp h
    rw [v.eq_of_same w hv, eq_of_sameItems rest others hrest]

theorem eq_of_sameMembers : ∀ ms ns : List (String × Value), sameMembers ms ns = true → ms = ns
  | [], [], _ => rfl
  | (name, v) :: rest, (name', w) :: others, h => by
    obtain ⟨hname, h⟩ := Bool.and_eq_true_iff.mp h
    obtain ⟨hv, hrest⟩ := Bool.and_eq_true_iff.mp h
    rw [of_decide_eq_true hname, v.eq_of_same w hv, eq_of_sameMembers rest others hrest]

end

mutual

theorem Value.same_self : ∀ v : Value, v.same v = true
  | .null => rfl
  | .bool _ | .number _ | .string _ => decide_eq_true rfl
  | .array items => sameItems_self items
  | .object members => sameMembers_self members

theorem sameItems_self : ∀ vs : List Value, sameItems vs vs = true
  | [] => rfl
  | v :: rest => by rw [sameItems, v.same_self, sameItems_self rest, Bool.and_self]

theorem sameMembers_self : ∀ ms : List (String × Value), sameMembers ms ms = true
  | [] => rfl
  | (_, v) :: rest => by
    rw [sameMembers, decide_eq_true rfl, v.same_self, sameMembers_self rest, Bool.and_self, Bool.and_self]

end

instance : DecidableEq Value :=
  fun v w => decidable_of_iff (v.same w = true) ⟨v.eq_of_same w, fun h => h ▸ v.same_self⟩

end SyntaxGraph.Json
