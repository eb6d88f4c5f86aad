namespace SyntaxGraph

variable {κ α : Type}

def insertEntry [DecidableEq κ] (key : κ) (a : α) : List (κ × α) → List (κ × α)
  | [] => [(key, a)]
  | e :: entries => if e.1 = key then (key, a) :: entries else e :: insertEntry key a entries

theorem lookup_cons_eq_ite [DecidableEq κ] (k key : κ) (a : α) (entries : List (κ × α)) :
    ((key, a) :: entries).lookup k = if k = key then some a else entries.lookup k := by
  rw [List.lookup_cons]
  by_cases h : k = key
  · rw [if_pos h, h, beq_self_eq_true]
  · rw [if_neg h, beq_false_of_ne h]

theorem lookup_insertEntry [DecidableEq κ] (key k : κ) (a : α) (entries : List (κ × α)) :
    (insertEntry key a entries).lookup k = if k = key then some a else entries.lookup k := by
  induction entries with
  | nil => exact lookup_cons_eq_ite k key a []
  | cons e entries ih =>
    obtain ⟨key', a'⟩ := e
    rw [insertEntry]
    by_cases hkey : key' = key
    · rw [if_pos hkey, lookup_cons_eq_ite, lookup_cons_eq_ite, hkey]
      split <;> rfl
    · rw [if_neg hkey, lookup_cons_eq_ite, lookup_cons_eq_ite, ih]
      by_cases h : k = key'
      · rw [if_pos h, if_neg (h ▸ hkey), if_pos h]
      · rw [if_neg h, if_neg h]

theorem map_fst_insertEntry [DecidableEq κ] (key : κ) (a : α) (entries : List (κ × α)) :
    (insertEntry key a entries).map Prod.fst =
      if key ∈ entries.map Prod.fst then entries.map Prod.fst else entries.map Prod.fst ++ [key] := by
  induction entries with
  | nil => rfl
  | cons e entries ih =>
    rw [insertEntry]
    by_cases hkey : e.1 = key
    · rw [if_pos hkey, if_pos (by simp [hkey])]
      simp [hkey]
    · rw [if_neg hkey, List.map_cons, ih, List.map_cons]
      have hne : key ≠ e.1 := fun h => hkey h.symm
      by_cases hmem : key ∈ entries.map Prod.fst
      · rw [if_pos hmem, if_pos (List.mem_cons_of_mem _ hmem)]
      · rw [if_neg hmem, if_neg (by simpa [hne] using hmem), List.cons_append]

theorem lookup_eq_none_of_not_mem [DecidableEq κ] {key : κ} {entries : List (κ × α)}
    (h : key ∉ entries.map Prod.fst) : entries.lookup key = none := by
  rw [List.lookup_eq_none_iff]
  intro e he
  rw [bne_iff_ne]
  rintro rfl
  exact h (List.mem_map_of_mem he)

theorem eq_of_lookup_eq [DecidableEq κ] {entries entries' : List (κ × α)}
    (hkeys : entries.map Prod.fst = entries'.map Prod.fst) (hd : (entries.map Prod.fst).Nodup)
    (h : ∀ key, entries.lookup key = entries'.lookup key) : entries = entries' := by
  induction entries generalizing entries' with
  | nil => exact (List.map_eq_nil_iff.mp hkeys.symm).symm
  | cons e entries ih =>
    obtain ⟨key, a⟩ := e
    cases entries' with
    | nil => cases hkeys
    | cons e' entries' =>
      obtain ⟨key', a'⟩ := e'
      obtain ⟨hfirst, hrest⟩ := List.cons_eq_cons.mp hkeys
      obtain rfl : key = key' := hfirst
      obtain ⟨hfresh, hd⟩ := List.nodup_cons.mp hd
      have ha := h key
      rw [lookup_cons_eq_ite, lookup_cons_eq_ite, if_pos rfl, if_pos rfl] at ha
      rw [Option.some.inj ha, ih hrest hd]
      intro k
      by_cases hk : k = key
      · have hfresh' : key ∉ entries'.map Prod.fst := hrest ▸ hfresh
        rw [hk, lookup_eq_none_of_not_mem hfresh, lookup_eq_none_of_not_mem hfresh']
      · have hold := h k
        rwa [lookup_cons_eq_ite, lookup_cons_eq_ite, if_neg hk, if_neg hk] at hold

theorem forall_mem_insertEntry [DecidableEq κ] {P : α → Prop} {entries : List (κ × α)}
    (h : ∀ e ∈ entries, P e.2) (key : κ) {a : α} (ha : P a) : ∀ e ∈ insertEntry key a entries, P e.2 := by
  induction entries with
  | nil =>
    intro e he
    rw [List.mem_singleton.mp he]
    exact ha
  | cons e entries ih =>
    obtain ⟨he, hrest⟩ := List.forall_mem_cons.mp h
    rw [insertEntry]
    split
    · exact List.forall_mem_cons.mpr ⟨ha, hrest⟩
    · exact List.forall_mem_cons.mpr ⟨he, ih hrest⟩

def Indexes [BEq κ] (index : List (κ × Nat)) (keys : List κ) : Prop :=
  ∀ key slot, index.lookup key = some slot ↔ keys[slot]? = some key

theorem indexes_nil [BEq κ] : Indexes ([] : List (κ × Nat)) [] := by
  simp [Indexes]

theorem Indexes.append [DecidableEq κ] {index : List (κ × Nat)} {keys : List κ} (h : Indexes index keys)
    {key : κ} (hk : index.lookup key = none) : Indexes ((key, keys.length) :: index) (keys ++ [key]) := by
  intro k slot
  have hold := h k slot
  rw [lookup_cons_eq_ite]
  grind

end SyntaxGraph
