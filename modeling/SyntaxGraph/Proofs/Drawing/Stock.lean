import SyntaxGraph.Proofs.Drawing.Registration

namespace SyntaxGraph

namespace Hierarchy

variable {h : Hierarchy} {kind a : Kind}

theorem isSubkind_eq_true_iff_of_not_parent (ha : a ∉ h.relations.map Prod.snd) :
    h.isSubkind kind a = true ↔ kind = a := by
  rw [isSubkind, List.contains_iff_mem]
  constructor
  · intro hmem
    rcases (reaches_of_mem_chain hmem).cases_tail with rfl | ⟨b, _, hb⟩
    · rfl
    · exact absurd (List.mem_map.mpr ⟨_, mem_relations_of_parent hb, rfl⟩) ha
  · rintro rfl
    exact h.self_mem_ancestors kind

end Hierarchy

namespace Registry

def stockRegistrations (s : Settings) : List (Registration Strategy) :=
  [.own (.general s.palette.general), .own (.binary s.binarySymbols s.palette.binary),
    .own (.call s.palette.call), .own (.name s.palette.name), .own (.constant s.palette.constant),
    .own (.comparison s.comparisonSymbols s.palette.comparison)]

theorem standard_eq (s : Settings) (h : Hierarchy) : standard s h =
    insertAll (builder h) ((stockRegistrations s).flatMap Registration.pairs) :=
  build_eq h (stockRegistrations s)

theorem hierarchy_standard (s : Settings) (h : Hierarchy) : (standard s h).hierarchy = h := by
  simp [standard, register, registerFor, Registrable.ownKinds, Strategy.ownKinds]

theorem kinds_standard (s : Settings) (h : Hierarchy) : (standard s h).kinds =
    ["expr", "stmt", "mod"] ++ ["BinOp", "Call", "Name", "Constant", "Compare"] := by
  simp [standard, register, registerFor, Registrable.ownKinds, Strategy.ownKinds, kinds_insert]

end Registry

def Kind.isDrawable (kind : Kind) : Bool :=
  ["expr", "stmt", "mod"].any (Hierarchy.standard.isSubkind kind)

theorem Registry.draws_standard (s : Settings) (kind : Kind) :
    (standard s .standard).draws kind = kind.isDrawable := by
  have hleaf : ∀ a ∈ ["BinOp", "Call", "Name", "Constant", "Compare"],
      a ∉ Hierarchy.standard.relations.map Prod.snd ∧ Kind.isDrawable a = true := by
    decide +kernel
  rw [draws_eq, kinds_standard, hierarchy_standard, List.any_append]
  apply Bool.or_eq_left_iff_imp.mpr
  intro hany
  obtain ⟨a, ha, hsub⟩ := List.any_eq_true.mp hany
  obtain ⟨hparent, hdrawable⟩ := hleaf a ha
  obtain rfl := (Hierarchy.isSubkind_eq_true_iff_of_not_parent hparent).mp hsub
  exact hdrawable

end SyntaxGraph
