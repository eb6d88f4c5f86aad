import SyntaxGraph.Proofs.Drawing.Registration

namespace SyntaxGraph

section

variable {σ : Type}

/-- Each kind is registered for the same strategy in the end, and of two kinds one above the other the same
one is registered first. -/
structure Reordered (h : Hierarchy) (pairs pairs' : List (Kind × σ)) : Prop where
  latest : ∀ kind s, Latest pairs kind s ↔ Latest pairs' kind s
  first : ∀ a ∈ pairs.map Prod.fst, ∀ b ∈ pairs.map Prod.fst,
    h.isSubkind a b = true ∨ h.isSubkind b a = true →
    ((pairs.map Prod.fst).idxOf a < (pairs.map Prod.fst).idxOf b ↔
      (pairs'.map Prod.fst).idxOf a < (pairs'.map Prod.fst).idxOf b)

namespace Reordered

variable {h : Hierarchy} {pairs pairs' : List (Kind × σ)}

theorem lookup_eq (hr : Reordered h pairs pairs') (kind : Kind) :
    pairs.reverse.lookup kind = pairs'.reverse.lookup kind := by
  apply Option.ext
  intro s
  rw [← latest_iff, ← latest_iff]
  exact hr.latest kind s

theorem mem_iff (hr : Reordered h pairs pairs') (kind : Kind) :
    kind ∈ pairs.map Prod.fst ↔ kind ∈ pairs'.map Prod.fst := by
  rw [← not_iff_not, ← Registry.lookup_reverse_eq_none_iff, ← Registry.lookup_reverse_eq_none_iff,
    hr.lookup_eq]

theorem find?_eq (hr : Reordered h pairs pairs') (hd : h.Declared) (kind : Kind) :
    (pairs.map Prod.fst).find? (h.isSubkind kind) = (pairs'.map Prod.fst).find? (h.isSubkind kind) := by
  apply find?_congr_of_idxOf hr.mem_iff
  intro a ha b hb hka hkb
  have hcomparable := hd.ordered.comparable kind a b (List.contains_iff_mem.mp hka)
    (List.contains_iff_mem.mp hkb)
  exact hr.first a ha b hb hcomparable

end Reordered

namespace Registry

theorem resolve_build_reordered [Registrable σ] {h : Hierarchy} (hd : h.Declared)
    {calls calls' : List (Registration σ)}
    (hr : Reordered h (calls.flatMap Registration.pairs) (calls'.flatMap Registration.pairs)) (kind : Kind) :
    (build h calls).resolve kind = (build h calls').resolve kind := by
  have hown : (fun a => (calls.flatMap Registration.pairs).reverse.lookup a) =
      fun a => (calls'.flatMap Registration.pairs).reverse.lookup a :=
    funext hr.lookup_eq
  rw [build_eq, build_eq, resolve_insertAll, resolve_insertAll, hr.lookup_eq kind, hr.find?_eq hd kind, hown]

theorem resolve_build_reordered_families :
    let calls : List (Registration Strategy) :=
      [.own (.general "wide"), .chosen (.name "last") ["BinOp", "AST"]]
    let calls' : List (Registration Strategy) :=
      [.chosen (.constant "first") ["stmt", "mod"], .chosen (.general "wide") ["expr"],
        .chosen (.name "last") ["BinOp", "AST"], .own (.general "wide")]
    Hierarchy.standard.Declared ∧
      Reordered .standard (calls.flatMap Registration.pairs) (calls'.flatMap Registration.pairs) ∧
      (build .standard calls).kinds = ["expr", "stmt", "mod", "BinOp", "AST"] ∧
      (build .standard calls').kinds = ["stmt", "mod", "expr", "BinOp", "AST"] ∧
      (build .standard calls).resolve "If" = (build .standard calls').resolve "If" ∧
      (build .standard calls').resolve "If" = some (.general "wide") := by
  intro calls calls'
  have hlookup : ∀ kind ∈ (calls.flatMap Registration.pairs).map Prod.fst,
      (calls.flatMap Registration.pairs).reverse.lookup kind =
        (calls'.flatMap Registration.pairs).reverse.lookup kind := by
    decide
  have hkinds : ∀ kind ∈ (calls'.flatMap Registration.pairs).map Prod.fst,
      kind ∈ (calls.flatMap Registration.pairs).map Prod.fst := by
    decide
  have hr : Reordered .standard (calls.flatMap Registration.pairs) (calls'.flatMap Registration.pairs) := by
    constructor
    case latest =>
      intro kind s
      rw [latest_iff, latest_iff]
      by_cases hk : kind ∈ (calls.flatMap Registration.pairs).map Prod.fst
      · rw [hlookup kind hk]
      · rw [(lookup_reverse_eq_none_iff _ kind).mpr hk,
          (lookup_reverse_eq_none_iff _ kind).mpr (mt (hkinds kind) hk)]
    case first => decide +kernel
  exact ⟨.standard, hr, by decide +kernel, by decide +kernel, resolve_build_reordered .standard hr "If",
    by decide +kernel⟩

end Registry

end

end SyntaxGraph
