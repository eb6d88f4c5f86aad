import SyntaxGraph.Proofs.Frontend
import SyntaxGraph.Proofs.Json.Equality
import SyntaxGraph.Proofs.Tree.Misshapen

namespace SyntaxGraph.Frontend

open Json (Value)

theorem jsonTree_accepts_iff {text : String} {v : Value} (hd : Json.read text = .ok v) :
    ((∃ t, jsonTree.parse text = .ok t) ↔ v.IsNode) ∧
      ∀ e, jsonTree.parse text = .error e ↔ ∃ path flaw, v.FirstFlaw path flaw ∧
        e = .misshapen ⟨path, flaw⟩ ∧ e.message = "invalid tree: " ++
          ("$" ++ String.join (path.map DocumentStep.text) ++ ": " ++ flaw.text) := by
  rw [parse_of_read hd]
  constructor
  · rw [← Json.exists_toTree_iff]
    cases v.toTree <;> simp [Except.mapError]
  · intro e
    constructor
    · intro h
      cases ht : v.toTree with
      | ok t =>
        rw [ht] at h
        cases h
      | error flawed =>
        rw [ht] at h
        cases h
        exact ⟨flawed.path, flawed.flaw, Json.toTree_eq_error_iff.mp ht, rfl, rfl⟩
    · rintro ⟨path, flaw, hfirst, rfl, _⟩
      have hflawed : v.toTree = .error ⟨path, flaw⟩ := Json.toTree_eq_error_iff.mpr hfirst
      rw [hflawed]
      rfl

def listedDocument : String :=
  "\x7b\"kind\": \"Module\", \"fields\": \x7b\"docs\": \x7b\"kind\": \"Expr\"\x7d, \"body\": "
    ++ "[3, [\x7b\x7d], \x7b\"kind\": \"If\", \"fields\": \x7b\"test\": \x7b\"kind\": 1\x7d\x7d\x7d, \x7b\x7d]\x7d\x7d"

def listedValue : Value :=
  .object [("kind", .string "Module"), ("fields", .object [
    ("docs", .object [("kind", .string "Expr")]),
    ("body", .array [.number (.natural 3), .array [.object []],
      .object [("kind", .string "If"), ("fields", .object [("test", .object [("kind", .number (.natural 1))])])],
      .object []])])]

def listedError : MisshapenTree where
  path := [.field "body", .item 2, .field "test"]
  flaw := .noKind

theorem jsonTree_accepts_iff_listedDocument :
    Json.read listedDocument = .ok listedValue ∧
      jsonTree.parse listedDocument = .error (.misshapen listedError) ∧
      (ParseError.misshapen listedError).message =
        "invalid tree: $.body[2].test: missing string `kind`" ∧
      ¬ listedValue.IsNode ∧ listedValue.FirstFlaw listedError.path listedError.flaw := by
  have hd : Json.read listedDocument = .ok listedValue := by decide +kernel
  have hrefused : jsonTree.parse listedDocument = .error (.misshapen listedError) := by decide +kernel
  obtain ⟨haccepts, herror⟩ := jsonTree_accepts_iff hd
  refine ⟨hd, hrefused, by decide +kernel, fun hnode => ?_, ?_⟩
  · obtain ⟨t, ht⟩ := haccepts.mpr hnode
    cases hrefused.symm.trans ht
  · obtain ⟨path, flaw, hfirst, he, _⟩ := (herror _).mp hrefused
    rw [ParseError.misshapen.inj he]
    exact hfirst

end SyntaxGraph.Frontend
