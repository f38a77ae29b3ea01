import Criteria.Proofs.Faults
import Criteria.Proofs.Written

/-!
# Bodies of request parameters

Whatever the pairs of a request are, they spell a body that can be compiled, and all of it comes from
them: no leaf is anything but one of their texts. Main statement: `RequestParams.body_spelt`.
-/

namespace Criteria

theorem RequestParams.fields?_request {params : RequestParams} {fields : List (String × Json)}
    (h : params.toBody = .object fields) : (Body.request params).fields? = some fields := by
  rw [Body.fields?, Body.toJson, h]

/-- The errors that a mapping leads to are about something in it. -/
theorem Compile.Raised.raises {filters : FilterSet}
    (h : Raised filters (.invalidBody .notMapping)) : filters.Raises (.invalidBody .notMapping) := by
  cases h with
  | value h => cases h
  | generator h => exact h

/-- The body of request parameters is a mapping. Its keys are names, each of them once, and what
stands under them is spelt by the texts of the pairs: every leaf is one of these texts, every list
and every mapping has something in it, and no more containers stand inside each other than a path
may be long, the body itself being one of them. So a request can always be compiled, as that mapping
is; only the generator of a custom filter can bring in the error that a body is no mapping. -/
theorem RequestParams.body_spelt (params : RequestParams) :
    ∃ fields, params.toBody = .object fields ∧ (Assoc.keys fields).Nodup ∧
      (∀ field ∈ fields, field.1 ≠ "" ∧
        IsSpelt (params.pairs.map Prod.snd) (maxSegments - 1) field.2) ∧
      (Body.request params).isAcceptable = true ∧
      ∀ (compiler : Compiler) (default : Combinator),
        (compiler.compile (.request params) default).result =
            (compiler.compile (.object fields) default).result ∧
          ((compiler.compile (.request params) default).result =
                .error (.invalidBody .notMapping) ∨
              (compiler.generate (.request params) default).1.result =
                .error (.invalidBody .notMapping) →
            compiler.filters.Raises (.invalidBody .notMapping)) := by
  obtain ⟨fields, hfields, h⟩ := params.toBody_holds
  have hbody := fields?_request hfields
  refine ⟨fields, hfields, h.nodup, ?_, ?_, ?_⟩
  · intro field hfield
    exact ⟨h.keys field hfield, h.fields field hfield⟩
  · rw [Body.isAcceptable, hbody, Option.isSome_some]
  · intro compiler default
    constructor
    · have hobject : (compiler.compile (.object fields) default).result = _ :=
        Compiler.compile_of_outcome (Compile.body_of_fields rfl _ _ _)
      rw [Compiler.compile_of_outcome (Compile.body_of_fields hbody _ _ _), hobject]
    · -- without the generator, only a body that is no mapping raises this error
      intro herror
      exact (Compiler.error_cases hbody herror).raises

/-- Takes its value for a body. -/
def wantsMapping : Generator := fun _ _ _ =>
  .fail (.invalidBody .notMapping)

/-- A custom filter that takes its value for a body. -/
def FilterSet.nested : FilterSet :=
  .ofList [("inner", .custom "posts.body" wantsMapping)]

/-- A request in which texts and mappings get in each other's way. -/
def RequestParams.tangled : RequestParams :=
  ⟨[("inner", "1"), ("inner[][a]", "2"), ("inner[][a]", "3"), ("[a]", "4"), ("inner[][][]", "5")]⟩

theorem RequestParams.body_spelt_tangled :
    (∃ fields, tangled.toBody = .object fields ∧ Assoc.keys fields = ["inner"] ∧
        ∀ field ∈ fields, IsSpelt ["1", "2", "3", "4", "5"] 35 field.2) ∧
      (Body.request tangled).isAcceptable = true ∧
      FilterSet.nested.Raises (.invalidBody .notMapping) := by
  obtain ⟨fields, hfields, -, hspelt, hacceptable, hcompile⟩ := body_spelt tangled
  have htangled : tangled.toBody = .object [("inner", .array [.object [("a", .string "2")],
      .array [.array [.string "5"]]])] := by
    decide +kernel
  rw [htangled] at hfields
  cases hfields
  have herror : ((Compiler.ofFilters .nested).compile (.request tangled) .all).result =
      .error (.invalidBody .notMapping) := by
    rw [(hcompile (.ofFilters .nested) .all).1]
    decide +kernel
  refine ⟨⟨_, htangled, rfl, fun field hfield => (hspelt field hfield).2⟩, hacceptable, ?_⟩
  exact (hcompile (.ofFilters .nested) .all).2 (Or.inl herror)

end Criteria
