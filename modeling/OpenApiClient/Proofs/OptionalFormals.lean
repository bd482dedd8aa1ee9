import OpenApiClient.Proofs.FormalNames
import OpenApiClient.Proofs.OutputModes
import OpenApiClient.Proofs.ParameterAccounts
import Mathlib.Data.List.DropRight

/-! Which formals a typed signature marks as optional.
Formals that are not required and stand last are marked by a question mark. One that is not required
and stands before a required one cannot have that mark, and takes `undefined` into its type. -/
namespace OpenApiClient

inductive Formal.Annotated (formal : Formal) : String → Prop where
  | required : formal.required = true → Annotated formal (": " ++ formal.type.text)
  | orUndefined : formal.required = false →
      Annotated formal (": " ++ formal.type.text ++ " | undefined")
  | optional : formal.required = false → Annotated formal ("?: " ++ formal.type.text)

/-- The formals at the end of a list of which none is required. -/
def optionalRun (formals : List Formal) : List Formal := formals.rtakeWhile (! ·.required)

structure OptionalRule (formals : List Formal) (annotations : List String) : Prop where
  each : List.Forall₂ Formal.Annotated formals annotations
  onward : annotations.Pairwise fun earlier later => Begins "?" earlier → Begins "?" later
  run : ∃ plain marked, annotations = plain ++ marked ∧
    marked.length = (optionalRun formals).length ∧
    (∀ text ∈ plain, ¬ Begins "?" text) ∧ ∀ text ∈ marked, Begins "?" text

theorem annotationOf_marked (entry : Formal × Marker) :
    Begins "?" (annotationOf entry) ↔ entry.2 = .optional := by
  obtain ⟨formal, marker⟩ := entry
  cases marker <;> simp [Begins, annotationOf, String.toList_append]

theorem annotations_each (formals : List Formal) :
    List.Forall₂ Formal.Annotated formals ((markers formals).map annotationOf) := by
  induction formals with
  | nil => exact .nil
  | cons formal later ih =>
    rw [markers, List.map_cons]
    refine .cons ?_ ih
    cases flag : formal.required with
    | true => exact .required flag
    | false =>
      cases later.any (·.required) with
      | true => exact .orUndefined flag
      | false => exact .optional flag

/-- A formal that is required, or stands before a required one, is not marked. -/
theorem markers_front {front : List Formal}
    (ends : ∀ h : front ≠ [], (front.getLast h).required = true) (run : List Formal) :
    ∃ plain, markers (front ++ run) = plain ++ markers run ∧ ∀ entry ∈ plain, entry.2 ≠ .optional := by
  induction front with
  | nil => exact ⟨[], rfl, by simp⟩
  | cons formal front ih =>
    have endsLater : ∀ h : front ≠ [], (front.getLast h).required = true := by
      intro h
      have last := ends (List.cons_ne_nil formal front)
      rwa [List.getLast_cons h] at last
    obtain ⟨plain, split, unmarked⟩ := ih endsLater
    rw [List.cons_append, markers, split]
    refine ⟨_, (List.cons_append ..).symm, List.forall_mem_cons.mpr ⟨?_, unmarked⟩⟩
    cases flag : formal.required with
    | true => simp
    | false =>
      have more : front ≠ [] := by
        rintro rfl
        simp [flag] at ends
      have required : (front ++ run).any (·.required) = true :=
        List.any_eq_true.mpr ⟨_, List.mem_append_left run (List.getLast_mem more), endsLater more⟩
      simp [required]

theorem markers_run {run : List Formal} (h : ∀ formal ∈ run, formal.required = false) :
    ∀ entry ∈ markers run, entry.2 = .optional := by
  induction run with
  | nil => simp [markers]
  | cons formal later ih =>
    obtain ⟨here, others⟩ := List.forall_mem_cons.mp h
    have none : later.any (·.required) = false := by simpa using others
    rw [markers]
    exact List.forall_mem_cons.mpr ⟨by simp [here, none], ih others⟩

theorem annotations_rule (formals : List Formal) :
    OptionalRule formals ((markers formals).map annotationOf) := by
  have ends : ∀ h : formals.rdropWhile (! ·.required) ≠ [],
      ((formals.rdropWhile (! ·.required)).getLast h).required = true := by
    intro h
    simpa using List.rdropWhile_last_not (fun formal : Formal => ! formal.required) formals h
  have inside : ∀ formal ∈ optionalRun formals, formal.required = false := by
    intro formal mem
    simpa using List.mem_rtakeWhile_imp mem
  obtain ⟨plain, split, unmarked⟩ := markers_front ends (optionalRun formals)
  rw [optionalRun, List.rdropWhile_append_rtakeWhile] at split
  have before : ∀ text ∈ plain.map annotationOf, ¬ Begins "?" text := by
    intro text mem
    obtain ⟨entry, entered, rfl⟩ := List.mem_map.mp mem
    rw [annotationOf_marked]
    exact unmarked entry entered
  have behind : ∀ text ∈ (markers (optionalRun formals)).map annotationOf, Begins "?" text := by
    intro text mem
    obtain ⟨entry, entered, rfl⟩ := List.mem_map.mp mem
    rw [annotationOf_marked]
    exact markers_run inside entry entered
  have parts : (markers formals).map annotationOf =
      plain.map annotationOf ++ (markers (optionalRun formals)).map annotationOf := by
    rw [split, List.map_append]
    rfl
  refine ⟨annotations_each formals, ?_, _, _, parts, ?_, before, behind⟩
  · rw [parts, List.pairwise_append]
    refine ⟨List.pairwise_of_forall_mem_list ?_, List.pairwise_of_forall_mem_list ?_, ?_⟩
    · intro earlier mem later _ marked
      exact absurd marked (before earlier mem)
    · intro earlier _ later mem _
      exact behind later mem
    · intro earlier mem later _ marked
      exact absurd marked (before earlier mem)
  · rw [List.length_map, ← List.length_map (f := Prod.fst), markers_fst]

theorem bindParameters_required (taken : List String) (parameters : List Parameter) :
    (bindParameters taken parameters).map (·.formal.required) =
      parameters.map Parameter.isRequired := by
  induction parameters generalizing taken with
  | nil => rfl
  | cons parameter rest ih => rw [bindParameters, List.map_cons, List.map_cons, ih]

theorem formals_required (operation : Operation) (components : Components) (verb : HttpMethod)
    (path name : String) :
    (operation.method components verb path name).formals.map Formal.required =
      (operation.parametersIn components .path).map (fun _ => true)
        ++ (operation.parametersIn components .query).map Parameter.required
        ++ if operation.requestBody.isSome then [true] else [] := by
  have located : ∀ location, ∀ parameter ∈ operation.parametersIn components location,
      parameter.location = location := by
    intro location parameter mem
    simpa using (List.mem_filter.mp mem).2
  have path : (operation.parametersIn components .path).map Parameter.isRequired =
      (operation.parametersIn components .path).map fun _ => true :=
    List.map_congr_left fun parameter mem => by simp [Parameter.isRequired, located _ _ mem]
  have query : (operation.parametersIn components .query).map Parameter.isRequired =
      (operation.parametersIn components .query).map Parameter.required :=
    List.map_congr_left fun parameter mem => by simp [Parameter.isRequired, located _ _ mem]
  have body : (if operation.requestBody.isSome then [Formal.body] else []).map Formal.required =
      if operation.requestBody.isSome then [true] else [] := by
    split <;> rfl
  rw [← path, ← query, ← body, ← bindParameters_required [], ← bindParameters_required]
  simp only [Method.formals, List.map_append, List.map_map]
  rfl

def Method.Shows (method : Method) (options : ClientOptions) (annotations : List String) : Prop :=
  ∃ comment body, method.source options = comment ++ "  async " ++ method.name ++ "("
    ++ ", ".intercalate (List.zipWith (· ++ ·) (method.formals.map Formal.ident) annotations)
    ++ "): " ++ method.returnType options.unwrapResponseData ++ " \x7b" ++ body

theorem Method.shows_annotations (method : Method) {options : ClientOptions}
    (typed : options.typed = true) :
    method.Shows options ((markers method.formals).map annotationOf) := by
  have closing : "): " = ")" ++ ": " := rfl
  have opening : " \x7b" = " " ++ "\x7b" := rfl
  refine ⟨joinLines (["  /**"] ++ method.commentLines true ++ ["   */"]),
    "\n" ++ joinLines method.queryLines ++ joinLines (method.returnLines options.unwrapResponseData)
      ++ "  \x7d", ?_⟩
  rw [source_eq_fill, fill_append, fill_heading, fill_body, signature_zip, typed]
  simp only [if_true, closing, opening, String.append_assoc]

theorem formals_word {operation : Operation} {components : Components} {verb : HttpMethod}
    {path name : String} :
    ∀ formal ∈ (operation.method components verb path name).formals, IsWord formal.ident := by
  intro formal mem
  rcases formals_stand mem with rfl | ⟨_, _, stands⟩
  · exact (by decide : IsWord "data")
  · exact stands.word

structure TypedSignature (operation : Operation) (components : Components) (options : ClientOptions)
    (method : Method) (annotations : List String) : Prop where
  shown : method.Shows options annotations
  flags : method.formals.map Formal.required =
    (operation.parametersIn components .path).map (fun _ => true)
      ++ (operation.parametersIn components .query).map Parameter.required
      ++ if operation.requestBody.isSome then [true] else []
  rule : OptionalRule method.formals annotations
  words : ∀ formal ∈ method.formals, IsWord formal.ident
  /-- The formal of a body is required, and none is optional before it. -/
  body : operation.requestBody.isSome = true → ∀ text ∈ annotations, ¬ Begins "?" text

/-- A typed signature marks the run of formals at its end that are not required, and no other; where
there is a body, it marks none. -/
theorem signature_marks_optional {operation : Operation} {components : Components} {verb : HttpMethod}
    {path : String} {emitted : EmittedMethod}
    (h : operation.emit? components verb path = some emitted) {options : ClientOptions}
    (typed : options.typed = true) :
    ∃ annotations, TypedSignature operation components options emitted.method annotations := by
  obtain ⟨name, _, rfl⟩ := Option.map_eq_some_iff.mp h
  have rule := annotations_rule (operation.method components verb path name).formals
  refine ⟨_, Method.shows_annotations _ typed, formals_required operation components verb path name,
    rule, formals_word, ?_⟩
  intro body
  obtain ⟨plain, marked, split, size, unmarked, _⟩ := rule.run
  have none : optionalRun (operation.method components verb path name).formals = [] := by
    simp only [optionalRun, Method.formals, Operation.method, body, if_true]
    exact List.rtakeWhile_concat_neg _ _ _ (by simp [Formal.body])
  rw [none, List.length_nil, List.length_eq_zero_iff] at size
  rw [split, size, List.append_nil]
  exact unmarked

def pagedOperation : Operation where
  operationId := some "list"
  parameters := [("page", false), ("id", true), ("sort", false), ("limit", false)].map
    fun (name, required) => .inline { name, location := .query, required }

theorem paged_signature_marks : ∃ emitted, pagedOperation.emit? {} .get "/items" = some emitted ∧
    (∃ annotations, TypedSignature pagedOperation {} {} emitted.method annotations) ∧
    signatureText true emitted.method.formals =
      "page: any | undefined, id: any, sort?: any, limit?: any" := by
  have emitted : pagedOperation.emit? {} .get "/items" =
      some ⟨pagedOperation.method {} .get "/items" "list", [],
        [.noSuccessResponse "list" .get "/items"]⟩ := by rfl
  exact ⟨_, emitted, signature_marks_optional emitted rfl, by decide +kernel⟩

end OpenApiClient
