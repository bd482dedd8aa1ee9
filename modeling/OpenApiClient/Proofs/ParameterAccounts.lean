import OpenApiClient.Client.Method
import Mathlib.Data.List.Forall2

/-! What becomes of the parameters of an operation.
`Meets` tells the fate of one entry from the document alone. The method is made of the fates of all
entries, in their order. -/
namespace OpenApiClient

/-- The parameter that an entry stands for, itself or as a reference to one that is given. -/
inductive Components.Finds (components : Components) : ParameterNode → Parameter → Prop where
  | inline (parameter) : Finds components (.inline parameter) parameter
  | reference {path parameter} :
      components.parameters.lookup (referenceName path) = some (.inline parameter) →
      Finds components (.reference path) parameter

inductive Fate
  | path (parameter : Parameter)
  | query (parameter : Parameter)
  | dropped (parameter : Parameter)
  | unresolved (reference : String)

namespace Fate

def path? : Fate → Option Parameter
  | path parameter => some parameter
  | _ => none

def query? : Fate → Option Parameter
  | query parameter => some parameter
  | _ => none

def unresolved? : Fate → Option String
  | unresolved reference => some reference
  | _ => none

end Fate

inductive Components.Meets (components : Components) : ParameterNode → Fate → Prop where
  | path {node parameter} : components.Finds node parameter → parameter.location = .path →
      Meets components node (.path parameter)
  | query {node parameter} : components.Finds node parameter → parameter.location = .query →
      Meets components node (.query parameter)
  | dropped {node parameter} : components.Finds node parameter → parameter.location ≠ .path →
      parameter.location ≠ .query → Meets components node (.dropped parameter)
  | absent {path} : referenceName path ∉ components.parameters.map Prod.fst →
      Meets components (.reference path) (.unresolved path)
  | indirect {path other} :
      components.parameters.lookup (referenceName path) = some (.reference other) →
      Meets components (.reference path) (.unresolved path)

def Parameter.fate (parameter : Parameter) : Fate :=
  if parameter.location = .path then .path parameter
  else if parameter.location = .query then .query parameter
  else .dropped parameter

def Components.fate (components : Components) (node : ParameterNode) : Fate :=
  match components.resolve node with
  | .ok parameter => parameter.fate
  | .error reference => .unresolved reference

section Fates

variable {components : Components} {node : ParameterNode}

theorem resolve_reference (path : String) : components.resolve (.reference path) =
    match components.parameters.lookup (referenceName path) with
    | some (.inline parameter) => .ok parameter
    | _ => .error path := by
  rw [Components.resolve, Components.parameter?]
  rcases components.parameters.lookup (referenceName path) with _ | other | parameter <;> rfl

theorem lookup_absent (name : String) : components.parameters.lookup name = none ↔
    name ∉ components.parameters.map Prod.fst := by
  rw [List.lookup_eq_none_iff]
  simp only [bne_iff_ne, List.mem_map, not_exists, not_and]
  exact forall₂_congr fun entry _ => ne_comm

theorem resolve_finds {parameter : Parameter} (h : components.Finds node parameter) :
    components.resolve node = .ok parameter := by
  cases h with
  | inline => rfl
  | reference found => rw [resolve_reference, found]

theorem meets_fate {fate : Fate} (h : components.Meets node fate) : components.fate node = fate := by
  cases h with
  | path found located => simp [Components.fate, Parameter.fate, resolve_finds found, located]
  | query found located => simp [Components.fate, Parameter.fate, resolve_finds found, located]
  | dropped found path query => simp [Components.fate, Parameter.fate, resolve_finds found, path, query]
  | absent missing =>
    rw [Components.fate, resolve_reference, (lookup_absent _).mpr missing]
  | indirect found => rw [Components.fate, resolve_reference, found]

theorem fate_meets (components : Components) (node : ParameterNode) :
    components.Meets node (components.fate node) := by
  have located : ∀ {parameter : Parameter}, components.Finds node parameter →
      components.Meets node (components.fate node) := by
    intro parameter found
    have fate : components.fate node = parameter.fate := by
      rw [Components.fate, resolve_finds found]
    rw [fate, Parameter.fate]
    split_ifs with path query
    · exact .path found path
    · exact .query found query
    · exact .dropped found path query
  cases node with
  | inline parameter => exact located (.inline parameter)
  | reference path =>
    cases found : components.parameters.lookup (referenceName path) with
    | none =>
      rw [Components.fate, resolve_reference, found]
      exact .absent ((lookup_absent _).mp found)
    | some entry =>
      cases entry with
      | inline parameter => exact located (.reference found)
      | reference other =>
        rw [Components.fate, resolve_reference, found]
        exact .indirect found

/-- No entry has two fates, and none is left out. -/
theorem exists_unique_fate (components : Components) (node : ParameterNode) :
    ∃! fate, components.Meets node fate :=
  ⟨components.fate node, fate_meets components node, fun _ met => (meets_fate met).symm⟩

end Fates

section Order

variable (operation : Operation) (components : Components)

theorem parametersIn_fates {location : ParameterLocation} {select : Fate → Option Parameter}
    (found : ∀ parameter : Parameter, select parameter.fate =
      if parameter.location = location then some parameter else none)
    (lost : ∀ reference, select (.unresolved reference) = none) :
    operation.parametersIn components location =
      (operation.parameters.map components.fate).filterMap select := by
  rw [Operation.parametersIn, Operation.resolvedParameters, List.filter_filterMap, List.filterMap_map]
  apply List.filterMap_congr
  intro node _
  rw [Function.comp_apply, Components.fate]
  cases components.resolve node with
  | error reference => exact (lost reference).symm
  | ok parameter =>
    rw [found, resolvedParameter?, Option.filter_some]
    simp only [decide_eq_true_eq]

theorem path_fate (parameter : Parameter) : parameter.fate.path? =
    if parameter.location = .path then some parameter else none := by
  unfold Parameter.fate
  split_ifs <;> rfl

theorem query_fate (parameter : Parameter) : parameter.fate.query? =
    if parameter.location = .query then some parameter else none := by
  unfold Parameter.fate
  split_ifs with path query query
  · rw [path] at query
    cases query
  · rfl
  · rfl
  · rfl

theorem unresolvedReferences_fates : operation.unresolvedReferences components =
    (operation.parameters.map components.fate).filterMap Fate.unresolved? := by
  rw [Operation.unresolvedReferences, List.filterMap_map]
  apply List.filterMap_congr
  intro node _
  rw [Function.comp_apply, Components.fate]
  cases components.resolve node with
  | error reference => rfl
  | ok parameter =>
    unfold Parameter.fate
    simp only [unresolvedReference?]
    split_ifs <;> rfl

theorem successResponse_isSome : operation.successResponse?.isSome = true ↔
    ∃ entry ∈ operation.responses, entry.1.toList.head? = some '2' := by
  simp [Operation.successResponse?, isSuccessCode]

end Order

structure Binding.Carries (required : Bool) (parameter : Parameter) (binding : Binding) : Prop where
  name : binding.name = parameter.name
  type : binding.formal.type = parameter.schema.elim .any SchemaNode.typeExpr
  flag : binding.formal.required = required

theorem bindParameters_carry {flag : Parameter → Bool} {parameters : List Parameter}
    (flags : ∀ parameter ∈ parameters, parameter.isRequired = flag parameter) (taken : List String) :
    List.Forall₂ (fun parameter binding => binding.Carries (flag parameter) parameter) parameters
      (bindParameters taken parameters) := by
  induction parameters generalizing taken with
  | nil => exact .nil
  | cons parameter rest ih =>
    obtain ⟨first, others⟩ := List.forall_mem_cons.mp flags
    exact .cons ⟨rfl, rfl, first⟩ (ih others _)

structure Accounts (operation : Operation) (verb : HttpMethod) (path name : String)
    (fates : List Fate) (emitted : EmittedMethod) : Prop where
  formals : emitted.method.formals = emitted.method.pathBindings.map Binding.formal
    ++ emitted.method.queryBindings.map Binding.formal
    ++ if operation.requestBody.isSome then [⟨"data", .any, true⟩] else []
  pathFormals : List.Forall₂ (fun parameter binding => binding.Carries true parameter)
    (fates.filterMap Fate.path?) emitted.method.pathBindings
  queryFormals : List.Forall₂ (fun parameter binding => binding.Carries parameter.required parameter)
    (fates.filterMap Fate.query?) emitted.method.queryBindings
  warnings : emitted.warnings =
    (fates.filterMap Fate.unresolved?).map (.unresolvedParameter name)
      ++ if ∃ entry ∈ operation.responses, entry.1.toList.head? = some '2' then []
        else [.noSuccessResponse name verb path]

/-- Every entry of an operation has one fate, and the method has a formal or a warning for each fate
that asks for one, and nothing else but the body and the lack of a successful response. -/
theorem parameters_accounted {operation : Operation} {name : String}
    (named : operation.identifier? = some name) (components : Components) (verb : HttpMethod)
    (path : String) : ∃ emitted fates,
      operation.emit? components verb path = some emitted ∧
      List.Forall₂ components.Meets operation.parameters fates ∧
      (∀ node, ∃! fate, components.Meets node fate) ∧
      Accounts operation verb path name fates emitted := by
  have located : ∀ location, ∀ parameter ∈ operation.parametersIn components location,
      parameter.location = location := by
    intro location parameter mem
    simpa using (List.mem_filter.mp mem).2
  have pathFlags : ∀ parameter ∈ operation.parametersIn components .path,
      parameter.isRequired = true := by
    intro parameter mem
    simp [Parameter.isRequired, located _ _ mem]
  have queryFlags : ∀ parameter ∈ operation.parametersIn components .query,
      parameter.isRequired = parameter.required := by
    intro parameter mem
    simp [Parameter.isRequired, located _ _ mem]
  have emitted : operation.emit? components verb path = some {
      method := operation.method components verb path name
      typeNames := sortedNames ((operation.shownSchemas components).flatMap SchemaNode.referenceNames)
      warnings := operation.warnings components verb path name } := by
    rw [Operation.emit?, named, Option.map_some]
  refine ⟨_, operation.parameters.map components.fate, emitted, ?_,
    exists_unique_fate components, ?_⟩
  · rw [List.forall₂_map_right_iff, List.forall₂_same]
    exact fun node _ => fate_meets components node
  constructor
  · rfl
  · rw [← parametersIn_fates operation components path_fate fun _ => rfl]
    exact bindParameters_carry pathFlags []
  · rw [← parametersIn_fates operation components query_fate fun _ => rfl]
    exact bindParameters_carry queryFlags _
  · rw [← unresolvedReferences_fates]
    simp only [Operation.warnings, successResponse_isSome]

def sharedParameters : Components where
  parameters := [("Id", .inline { name := "id", location := .path }),
    ("Alias", .reference "#/components/parameters/Id")]

def mixedEntries : Operation where
  operationId := some "listItems"
  parameters := [.inline { name := "page", location := .query },
    .reference "#/components/parameters/Alias",
    .reference "#/components/parameters/Id",
    .inline { name := "X-Trace", location := .header, required := true },
    .reference "#/components/parameters/Missing",
    .inline { name := "sort", location := .query, required := true }]
  requestBody := some .null
  responses := [("404", .inline {})]

theorem mixed_entries_accounted : ∃ emitted fates,
    mixedEntries.emit? sharedParameters .get "/items" = some emitted ∧
    List.Forall₂ sharedParameters.Meets mixedEntries.parameters fates ∧
    Accounts mixedEntries .get "/items" "listItems" fates emitted ∧
    emitted.method.formals = [⟨"id", .any, true⟩, ⟨"page", .any, false⟩, ⟨"sort", .any, true⟩,
      ⟨"data", .any, true⟩] ∧
    emitted.warnings = [.unresolvedParameter "listItems" "#/components/parameters/Alias",
      .unresolvedParameter "listItems" "#/components/parameters/Missing",
      .noSuccessResponse "listItems" .get "/items"] := by
  have named : mixedEntries.identifier? = some "listItems" := by rfl
  obtain ⟨emitted, fates, made, met, _, accounts⟩ :=
    parameters_accounted named sharedParameters .get "/items"
  have formals : (mixedEntries.emit? sharedParameters .get "/items").map (·.method.formals) =
      some [⟨"id", .any, true⟩, ⟨"page", .any, false⟩, ⟨"sort", .any, true⟩,
        ⟨"data", .any, true⟩] := by decide +kernel
  have warnings : (mixedEntries.emit? sharedParameters .get "/items").map EmittedMethod.warnings =
      some [.unresolvedParameter "listItems" "#/components/parameters/Alias",
        .unresolvedParameter "listItems" "#/components/parameters/Missing",
        .noSuccessResponse "listItems" .get "/items"] := by decide +kernel
  rw [made, Option.map_some, Option.some_inj] at formals warnings
  exact ⟨emitted, fates, made, met, accounts, formals, warnings⟩

end OpenApiClient
