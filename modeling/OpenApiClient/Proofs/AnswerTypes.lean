import OpenApiClient.Proofs.OperationWalk
import OpenApiClient.Proofs.OutputModes
import Mathlib.Logic.Relation

/-! Which response the method of an operation depends on.
The first response that stands for success decides what a call returns, through the schema of its
body. Whatever is done to the other responses cannot be seen in the method, nor in what is told about
it. -/
namespace OpenApiClient

abbrev ResponseEntry := String × ResponseNode

def Succeeds (entry : ResponseEntry) : Prop := ['2'] <+: entry.1.toList

instance (entry : ResponseEntry) : Decidable (Succeeds entry) :=
  inferInstanceAs (Decidable (_ <+: _))

def FirstSuccess (entries : List ResponseEntry) (node : ResponseNode) : Prop :=
  ∃ before key after, entries = before ++ (key, node) :: after ∧ Succeeds (key, node) ∧
    ∀ entry ∈ before, ¬ Succeeds entry

/-- A response that decides nothing behind these: it is no success, or not the first one. -/
def Idle (before : List ResponseEntry) (entry : ResponseEntry) : Prop :=
  ¬ Succeeds entry ∨ ∃ earlier ∈ before, Succeeds earlier

/-- A change to the responses in one place that leaves the first success where it stands among the
successes. Two neighbours change places where one of them decides nothing. -/
inductive Edit : List ResponseEntry → List ResponseEntry → Prop where
  | add {before entry after} : Idle before entry → Edit (before ++ after) (before ++ entry :: after)
  | remove {before entry after} : Idle before entry →
      Edit (before ++ entry :: after) (before ++ after)
  | change {before entry other after} : Idle before entry → Idle before other →
      Edit (before ++ entry :: after) (before ++ other :: after)
  | swap {before first second after} : Idle before first ∨ Idle before second →
      Edit (before ++ first :: second :: after) (before ++ second :: first :: after)

theorem isSuccessCode_iff {entry : ResponseEntry} :
    isSuccessCode entry.1 = true ↔ Succeeds entry := by
  rw [isSuccessCode, decide_eq_true_iff, Succeeds]
  cases entry.1.toList with
  | nil => simp
  | cons c rest => simp [eq_comm]

theorem firstSuccess_iff {entries : List ResponseEntry} {node : ResponseNode} :
    FirstSuccess entries node ↔
      (entries.find? fun entry => isSuccessCode entry.1).map Prod.snd = some node := by
  simp only [Option.map_eq_some_iff, List.find?_eq_some_iff_append, Bool.not_eq_true',
    ← Bool.not_eq_true, isSuccessCode_iff]
  constructor
  · rintro ⟨before, key, after, entries, succeeds, none⟩
    exact ⟨(key, node), ⟨succeeds, before, after, entries, none⟩, rfl⟩
  · rintro ⟨⟨key, other⟩, ⟨succeeds, before, after, entries, none⟩, rfl⟩
    exact ⟨before, key, after, entries, succeeds, none⟩

theorem exists_firstSuccess {entries : List ResponseEntry} (h : ∃ entry ∈ entries, Succeeds entry) :
    ∃ node, FirstSuccess entries node := by
  obtain ⟨entry, mem, succeeds⟩ := h
  have found : (entries.find? fun entry => isSuccessCode entry.1).isSome = true := by
    rw [List.find?_isSome]
    exact ⟨entry, mem, isSuccessCode_iff.mpr succeeds⟩
  obtain ⟨chosen, found⟩ := Option.isSome_iff_exists.mp found
  exact ⟨chosen.2, firstSuccess_iff.mpr (by rw [found, Option.map_some])⟩

theorem firstSuccess_append (before after : List ResponseEntry) (node : ResponseNode) :
    FirstSuccess (before ++ after) node ↔
      FirstSuccess before node ∨ (∀ entry ∈ before, ¬ Succeeds entry) ∧ FirstSuccess after node := by
  have none : (∀ entry ∈ before, ¬ Succeeds entry) ↔
      before.find? (fun entry => isSuccessCode entry.1) = Option.none := by
    rw [List.find?_eq_none]
    apply forall₂_congr
    intro entry _
    rw [isSuccessCode_iff]
  rw [firstSuccess_iff, firstSuccess_iff, firstSuccess_iff, none, List.find?_append]
  cases before.find? fun entry => isSuccessCode entry.1 with
  | none => simp
  | some entry => simp

theorem firstSuccess_idle {before after : List ResponseEntry} {entry : ResponseEntry}
    (idle : Idle before entry) (node : ResponseNode) :
    FirstSuccess (before ++ entry :: after) node ↔ FirstSuccess (before ++ after) node := by
  rw [firstSuccess_append, firstSuccess_append]
  apply or_congr_right
  apply and_congr_right
  intro none
  rcases idle with fails | ⟨earlier, mem, succeeds⟩
  · have alone : ¬ FirstSuccess [entry] node := by
      rintro ⟨front, key, back, same, succeeds, _⟩
      have held : (key, node) ∈ [entry] := by simp [same]
      rw [List.mem_singleton] at held
      exact fails (held ▸ succeeds)
    have whole := firstSuccess_append [entry] after node
    rw [List.singleton_append, or_iff_right alone] at whole
    rw [whole]
    simp [fails]
  · exact absurd succeeds (none earlier mem)

theorem Idle.behind {before : List ResponseEntry} {entry : ResponseEntry} (h : Idle before entry)
    (more : List ResponseEntry) : Idle (before ++ more) entry := by
  rcases h with fails | ⟨earlier, mem, succeeds⟩
  · exact .inl fails
  · exact .inr ⟨earlier, List.mem_append_left _ mem, succeeds⟩

theorem firstSuccess_pass {before after : List ResponseEntry} {entry : ResponseEntry}
    (idle : Idle before entry) (other : ResponseEntry) (node : ResponseNode) :
    FirstSuccess (before ++ entry :: other :: after) node ↔
      FirstSuccess (before ++ other :: entry :: after) node := by
  have behind : FirstSuccess (before ++ [other] ++ entry :: after) node ↔
      FirstSuccess (before ++ [other] ++ after) node := firstSuccess_idle (idle.behind [other]) node
  rw [List.append_assoc, List.append_assoc, List.singleton_append, List.singleton_append] at behind
  rw [firstSuccess_idle idle, behind]

theorem Edit.first {entries edited : List ResponseEntry} (h : Edit entries edited)
    (node : ResponseNode) : FirstSuccess entries node ↔ FirstSuccess edited node := by
  cases h with
  | add idle => exact (firstSuccess_idle idle node).symm
  | remove idle => exact firstSuccess_idle idle node
  | change idle other => rw [firstSuccess_idle idle, firstSuccess_idle other]
  | @swap before first second after idle =>
    rcases idle with first_idle | second_idle
    · exact firstSuccess_pass first_idle second node
    · exact (firstSuccess_pass second_idle first node).symm

theorem edits_first {entries edited : List ResponseEntry} (h : Relation.ReflTransGen Edit entries edited)
    (node : ResponseNode) : FirstSuccess entries node ↔ FirstSuccess edited node := by
  induction h with
  | refl => rfl
  | tail _ edit ih => rw [ih, edit.first node]

/-- The response that an entry gives, itself or as a reference to one that is given. -/
inductive Components.Gives (components : Components) : ResponseNode → Response → Prop where
  | inline (response) : Gives components (.inline response) response
  | reference {path response} :
      components.responses.lookup (referenceName path) = some (.inline response) →
      Gives components (.reference path) response

/-- The schema of a body: that of its JSON if there is one, and otherwise the first one declared. -/
inductive Response.Declares (response : Response) : SchemaNode → Prop where
  | json {schema} : response.content.lookup "application/json" = some ⟨some schema⟩ →
      Declares response schema
  | first {before type schema after} :
      (∀ other, response.content.lookup "application/json" ≠ some ⟨some other⟩) →
      response.content = before ++ (type, ⟨some schema⟩) :: after →
      (∀ entry ∈ before, entry.2.schema = none) → Declares response schema

def Components.Returns (components : Components) (node : ResponseNode) (schema : SchemaNode) : Prop :=
  ∃ response, components.Gives node response ∧ response.Declares schema

inductive Components.Answers (components : Components) (node : ResponseNode) : TypeExpr → Prop where
  | mapped {schema} : components.Returns node schema → Answers components node schema.typeExpr
  | unresolved : (∀ schema, ¬ components.Returns node schema) → Answers components node .any

theorem bodySchema_eq_some {response : Response} {schema : SchemaNode} :
    response.bodySchema = some schema ↔ response.Declares schema := by
  have json : ∀ other, (response.content.lookup "application/json").bind MediaType.schema =
      some other ↔ response.content.lookup "application/json" = some ⟨some other⟩ := by
    intro other
    rw [Option.bind_eq_some_iff]
    constructor
    · rintro ⟨⟨held⟩, found, same⟩
      rw [found, ← same]
    · intro found
      exact ⟨_, found, rfl⟩
  rw [Response.bodySchema, Option.or_eq_some_iff, json]
  constructor
  · rintro (found | ⟨none, found⟩)
    · exact .json found
    · obtain ⟨before, ⟨type, media⟩, after, content, held, others⟩ :=
        List.findSome?_eq_some_iff.mp found
      obtain ⟨declared⟩ := media
      cases held
      refine .first ?_ content others
      intro other there
      rw [(json other).mpr there] at none
      cases none
  · rintro (found | ⟨none, content, others⟩)
    · exact .inl found
    · refine .inr ⟨?_, List.findSome?_eq_some_iff.mpr ⟨_, _, _, content, rfl, others⟩⟩
      rw [Option.eq_none_iff_forall_ne_some]
      intro other there
      exact none other ((json other).mp there)

theorem bodySchema?_eq_some {components : Components} {node : ResponseNode} {schema : SchemaNode} :
    components.bodySchema? node = some schema ↔ components.Returns node schema := by
  cases node with
  | inline response =>
    rw [Components.bodySchema?, bodySchema_eq_some]
    constructor
    · intro declares
      exact ⟨response, .inline response, declares⟩
    · rintro ⟨_, ⟨⟩, declares⟩
      exact declares
  | reference path =>
    have given : ∀ response, components.response? path = some response ↔
        components.responses.lookup (referenceName path) = some (.inline response) := by
      intro response
      rw [Components.response?]
      split <;> simp_all
    rw [Components.bodySchema?, Option.bind_eq_some_iff]
    constructor
    · rintro ⟨response, found, declared⟩
      exact ⟨response, .reference ((given response).mp found), bodySchema_eq_some.mp declared⟩
    · rintro ⟨response, ⟨⟩ | found, declares⟩
      exact ⟨response, (given response).mpr found, bodySchema_eq_some.mpr declares⟩

theorem answers_type (components : Components) (node : ResponseNode) :
    components.Answers node (typeOfSchema (components.bodySchema? node)) := by
  cases found : components.bodySchema? node with
  | none =>
    apply Components.Answers.unresolved
    intro schema returns
    rw [bodySchema?_eq_some.mpr returns] at found
    cases found
  | some schema => exact .mapped (bodySchema?_eq_some.mp found)

section Methods

variable {operation : Operation} {components : Components} {node : ResponseNode}

theorem resultSchema_first (h : FirstSuccess operation.responses node) :
    operation.resultSchema? components = components.bodySchema? node := by
  rw [Operation.resultSchema?, Operation.successResponse?, firstSuccess_iff.mp h, Option.bind_some]

theorem resolve_parameters {others : Components} (same : others.parameters = components.parameters)
    (entry : ParameterNode) : others.resolve entry = components.resolve entry := by
  cases entry with
  | inline parameter => rfl
  | reference path => rw [Components.resolve, Components.resolve, Components.parameter?,
      Components.parameter?, same]

/-- Two operations that differ in their responses only have one emission, if one schema is returned by
the first success of either. -/
theorem emit_returns {responses : List ResponseEntry} {others : Components} {other : ResponseNode}
    (first : FirstSuccess operation.responses node) (first' : FirstSuccess responses other)
    (parameters : others.parameters = components.parameters)
    (returned : ∀ schema, others.Returns other schema ↔ components.Returns node schema)
    (verb : HttpMethod) (path : String) :
    { operation with responses }.emit? others verb path = operation.emit? components verb path := by
  have schema : others.bodySchema? other = components.bodySchema? node := by
    apply Option.ext
    intro schema
    rw [bodySchema?_eq_some, bodySchema?_eq_some, returned]
  have result : { operation with responses }.resultSchema? others =
      operation.resultSchema? components := by
    rw [resultSchema_first first, resultSchema_first first', schema]
  have resolved : others.resolve = components.resolve := funext (resolve_parameters parameters)
  have located : ∀ location, { operation with responses }.parametersIn others location =
      operation.parametersIn components location := by
    intro location
    simp only [Operation.parametersIn, Operation.resolvedParameters, resolved]
  have lost : { operation with responses }.unresolvedReferences others =
      operation.unresolvedReferences components := by
    simp only [Operation.unresolvedReferences, resolved]
  have found : operation.successResponse? = some node := firstSuccess_iff.mp first
  have found' : { operation with responses }.successResponse? = some other :=
    firstSuccess_iff.mp first'
  simp only [Operation.emit?, Operation.identifier?, Operation.method, Operation.shownSchemas,
    Operation.warnings, result, located, lost, found, found', Option.isSome_some]

theorem source_returns (method : Method) {options : ClientOptions} (typed : options.typed = true) :
    ∃ front back, method.source options =
      front ++ "): Promise<" ++ (if options.unwrapResponseData then method.result.text
        else "AxiosResponse<" ++ method.result.text ++ ">") ++ "> \x7b\n" ++ back := by
  refine ⟨joinLines (["  /**"] ++ method.commentLines options.typed ++ ["   */"]) ++ "  async "
      ++ method.name ++ "(" ++ signatureText options.typed method.formals,
    joinLines method.queryLines ++ joinLines (method.returnLines options.unwrapResponseData)
      ++ "  \x7d", ?_⟩
  rw [Method.source_eq_fill, fill_append, Method.fill_heading, Method.fill_body, if_pos typed,
    Method.returnType]
  apply String.toList_injective
  split <;> simp

end Methods

structure AnswerDecides (operation : Operation) (components : Components) (verb : HttpMethod)
    (path : String) (node : ResponseNode) : Prop where
  /-- Adding, removing, changing and moving responses that decide nothing changes nothing. -/
  edited : ∀ responses, Relation.ReflTransGen Edit operation.responses responses →
    { operation with responses }.emit? components verb path = operation.emit? components verb path
  schema : ∀ responses (others : Components) other, FirstSuccess responses other →
    others.parameters = components.parameters →
    (∀ schema, others.Returns other schema ↔ components.Returns node schema) →
    { operation with responses }.emit? others verb path = operation.emit? components verb path
  returns : ∀ name, operation.operationId = some name → name ≠ "" → ∃ emitted type,
    operation.emit? components verb path = some emitted ∧ components.Answers node type ∧
    emitted.method.result = type ∧
    ∀ options : ClientOptions, options.typed = true → ∃ front back,
      emitted.method.source options =
        front ++ "): Promise<" ++ (if options.unwrapResponseData then type.text
          else "AxiosResponse<" ++ type.text ++ ">") ++ "> \x7b\n" ++ back

/-- The method of an operation depends on one response schema only. -/
theorem first_success_decides {operation : Operation}
    (h : ∃ entry ∈ operation.responses, Succeeds entry) (components : Components) (verb : HttpMethod)
    (path : String) : ∃ node, FirstSuccess operation.responses node ∧
      AnswerDecides operation components verb path node := by
  obtain ⟨node, first⟩ := exists_firstSuccess h
  refine ⟨node, first, ?_, ?_, ?_⟩
  · intro responses edits
    have first' := (edits_first edits node).mp first
    exact emit_returns first first' rfl (fun _ => Iff.rfl) verb path
  · intro responses others other first' parameters returned
    exact emit_returns first first' parameters returned verb path
  · intro name called nonempty
    obtain ⟨emitted, made, _⟩ :=
      emit_of_identifier components verb path (identifier_eq_some.mpr ⟨called, nonempty⟩)
    refine ⟨emitted, emitted.method.result, made, ?_, rfl, ?_⟩
    · obtain ⟨id, _, rfl⟩ := Option.map_eq_some_iff.mp made
      have answers := answers_type components node
      rwa [← resultSchema_first first] at answers
    · intro options typed
      exact source_returns emitted.method typed

def sharedResponses : Components where
  responses := [("Created", .inline { content := [("text/csv", {}), ("application/json", {}),
    ("application/xml", ⟨some (.reference "#/components/schemas/User" none)⟩)] })]

def severalAnswers : Operation where
  operationId := some "createUser"
  responses := [("404", .reference "#/components/responses/Missing"),
    ("201", .reference "#/components/responses/Created"),
    ("200", .inline { content := [("application/json",
      ⟨some (.inline { type := some (.single .string) })⟩)] })]

theorem several_answers_decided : (∃ entry ∈ severalAnswers.responses, Succeeds entry) ∧
    (∃ node, FirstSuccess severalAnswers.responses node ∧
      AnswerDecides severalAnswers sharedResponses .post "/users" node) ∧
    (severalAnswers.emit? sharedResponses .post "/users").map (·.method.result) =
      some (.named "User") := by
  have succeeds : ∃ entry ∈ severalAnswers.responses, Succeeds entry :=
    ⟨("201", .reference "#/components/responses/Created"), by simp [severalAnswers], by decide⟩
  exact ⟨succeeds, first_success_decides succeeds sharedResponses .post "/users", by decide +kernel⟩

end OpenApiClient
