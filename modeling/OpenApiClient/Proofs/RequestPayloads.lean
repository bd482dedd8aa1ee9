import OpenApiClient.Proofs.CallExpressions

/-! What a request carries.
The body of a method is evaluated where it stands: a name means what the body has declared, else the
formal of that name, and only then what the language gives it. Between the address and the settings
a call without a body passes `undefined`, which is such a name and may be that of a formal. -/
namespace OpenApiClient

open Script (BodyToken TemplatePart lexemeTokens)

namespace Script

/-- `undefined`, what the caller of a method gives, and what the method makes of it. -/
inductive Value (α : Type)
  | undefined
  | given (value : α)
  | text (letters : String)
  | record (fields : List (String × Value α))

abbrev Scope (α : Type) := String → Option (Value α)

section Evaluation

variable {α : Type}

def Value.field (key : String) : Value α → Value α
  | record fields => (fields.reverse.lookup key).getD .undefined
  | _ => .undefined

/-- What evaluation leaves to its surroundings: the text of a value in a template, and what the
functions of the client send as the body of a request, by their arguments. -/
structure Host (α : Type) where
  asText : Value α → String
  body : String → List (Value α) → Value α

/-- The client takes bodies as it is documented to: some of its functions as the argument behind the
address, others as a field of the settings there, and one for all requests in its only argument. -/
structure Host.TakesBodies (host : Host α) : Prop where
  argument : ∀ function ∈ ["post", "put", "patch"], ∀ values,
    host.body function values = values.getD 1 .undefined
  settings : ∀ function ∈ ["get", "delete", "head", "options"], ∀ values,
    host.body function values = (values.getD 1 .undefined).field "data"
  request : ∀ values, host.body "request" values = (values.getD 0 .undefined).field "data"

variable (host : Host α) (scope : Scope α)

def Operand.value? : Operand → Option (Value α)
  | name ident => scope ident
  | text value => some (.text value)
  | template parts =>
    (parts.mapM (TemplatePart.value? fun source => (scope source).map host.asText)).map fun texts =>
      .text (.ofList texts.flatten)

def Expression.value? : Expression → Option (Value α)
  | operand inner => inner.value? host scope
  | record fields => do
    let values ← fields.mapM fun (key, inner) => (inner.value? host scope).map (key, ·)
    pure (.record values)

def ClientCall.sends? (call : ClientCall) : Option (Value α) :=
  (call.arguments.mapM (Expression.value? host scope)).map (host.body call.function)

def called? : List BodyToken → Option (List BodyToken)
  | .word "return" :: call => some call
  | .word "const" :: .word _ :: .mark '=' :: .word "await" :: call => some call
  | _ => none

def declaredValue? (statement : List BodyToken) : Option (String × Value α) := do
  let (name, value) ← declaration? statement
  let entries ← readRecord value
  let fields ← entries.mapM fun (key, ident) => (scope ident).map (key, ·)
  pure (name, .record fields)

/-- What the first call among statements sends, after the declarations before it. -/
def sent? (host : Host α) (scope : Scope α) : List (List BodyToken) → Option (Value α)
  | [] => none
  | statement :: rest =>
    match called? statement with
    | some call => (clientCall? call).bind (·.sends? host scope)
    | none => (declaredValue? scope statement).bind fun (name, value) =>
      sent? host (Function.update scope name (some value)) rest

/-- The names inside a function: those that its statements declare have no meaning before that, and
hide those of the formals, which hide those of the language. -/
def functionScope (formals : List String) (statements : List (List BodyToken))
    (given : String → α) : Scope α := fun name =>
  if name ∈ statements.flatMap declared then none
  else if name ∈ formals then some (.given (given name))
  else if name = "undefined" then some .undefined
  else none

def bodySends? (formals : List String) (statements : List (List BodyToken)) (given : String → α) :
    Option (Value α) :=
  sent? host (functionScope formals statements given) statements

end Evaluation

end Script

open Script

section Payloads

variable {α : Type} {host : Host α} {scope : Scope α} {parts : List TemplatePart}

theorem template_value (known : ∀ source, .expression source ∈ parts → (scope source).isSome) :
    ∃ url, (Operand.template parts).value? host scope = some (.text url) := by
  have letters : parts.mapM (TemplatePart.value? fun source => (scope source).map host.asText) =
      some (parts.map (TemplatePart.chars fun source => ((scope source).map host.asText).getD "")) := by
    apply mapM_known
    intro part mem
    cases part with
    | char c => rfl
    | expression source =>
      obtain ⟨value, meant⟩ := Option.isSome_iff_exists.mp (known source mem)
      simp [TemplatePart.value?, TemplatePart.chars, meant]
  rw [Operand.value?, letters]
  exact ⟨_, rfl⟩

theorem Call.function_argument {call : Call} (h : call.method.takesBody = true) :
    call.function ∈ ["post", "put", "patch"] := by
  unfold function
  cases verb : call.method <;> simp_all [HttpMethod.takesBody, HttpMethod.name]

theorem Call.function_settings {call : Call} (h : call.method.takesBody = false)
    (other : call.method ≠ .trace) : call.function ∈ ["get", "delete", "head", "options"] := by
  unfold function
  cases verb : call.method <;> simp_all [HttpMethod.takesBody, HttpMethod.name]

/-- A call sends the body if it has one; the placeholder goes out where a verb takes a body, has
none and there is a query behind it. -/
theorem Call.sends {call : Call} {data nothing : Value α} (takes : host.TakesBodies)
    (address : ∀ source, .expression source ∈ parts → (scope source).isSome)
    (query : call.hasQuery = true → (scope "params").isSome)
    (body : call.hasBody = true → scope "data" = some data)
    (placeholder : scope "undefined" = some nothing) :
    ClientCall.sends? host scope ⟨call.function, call.expressions parts⟩ =
      some (if call.hasBody then data
        else if call.method.takesBody && call.hasQuery then nothing else .undefined) := by
  obtain ⟨url, address⟩ : ∃ url, (Operand.template parts).value? host scope = some (.text url) :=
    template_value address
  have params : call.hasQuery = true →
      (Operand.name "params").value? host scope = some ((scope "params").getD .undefined) := by
    intro hasQuery
    obtain ⟨value, meant⟩ := Option.isSome_iff_exists.mp (query hasQuery)
    simp [Operand.value?, meant]
  have data : call.hasBody = true → (Operand.name "data").value? host scope = some data := body
  have nothing : (Operand.name "undefined").value? host scope = some nothing := placeholder
  have method : (Operand.text "trace").value? host scope = some (.text "trace") := rfl
  unfold ClientCall.sends? expressions
  -- A trace passes one record, with the address in it; the other calls pass the address first.
  split
  · rename_i trace
    have named : call.function = "request" := by simp [function, trace]
    have verb : call.method.takesBody = false := by
      rw [trace]
      rfl
    have sent : host.body call.function = fun values => (values.getD 0 .undefined).field "data" := by
      rw [named]
      exact funext takes.request
    cases hasQuery : call.hasQuery <;> cases hasBody : call.hasBody <;>
      simp [Expression.value?, SettingsField.operand, SettingsField.text, settingsFields, Value.field,
        List.lookup_cons, hasQuery, hasBody, verb, sent, address, method, data, params]
  · rename_i other
    cases verb : call.method.takesBody with
    | true =>
      have sent : host.body call.function = fun values => values.getD 1 .undefined :=
        funext (takes.argument _ (function_argument verb))
      cases hasQuery : call.hasQuery <;> cases hasBody : call.hasBody <;>
        simp [Expression.value?, SettingsField.operand, SettingsField.text, settingsFields, hasQuery,
          hasBody, verb, sent, address, data, params, nothing, arguments, Argument.expression]
    | false =>
      have sent : host.body call.function =
          fun values => (values.getD 1 .undefined).field "data" :=
        funext (takes.settings _ (function_settings verb other))
      cases hasQuery : call.hasQuery <;> cases hasBody : call.hasBody <;>
        simp [Expression.value?, SettingsField.operand, SettingsField.text, settingsFields,
          Value.field, List.lookup_cons, hasQuery, hasBody, verb, sent, address, data, params,
          arguments, Argument.expression]

theorem sent_answer (unwrap : Bool) {call : List BodyToken} {read : ClientCall}
    (h : clientCall? call = some read) :
    sent? host scope (answerTokens unwrap call) = read.sends? host scope := by
  have first : sent? host scope (answerTokens unwrap call) =
      (clientCall? call).bind (·.sends? host scope) := by
    cases unwrap with
    | true => rfl
    | false => rfl
  rw [first, h, Option.bind_some]

theorem sent_record {bindings : List Binding} (value : String → Value α)
    (known : ∀ binding ∈ bindings, scope binding.ident = some (value binding.ident))
    (rest : List (List BodyToken)) :
    sent? host scope (lexemeTokens (queryRecord bindings) :: rest) =
      sent? host (Function.update scope "params"
        (some (.record (bindings.map fun binding => (binding.name, value binding.ident))))) rest := by
  have silent : called? (lexemeTokens (queryRecord bindings)) = none := rfl
  have fields : (bindings.map fun binding => (binding.name, binding.ident)).mapM
      (fun (key, ident) => (scope ident).map (key, ·)) =
        some (bindings.map fun binding => (binding.name, value binding.ident)) := by
    rw [List.mapM_map]
    apply mapM_known
    intro binding mem
    simp [known binding mem]
  have declares : declaredValue? scope (lexemeTokens (queryRecord bindings)) =
      some ("params", .record (bindings.map fun binding => (binding.name, value binding.ident))) := by
    rw [declaredValue?, declaration_record]
    simp only [Option.bind_eq_bind, Option.bind_some, readRecord, readEntries_tokens]
    rw [fields]
    rfl
  rw [sent?, silent, declares]
  rfl

theorem declared_locals (method : Method) (unwrap : Bool) (parts : List TemplatePart) :
    ((method.bodyLexemes unwrap parts).map lexemeTokens).flatMap declared ⊆
      ["params", "response"] := by
  have answer : (answerTokens unwrap (lexemeTokens (method.call.lexemes
      (method.address parts)))).flatMap declared ⊆ ["response"] := by
    cases unwrap with
    | true => exact List.Subset.refl _
    | false => exact List.nil_subset _
  rw [bodyLexemes_tokens, List.flatMap_append]
  apply List.append_subset.mpr
  constructor
  · split
    · exact List.nil_subset _
    · exact (by decide : ["params"] ⊆ ["params", "response"])
  · exact List.Subset.trans answer (by decide)

end Payloads

section Methods

variable {α : Type} {host : Host α} {method : Method} {given : String → α} {scope : Scope α}

def Method.nothing (method : Method) (given : String → α) : Value α :=
  if "undefined" ∈ method.formals.map Formal.ident then .given (given "undefined") else .undefined

structure MethodScope (method : Method) (given : String → α) (scope : Scope α) : Prop where
  bound : ∀ binding ∈ method.bindings, scope binding.ident = some (.given (given binding.ident))
  body : method.hasBody = true → scope "data" = some (.given (given "data"))
  placeholder : scope "undefined" = some (method.nothing given)

theorem functionScope_method {statements : List (List BodyToken)}
    (locals : statements.flatMap declared ⊆ ["params", "response"])
    (apart : ∀ binding ∈ method.bindings, binding.ident ∉ Script.bodyLocals) :
    MethodScope method given
      (functionScope (method.formals.map Formal.ident) statements given) := by
  have formal : ∀ name ∈ method.formals.map Formal.ident, name ∉ ["params", "response"] →
      functionScope (method.formals.map Formal.ident) statements given name =
        some (.given (given name)) := by
    intro name mem other
    rw [functionScope, if_neg fun hidden => other (locals hidden), if_pos mem]
  have idents := method.idents_eq
  constructor
  · intro binding mem
    have other := apart binding mem
    simp only [Script.bodyLocals, List.mem_cons, not_or] at other
    apply formal
    · rw [idents]
      exact List.mem_append_left _ (List.mem_map_of_mem mem)
    · simpa using other.2
  · intro hasBody
    apply formal _ _ (by decide)
    simp [idents, hasBody]
  · have other : "undefined" ∉ ["params", "response"] := by decide
    unfold Method.nothing
    split
    · rename_i mem
      exact formal _ mem other
    · rename_i free
      rw [functionScope, if_neg fun hidden => other (locals hidden), if_neg free, if_pos rfl]

theorem MethodScope.declare (h : MethodScope method given scope)
    (apart : ∀ binding ∈ method.bindings, binding.ident ∉ Script.bodyLocals) (value : Value α) :
    MethodScope method given (Function.update scope "params" (some value)) := by
  constructor
  · intro binding mem
    have other : binding.ident ≠ "params" := by
      intro same
      exact apart binding mem (by simp [same, Script.bodyLocals])
    rw [Function.update_of_ne other, h.bound binding mem]
  · intro hasBody
    rw [Function.update_of_ne (by decide), h.body hasBody]
  · rw [Function.update_of_ne (by decide), h.placeholder]

def Method.sends (method : Method) (given : String → α) : Value α :=
  if method.hasBody then .given (given "data")
  else if method.verb.takesBody && !method.queryBindings.isEmpty then method.nothing given
  else .undefined

theorem Method.sends_body (body : method.hasBody = true) :
    method.sends given = .given (given "data") := if_pos body

theorem Method.sends_bodiless (body : method.hasBody = false) : method.sends given =
    if method.verb.takesBody && !method.queryBindings.isEmpty then method.nothing given
    else .undefined := by
  simp [sends, body]

theorem MethodScope.sends (h : MethodScope method given scope) (takes : host.TakesBodies)
    {parts : List TemplatePart} (within : ∀ source, .expression source ∈ parts →
      source ∈ method.pathBindings.map Binding.ident)
    (query : method.call.hasQuery = true → (scope "params").isSome) (unwrap : Bool) :
    sent? host scope (answerTokens unwrap (lexemeTokens (method.call.lexemes
      (method.address parts)))) = some (method.sends given) := by
  have read : clientCall? (lexemeTokens (method.call.lexemes (method.address parts))) =
      some ⟨method.call.function, method.call.expressions parts⟩ :=
    method.call.clientCall_tokens _ parts
  rw [sent_answer unwrap read]
  refine Call.sends takes ?_ query h.body h.placeholder
  intro source mem
  obtain ⟨binding, bound, rfl⟩ := List.mem_map.mp (within source mem)
  rw [h.bound binding (List.mem_append_left _ bound)]
  rfl

theorem Method.bodySends (takes : host.TakesBodies) {parts : List TemplatePart}
    (within : ∀ source, .expression source ∈ parts →
      source ∈ method.pathBindings.map Binding.ident)
    (apart : ∀ binding ∈ method.bindings, binding.ident ∉ Script.bodyLocals) (unwrap : Bool)
    (given : String → α) :
    bodySends? host (method.formals.map Formal.ident)
      ((method.bodyLexemes unwrap parts).map lexemeTokens) given = some (method.sends given) := by
  have entered : MethodScope method given (functionScope (method.formals.map Formal.ident)
      ((method.bodyLexemes unwrap parts).map lexemeTokens) given) :=
    functionScope_method (declared_locals method unwrap parts) apart
  rw [bodySends?]
  generalize functionScope _ _ given = scope at entered ⊢
  rw [bodyLexemes_tokens]
  split
  · rename_i none
    exact entered.sends takes within (by simp [call, none]) unwrap
  · have known : ∀ binding ∈ method.queryBindings,
        scope binding.ident = some (.given (given binding.ident)) := by
      intro binding mem
      exact entered.bound binding (List.mem_append_right _ mem)
    rw [List.singleton_append, sent_record (fun ident => .given (given ident)) known]
    exact (entered.declare apart _).sends takes within (by simp) unwrap

end Methods

theorem freshName_base {taken : List String} {base : String}
    (free : base ∉ Script.bodyLocals ++ taken) : Script.freshName taken base = base := by
  unfold Script.freshName
  simp only
  rw [List.range_succ_eq_map, List.map_cons, List.find?_cons_of_pos]
  · rfl
  · simpa [Script.candidate] using free

theorem bindParameters_asked {taken : List String} {parameters : List Parameter} {name : String}
    (free : name ∉ Script.bodyLocals ++ taken) (plain : '_' ∉ name.toList) :
    name ∈ (bindParameters taken parameters).map Binding.ident ↔
      ∃ parameter ∈ parameters, Script.parameterName parameter.name = name := by
  induction parameters generalizing taken with
  | nil => simp [bindParameters]
  | cons parameter rest ih =>
    have first : name = Script.freshName taken (Script.parameterName parameter.name) ↔
        Script.parameterName parameter.name = name := by
      constructor
      · intro given
        obtain ⟨n, called⟩ := freshName_candidate taken (Script.parameterName parameter.name)
        rw [called] at given
        cases n with
        | zero => exact given.symm
        | succ n =>
          rw [given] at plain
          simp [Script.candidate] at plain
      · rintro rfl
        exact (freshName_base free).symm
    rw [bindParameters, List.map_cons, List.mem_cons, List.exists_mem_cons_iff, Binding.ident]
    by_cases same : name = Script.freshName taken (Script.parameterName parameter.name)
    · exact iff_of_true (.inl same) (.inl (first.mp same))
    · rw [or_iff_right same, or_iff_right fun asked => same (first.mpr asked)]
      apply ih
      simp only [List.mem_append, List.mem_cons, not_or] at free ⊢
      exact ⟨free.1, same, free.2⟩

/-- An operation without a body whose verb takes one, with a query, and with a parameter that asks
for the word for no payload. -/
def Operation.TakesPlaceholder (operation : Operation) (components : Components)
    (verb : HttpMethod) : Prop :=
  verb.takesBody = true ∧ operation.requestBody = none ∧
    operation.parametersIn components .query ≠ [] ∧
    ∃ parameter ∈ operation.parametersIn components .path
      ++ operation.parametersIn components .query, Script.parameterName parameter.name = "undefined"

instance (operation : Operation) (components : Components) (verb : HttpMethod) :
    Decidable (operation.TakesPlaceholder components verb) :=
  inferInstanceAs (Decidable (_ ∧ _ ∧ _ ∧ _))

theorem undefined_formal (operation : Operation) (components : Components) (verb : HttpMethod)
    (path name : String) :
    "undefined" ∈ (operation.method components verb path name).formals.map Formal.ident ↔
      ∃ parameter ∈ operation.parametersIn components .path
        ++ operation.parametersIn components .query,
        Script.parameterName parameter.name = "undefined" := by
  have plain : '_' ∉ "undefined".toList := by decide
  have unblocked : "undefined" ∉ Script.bodyLocals := by decide
  have body : "undefined" ∉ if (operation.method components verb path name).hasBody then ["data"]
      else [] := by
    split <;> decide
  have onPath : "undefined" ∈ (operation.method components verb path name).pathBindings.map
      Binding.ident ↔ ∃ parameter ∈ operation.parametersIn components .path,
        Script.parameterName parameter.name = "undefined" :=
    bindParameters_asked (by simpa using unblocked) plain
  rw [Method.idents_eq, List.mem_append, or_iff_left body, Method.bindings, List.map_append,
    List.mem_append]
  simp only [List.mem_append, or_and_right, exists_or]
  by_cases claimed : "undefined" ∈ (operation.method components verb path name).pathBindings.map
      Binding.ident
  · exact iff_of_true (.inl claimed) (.inl (onPath.mp claimed))
  · rw [or_iff_right claimed, or_iff_right fun asked => claimed (onPath.mpr asked)]
    apply bindParameters_asked _ plain
    simp only [List.mem_append, List.mem_reverse, not_or]
    exact ⟨unblocked, claimed⟩

theorem takesPlaceholder_iff (operation : Operation) (components : Components) (verb : HttpMethod)
    (path name : String) : operation.TakesPlaceholder components verb ↔
      (operation.method components verb path name).hasBody = false ∧
      (verb.takesBody && !(operation.method components verb path name).queryBindings.isEmpty) = true ∧
      "undefined" ∈ (operation.method components verb path name).formals.map Formal.ident := by
  have query : (!(operation.method components verb path name).queryBindings.isEmpty) = true ↔
      operation.parametersIn components .query ≠ [] := by
    have names := congrArg List.isEmpty (queryBindings_names operation components verb path name)
    simp only [List.isEmpty_map] at names
    simp [names]
  have body : (operation.method components verb path name).hasBody = false ↔
      operation.requestBody = none := Option.isSome_eq_false_iff.trans Option.isNone_iff_eq_none
  rw [undefined_formal, Bool.and_eq_true, query, body, Operation.TakesPlaceholder]
  tauto

structure PayloadSent (operation : Operation) (components : Components) (verb : HttpMethod)
    (formals : List String) (statements : List (List BodyToken)) : Prop where
  body : operation.requestBody.isSome = true →
    ∀ {α : Type} {host : Host α}, host.TakesBodies → ∀ given : String → α,
      bodySends? host formals statements given = some (.given (given "data"))
  none : operation.requestBody = none → ¬ operation.TakesPlaceholder components verb →
    ∀ {α : Type} {host : Host α}, host.TakesBodies → ∀ given : String → α,
      bodySends? host formals statements given = some .undefined
  taken : operation.TakesPlaceholder components verb →
    ∀ {α : Type} {host : Host α}, host.TakesBodies → ∀ given : String → α,
      bodySends? host formals statements given = some (.given (given "undefined"))

theorem method_payload {operation : Operation} {components : Components} {verb : HttpMethod}
    {path name : String} {parts : List TemplatePart}
    (within : ∀ source, .expression source ∈ parts →
      source ∈ (operation.method components verb path name).pathBindings.map Binding.ident)
    (unwrap : Bool) : PayloadSent operation components verb
      ((operation.method components verb path name).formals.map Formal.ident)
      (((operation.method components verb path name).bodyLexemes unwrap parts).map lexemeTokens) := by
  have placeholder := takesPlaceholder_iff operation components verb path name
  have apart := bindings_apart operation components verb path name
  constructor
  · intro body α host takes given
    rw [Method.bodySends takes within apart, Method.sends_body body]
  · intro none free α host takes given
    have bodiless : (operation.method components verb path name).hasBody = false :=
      Option.isSome_eq_false_iff.mpr (Option.isNone_iff_eq_none.mpr none)
    rw [Method.bodySends takes within apart, Method.sends_bodiless bodiless]
    unfold Method.nothing
    split_ifs with held claimed
    · exact absurd (placeholder.mpr ⟨bodiless, held, claimed⟩) free
    · rfl
    · rfl
  · intro placed α host takes given
    obtain ⟨bodiless, held, claimed⟩ := placeholder.mp placed
    rw [Method.bodySends takes within apart, Method.sends_bodiless bodiless, Method.nothing,
      if_pos claimed]
    exact congrArg some (if_pos held)

/-- With a client that takes bodies as documented, a method sends the body if the operation has one,
and otherwise nothing, unless a parameter goes by the word that stands for nothing. -/
theorem payload_sent {operation : Operation} {components : Components} {verb : HttpMethod}
    {path : String} {emitted : EmittedMethod}
    (h : operation.emit? components verb path = some emitted) (options : ClientOptions) :
    ∃ statements pathNames queryNames,
      emitted.method.BodyReads Script.readLoose options statements ∧
      operation.Signature components emitted.method pathNames queryNames ∧
      PayloadSent operation components verb (emitted.method.formals.map Formal.ident) statements := by
  obtain ⟨name, _, rfl⟩ := Option.map_eq_some_iff.mp h
  obtain ⟨parts, address, within⟩ :=
    method_address operation components verb path name Script.readLoose
  have names : ∀ parameter ∈ operation.parametersIn components .query,
      Script.readLoose.Reads parameter.name := by
    intro parameter _
    exact Script.readLoose_reads parameter.name
  exact ⟨_, _, _, body_reads (Script.readLoose_reads "trace") names address options,
    method_signature operation components verb path name,
    method_payload within options.unwrapResponseData⟩

def libraryHost : Host String where
  asText
    | .undefined => "undefined"
    | .given value => value
    | .text letters => letters
    | .record _ => "[object Object]"
  body function values :=
    if function ∈ ["post", "put", "patch"] then values.getD 1 .undefined
    else if function = "request" then (values.getD 0 .undefined).field "data"
    else (values.getD 1 .undefined).field "data"

theorem libraryHost_takesBodies : libraryHost.TakesBodies := by
  constructor
  · intro function mem values
    exact if_pos mem
  · intro function mem values
    have other : function ∉ ["post", "put", "patch"] ∧ function ≠ "request" := by
      simp only [List.mem_cons, List.not_mem_nil, or_false] at mem
      rcases mem with rfl | rfl | rfl | rfl <;> decide
    exact (if_neg other.1).trans (if_neg other.2)
  · intro values
    rfl

def localNames : Operation where
  operationId := some "search"
  parameters := ["data", "params", "response", "undefined-id"].map fun name =>
    .inline { name, location := .query }

theorem local_names_unsent : ∃ emitted, localNames.emit? {} .post "/users" = some emitted ∧
    ¬ localNames.TakesPlaceholder {} .post ∧ libraryHost.TakesBodies ∧
    emitted.method.returnLines true = ["    const response = await " ++
      "this.client.post(`/users`, undefined, \x7b params \x7d);", "    return response.data;"] ∧
    ∃ statements pathNames queryNames,
      emitted.method.BodyReads Script.readLoose { unwrapResponseData := true } statements ∧
      localNames.Signature {} emitted.method pathNames queryNames ∧
      PayloadSent localNames {} .post (emitted.method.formals.map Formal.ident) statements ∧
      ∀ given, bodySends? libraryHost (emitted.method.formals.map Formal.ident) statements given =
        some .undefined := by
  have emitted : localNames.emit? {} .post "/users" =
      some ⟨localNames.method {} .post "/users" "search", [],
        [.noSuccessResponse "search" .post "/users"]⟩ := by rfl
  have free : ¬ localNames.TakesPlaceholder {} .post := by decide +kernel
  obtain ⟨statements, pathNames, queryNames, reads, signature, sent⟩ :=
    payload_sent emitted { unwrapResponseData := true }
  exact ⟨_, emitted, free, libraryHost_takesBodies, by decide +kernel, statements, pathNames,
    queryNames, reads, signature, sent, sent.none rfl free libraryHost_takesBodies⟩

def undefinedName : Operation where
  operationId := some "search"
  parameters := [.inline { name := "undefined", location := .query }]

theorem undefined_name_sent : ∃ emitted, undefinedName.emit? {} .post "/users" = some emitted ∧
    undefinedName.requestBody = none ∧
    emitted.method.formals.map Formal.ident = ["undefined"] ∧
    emitted.method.returnLines false =
      ["    return this.client.post(`/users`, undefined, \x7b params \x7d);"] ∧
    ∃ statements, emitted.method.BodyReads Script.readLoose {} statements ∧
      ∀ given, bodySends? libraryHost ["undefined"] statements given =
        some (.given (given "undefined")) := by
  have emitted : undefinedName.emit? {} .post "/users" =
      some ⟨undefinedName.method {} .post "/users" "search", [],
        [.noSuccessResponse "search" .post "/users"]⟩ := by rfl
  obtain ⟨parts, address, within⟩ :=
    method_address undefinedName {} .post "/users" "search" Script.readLoose
  have sent := method_payload within false
  have formals : (undefinedName.method {} .post "/users" "search").formals.map Formal.ident =
      ["undefined"] := by decide +kernel
  rw [formals] at sent
  have reads := body_reads (Script.readLoose_reads "trace")
    (fun parameter _ => Script.readLoose_reads parameter.name) address {}
  exact ⟨_, emitted, rfl, formals, by decide +kernel, _, reads,
    sent.taken (by decide +kernel) libraryHost_takesBodies⟩

end OpenApiClient
