import OpenApiClient.Proofs.CallTexts
import OpenApiClient.Proofs.OutputModes
import OpenApiClient.Proofs.UrlHoles
import OpenApiClient.Proofs.UrlValues

/-! The bodies of methods, read as scripts.
A body declares the query record if there is a query, and makes the call. Its names are the formals of
the method and what the body itself declares; strings and templates of the document add none. -/
namespace OpenApiClient

open Script (BodyToken Lexeme Legible StringReader TemplatePart legible_blanks legible_cons
  legible_mark legible_word lexemeText lexemeText_append lexemeTokens templateQuote)

def Binding.entry (binding : Binding) : List Lexeme :=
  .blanks "      " :: (if binding.ident = binding.name then [.word binding.ident]
    else [.literal binding.name, .mark ':', .blanks " ", .word binding.ident])
    ++ [.mark ',', .blanks "\n"]

def recordEntries : List Binding → List Lexeme
  | [] => [.blanks "    ", .mark '\x7d']
  | binding :: rest => binding.entry ++ recordEntries rest

def queryRecord (bindings : List Binding) : List Lexeme :=
  [.word "const", .blanks " ", .word "params", .blanks " ", .mark '=', .blanks " ", .mark '\x7b',
    .blanks "\n"] ++ recordEntries bindings

def answerLexemes (unwrap : Bool) (call : List Lexeme) : List (List Lexeme) :=
  if unwrap then
    [[.word "const", .blanks " ", .word "response", .blanks " ", .mark '=', .blanks " ",
        .word "await", .blanks " "] ++ call,
      [.word "return", .blanks " ", .word "response", .mark '.', .word "data"]]
  else [[.word "return", .blanks " "] ++ call]

/-- The address of a method, with the parts it is read as. -/
def Method.address (method : Method) (parts : List TemplatePart) : Lexeme :=
  .template (urlTemplate method.path method.pathBindings) parts

def Method.bodyLexemes (method : Method) (unwrap : Bool) (parts : List TemplatePart) :
    List (List Lexeme) :=
  (if method.queryBindings.isEmpty then [] else [queryRecord method.queryBindings])
    ++ answerLexemes unwrap (method.call.lexemes (method.address parts))

theorem recordEntries_text (bindings : List Binding) : lexemeText (recordEntries bindings) =
    (joinLines (bindings.map fun binding => "      " ++ Method.queryEntry binding ++ ",")
      ++ "    \x7d").toList := by
  induction bindings with
  | nil => rfl
  | cons binding rest ih =>
    rw [recordEntries, lexemeText_append, ih, List.map_cons, joinLines_cons, Binding.entry,
      Method.queryEntry]
    split
    · simp [Lexeme.text]
    · simp [Lexeme.text]

theorem Method.call_text (method : Method) (parts : List TemplatePart) :
    lexemeText (method.call.lexemes (method.address parts)) = method.call.text.toList :=
  method.call.lexemes_text parts (urlLiteral_letters method.path method.pathBindings)

theorem Method.body_text (method : Method) (unwrap : Bool) (parts : List TemplatePart) :
    Script.bodyText (method.bodyLexemes unwrap parts) = ("\n" ++ joinLines method.queryLines
      ++ joinLines (method.returnLines unwrap) ++ "  \x7d").toList := by
  have query : (if method.queryBindings.isEmpty then [] else
        [queryRecord method.queryBindings]).flatMap
      (fun lexemes => "    ".toList ++ (lexemeText lexemes ++ [';', '\n'])) =
        (joinLines method.queryLines).toList := by
    unfold queryLines
    split
    · rfl
    · simp [queryRecord, recordEntries_text, Lexeme.text]
  have answer : (answerLexemes unwrap (method.call.lexemes (method.address parts))).flatMap
      (fun lexemes => "    ".toList ++ (lexemeText lexemes ++ [';', '\n'])) =
        (joinLines (method.returnLines unwrap)).toList := by
    unfold answerLexemes returnLines
    split
    · simp [method.call_text parts, Lexeme.text]
    · simp [method.call_text parts, Lexeme.text]
  rw [Script.bodyText, bodyLexemes, List.flatMap_append, query, answer]
  simp

section Legibility

variable {quoted : StringReader}

theorem recordEntries_legible {bindings : List Binding}
    (words : ∀ binding ∈ bindings, IsWord binding.ident)
    (names : ∀ binding ∈ bindings, quoted.Reads binding.name) :
    Legible quoted (recordEntries bindings) := by
  induction bindings with
  | nil => exact legible_blanks (legible_mark trivial)
  | cons binding rest ih =>
    obtain ⟨word, words⟩ := List.forall_mem_cons.mp words
    obtain ⟨name, names⟩ := List.forall_mem_cons.mp names
    have value : Legible quoted (.word binding.ident :: .mark ',' :: .blanks "\n" ::
        recordEntries rest) := legible_word (legible_mark (legible_blanks (ih words names))) word
    have keyed : Legible quoted (.literal binding.name :: .mark ':' :: .blanks " " :: _) :=
      legible_cons name rfl (legible_mark (legible_blanks value))
    have plain : Legible quoted (.blanks "      " :: _) := legible_blanks value
    have named : Legible quoted (.blanks "      " :: _) := legible_blanks keyed
    rw [recordEntries, Binding.entry]
    split
    · simpa using plain
    · simpa using named

theorem queryRecord_legible {bindings : List Binding}
    (words : ∀ binding ∈ bindings, IsWord binding.ident)
    (names : ∀ binding ∈ bindings, quoted.Reads binding.name) :
    Legible quoted (queryRecord bindings) := by
  have value : Legible quoted (.mark '\x7b' :: .blanks "\n" :: recordEntries bindings) :=
    legible_mark (legible_blanks (recordEntries_legible words names))
  exact legible_word (legible_blanks (legible_word (legible_blanks (legible_mark
    (legible_blanks value)))))

theorem answerLexemes_legible (unwrap : Bool) {call : List Lexeme} (h : Legible quoted call) :
    ∀ lexemes ∈ answerLexemes unwrap call, Script.Opens lexemes ∧ Legible quoted lexemes := by
  unfold answerLexemes
  split
  · have awaited : Legible quoted (.word "await" :: .blanks " " :: call) :=
      legible_word (legible_blanks h)
    have field : Legible quoted [.word "response", .mark '.', .word "data"] :=
      legible_word (legible_mark (word_legible (by decide)))
    refine List.forall_mem_cons.mpr ⟨⟨trivial, ?_⟩, List.forall_mem_singleton.mpr ⟨trivial, ?_⟩⟩
    · exact legible_word (legible_blanks (legible_word (legible_blanks (legible_mark
        (legible_blanks awaited)))))
    · exact legible_word (legible_blanks field)
  · refine List.forall_mem_singleton.mpr ⟨trivial, ?_⟩
    exact legible_word (legible_blanks h)

theorem Method.readBody_lexemes (method : Method) (unwrap : Bool) {parts : List TemplatePart}
    (address : (method.address parts).Fits quoted) (trace : quoted.Reads "trace")
    (words : ∀ binding ∈ method.queryBindings, IsWord binding.ident)
    (names : ∀ binding ∈ method.queryBindings, quoted.Reads binding.name) :
    Script.readBody quoted ("\n" ++ joinLines method.queryLines
      ++ joinLines (method.returnLines unwrap) ++ "  \x7d").toList =
        some ((method.bodyLexemes unwrap parts).map lexemeTokens, []) := by
  rw [← method.body_text unwrap parts]
  apply Script.readBody_text
  intro lexemes mem
  rcases List.mem_append.mp mem with mem | mem
  · split at mem
    · cases mem
    · obtain rfl := List.mem_singleton.mp mem
      exact ⟨trivial, queryRecord_legible words names⟩
  · exact answerLexemes_legible unwrap (method.call.lexemes_legible address rfl trace) lexemes mem

end Legibility

def answerTokens (unwrap : Bool) (call : List BodyToken) : List (List BodyToken) :=
  if unwrap then
    [[.word "const", .word "response", .mark '=', .word "await"] ++ call,
      [.word "return", .word "response", .mark '.', .word "data"]]
  else [.word "return" :: call]

theorem answerLexemes_tokens (unwrap : Bool) (call : List Lexeme) :
    (answerLexemes unwrap call).map lexemeTokens = answerTokens unwrap (lexemeTokens call) := by
  cases unwrap with
  | true => rfl
  | false => rfl

theorem bodyLexemes_tokens (method : Method) (unwrap : Bool) (parts : List TemplatePart) :
    (method.bodyLexemes unwrap parts).map lexemeTokens =
      (if method.queryBindings.isEmpty then [] else [lexemeTokens (queryRecord method.queryBindings)])
        ++ answerTokens unwrap (lexemeTokens (method.call.lexemes (method.address parts))) := by
  rw [Method.bodyLexemes, List.map_append, answerLexemes_tokens]
  split <;> rfl

theorem readEntries_tokens (bindings : List Binding) :
    Script.readEntries (lexemeTokens (recordEntries bindings)) =
      some (bindings.map fun binding => (binding.name, binding.ident)) := by
  induction bindings with
  | nil => rfl
  | cons binding rest ih =>
    rw [recordEntries, List.map_cons, Binding.entry]
    split
    · rename_i same
      simp [Lexeme.tokens, Script.readEntries, ih, same]
    · simp [Lexeme.tokens, Script.readEntries, ih]

theorem mentions_entries (bindings : List Binding) :
    Script.mentions false (lexemeTokens (recordEntries bindings)) = bindings.map Binding.ident := by
  induction bindings with
  | nil => rfl
  | cons binding rest ih =>
    rw [recordEntries, List.map_cons, Binding.entry]
    split
    · simp [Lexeme.tokens, Script.mentions, ih]
    · simp [Lexeme.tokens, Script.mentions, ih]

theorem declaration_record (bindings : List Binding) :
    Script.declaration? (lexemeTokens (queryRecord bindings)) =
      some ("params", .mark '\x7b' :: lexemeTokens (recordEntries bindings)) := rfl

theorem declarations_answer (unwrap : Bool) (call : List BodyToken) :
    ((answerTokens unwrap call).filterMap Script.declaration?).lookup "params" = none := by
  cases unwrap with
  | true => rfl
  | false => rfl

theorem recordOf_body (method : Method) (unwrap : Bool) (parts : List TemplatePart) :
    Script.recordOf "params" ((method.bodyLexemes unwrap parts).map lexemeTokens) =
      some (method.queryBindings.map fun binding => (binding.name, binding.ident)) := by
  rw [Script.recordOf, bodyLexemes_tokens, List.filterMap_append]
  split
  · rename_i none
    rw [List.isEmpty_iff.mp none, List.filterMap_nil, List.nil_append, declarations_answer]
    rfl
  · rw [List.filterMap_cons_some (declaration_record method.queryBindings), List.cons_append,
      List.lookup_cons_self, Option.map_some, Script.readRecord, readEntries_tokens]
    rfl

def languageWords : List String := ["await", "return", "this", "undefined"]

/-- What the statements of a body use, with the call that they make. -/
structure BodyClosed (method : Method) (unwrap : Bool) (pathNames queryNames : List String)
    (statements : List (List BodyToken)) (call : List BodyToken) : Prop where
  closed : Script.Closed (languageWords ++ method.formals.map Formal.ident) statements
  text : Script.readStatement Script.readLoose (method.call.text ++ ";").toList = some (call, [])
  answer : answerTokens unwrap call <:+ statements
  address : ∃ parts, call.filterMap BodyToken.template? = [parts] ∧
    Script.templateParts method.call.url = some parts ∧
    ∀ source, .expression source ∈ parts → source ∈ pathNames
  values : ∃ entries, Script.recordOf "params" statements = some entries ∧
    entries.map Prod.snd = queryNames
  declared : "params" ∈ statements.flatMap Script.declared ↔ "params" ∈ Script.uses call
  query : "params" ∈ Script.uses call ↔ queryNames ≠ []
  data : "data" ∈ Script.uses call ↔ "data" ∈ method.formals.map Formal.ident

theorem closed_answer {known : List String} {call : List BodyToken} (unwrap : Bool)
    (words : languageWords ⊆ known) (names : Script.mentions false call ⊆ known)
    (opens : call.head? ≠ some (.mark ':')) : Script.Closed known (answerTokens unwrap call) := by
  have await : "await" ∈ known := words (by decide)
  have answer : "return" ∈ known := words (by decide)
  cases unwrap with
  | true =>
    have first : Script.uses (.word "const" :: .word "response" :: .mark '=' :: .word "await" ::
        call) = "await" :: Script.mentions false call := by
      simp [Script.uses, Script.declaration?, Script.mentions, opens]
    have last : Script.uses [.word "return", .word "response", .mark '.', .word "data"] =
        ["return", "response"] := rfl
    refine ⟨?_, ?_, trivial⟩
    · exact first ▸ List.cons_subset.mpr ⟨await, names⟩
    · rw [last, List.cons_subset, List.cons_subset]
      exact ⟨List.mem_cons_of_mem _ answer, List.mem_cons_self, List.nil_subset _⟩
  | false =>
    have first : Script.uses (.word "return" :: call) = "return" :: Script.mentions false call := by
      simp [Script.uses, Script.declaration?, Script.mentions, opens]
    exact ⟨first ▸ List.cons_subset.mpr ⟨answer, names⟩, trivial⟩

section Names

variable {method : Method} {parts : List TemplatePart}
  (within : ∀ source, .expression source ∈ parts → source ∈ method.pathBindings.map Binding.ident)
  (apart : ∀ binding ∈ method.bindings, binding.ident ∉ Script.bodyLocals)

theorem uses_call : Script.uses (lexemeTokens (method.call.lexemes (method.address parts))) =
    "this" :: (Script.expressions parts ++ method.call.names) := mentions_call method.call _ parts

include within in
theorem uses_call_known : Script.uses (lexemeTokens (method.call.lexemes (method.address parts))) ⊆
    (if method.queryBindings.isEmpty then [] else ["params"])
      ++ (languageWords ++ method.formals.map Formal.ident) := by
  obtain ⟨known, query, body⟩ := method.call.names_known
  intro name mem
  rw [uses_call, List.mem_cons, List.mem_append] at mem
  rw [Method.idents_eq, Method.bindings, List.map_append]
  rcases mem with rfl | mem | mem
  · simp [languageWords]
  · have shown := within name (Script.mem_expressions.mp mem)
    simp [shown]
  · have among := known mem
    simp only [List.mem_cons, List.not_mem_nil, or_false] at among
    rcases among with rfl | rfl | rfl
    · have held : (!method.queryBindings.isEmpty) = true := query.mp mem
      simp only [Bool.not_eq_true'] at held
      simp [held]
    · have held : method.hasBody = true := body.mp mem
      simp [held]
    · simp [languageWords]

include within apart in
theorem mem_uses_call (name : String) (taken : name ∈ Script.bodyLocals) :
    name ∈ Script.uses (lexemeTokens (method.call.lexemes (method.address parts))) ↔
      name ∈ method.call.names := by
  have other : "this" ∉ Script.bodyLocals := by decide
  rw [uses_call, List.mem_cons, List.mem_append]
  constructor
  · rintro (rfl | mem | mem)
    · exact absurd taken other
    · obtain ⟨binding, bound, rfl⟩ := List.mem_map.mp (within name (Script.mem_expressions.mp mem))
      exact absurd taken (apart binding (List.mem_append_left _ bound))
    · exact mem
  · intro mem
    exact .inr (.inr mem)

theorem uses_record (bindings : List Binding) :
    Script.uses (lexemeTokens (queryRecord bindings)) = bindings.map Binding.ident := by
  rw [Script.uses, declaration_record]
  exact mentions_entries bindings

include within in
theorem body_known (unwrap : Bool) : Script.Closed (languageWords ++ method.formals.map Formal.ident)
    ((method.bodyLexemes unwrap parts).map lexemeTokens) := by
  have used := uses_call_known within
  have opens : (lexemeTokens (method.call.lexemes (method.address parts))).head? ≠
      some (.mark ':') := by
    simp [Call.lexemes, Lexeme.tokens]
  have words := List.subset_append_left languageWords (method.formals.map Formal.ident)
  rw [bodyLexemes_tokens]
  split
  · rename_i none
    rw [if_pos none] at used
    exact closed_answer unwrap words used opens
  · rename_i some
    rw [if_neg some] at used
    refine ⟨?_, closed_answer unwrap (List.subset_append_of_subset_right _ words) used opens⟩
    rw [uses_record, Method.idents_eq, Method.bindings, List.map_append]
    intro name mem
    simp [mem]

theorem declared_body (unwrap : Bool) :
    "params" ∈ ((method.bodyLexemes unwrap parts).map lexemeTokens).flatMap Script.declared ↔
      method.queryBindings ≠ [] := by
  have none : "params" ∉ (answerTokens unwrap (lexemeTokens (method.call.lexemes
      (method.address parts)))).flatMap Script.declared := by
    cases unwrap with
    | true => exact (by decide : "params" ∉ ["response"])
    | false => exact List.not_mem_nil
  rw [bodyLexemes_tokens, List.flatMap_append, List.mem_append, or_iff_left none]
  split
  · rename_i empty
    simp [List.isEmpty_iff.mp empty]
  · rename_i held
    have declared : Script.declared (lexemeTokens (queryRecord method.queryBindings)) =
        ["params"] := rfl
    simpa [declared] using held

include within apart in
theorem Method.closed (address : (method.address parts).Fits Script.readLoose) (unwrap : Bool) :
    BodyClosed method unwrap (method.pathBindings.map Binding.ident)
      (method.queryBindings.map Binding.ident) ((method.bodyLexemes unwrap parts).map lexemeTokens)
      (lexemeTokens (method.call.lexemes (method.address parts))) := by
  have params := mem_uses_call within apart "params" (by decide)
  have data := mem_uses_call within apart "data" (by decide)
  obtain ⟨_, hasQuery, hasBody⟩ := method.call.names_known
  have query : method.call.hasQuery = true ↔ method.queryBindings ≠ [] := by
    simp [call]
  have unbound : "data" ∉ method.bindings.map Binding.ident := by
    intro mem
    obtain ⟨binding, bound, called⟩ := List.mem_map.mp mem
    exact apart binding bound (by simp [called, Script.bodyLocals])
  have body : "data" ∈ method.formals.map Formal.ident ↔ method.call.hasBody = true := by
    rw [idents_eq, List.mem_append, or_iff_right unbound]
    simp [call]
  constructor
  · exact body_known within unwrap
  · have legible := method.call.lexemes_legible address rfl (Script.readLoose_reads "trace")
    have read := Script.readStatement_lexemes legible []
    rw [method.call_text parts] at read
    rwa [String.toList_append]
  · rw [bodyLexemes_tokens]
    exact List.suffix_append _ _
  · refine ⟨parts, templates_call _ _ parts, ?_, within⟩
    exact Script.templateParts_read (urlLiteral_letters method.path method.pathBindings) (address [])
  · refine ⟨_, recordOf_body method unwrap parts, ?_⟩
    rw [List.map_map]
    rfl
  · rw [declared_body, params, hasQuery, query]
  · rw [params, hasQuery, query, ne_eq, ne_eq, List.map_eq_nil_iff]
  · rw [data, hasBody, body]

end Names

/-- What is read from the text of a method behind the brace that opens its body. -/
def Method.BodyReads (quoted : StringReader) (method : Method) (options : ClientOptions)
    (statements : List (List BodyToken)) : Prop :=
  ∃ heading body, method.source options = heading ++ "\x7b" ++ body ∧
    Heading options.typed method.name (method.formals.map Formal.ident) heading ∧
    Script.readBody quoted body.toList = some (statements, [])

/-- A name that a parameter may have asked for. -/
def Parameter.Claims (parameter : Parameter) (ident : String) : Prop :=
  ∃ n, ident = Script.candidate (Script.parameterName parameter.name) n

structure Operation.Signature (operation : Operation) (components : Components) (method : Method)
    (pathNames queryNames : List String) : Prop where
  formals : method.formals.map Formal.ident =
    pathNames ++ queryNames ++ if operation.requestBody.isSome then ["data"] else []
  path : List.Forall₂ Parameter.Claims (operation.parametersIn components .path) pathNames
  query : List.Forall₂ Parameter.Claims (operation.parametersIn components .query) queryNames

theorem bindParameters_claimed (taken : List String) (parameters : List Parameter) :
    List.Forall₂ Parameter.Claims parameters
      ((bindParameters taken parameters).map Binding.ident) := by
  induction parameters generalizing taken with
  | nil => exact .nil
  | cons parameter rest ih => exact .cons (freshName_candidate _ _) (ih _)

section Operations

variable (operation : Operation) (components : Components) (verb : HttpMethod) (path name : String)

theorem method_signature : operation.Signature components
    (operation.method components verb path name)
    ((operation.method components verb path name).pathBindings.map Binding.ident)
    ((operation.method components verb path name).queryBindings.map Binding.ident) := by
  refine ⟨?_, bindParameters_claimed _ _, bindParameters_claimed _ _⟩
  rw [Method.idents_eq, Method.bindings, List.map_append]
  rfl

theorem queryBindings_names : (operation.method components verb path name).queryBindings.map
    Binding.name = (operation.parametersIn components .query).map Parameter.name :=
  bindParameters_names _ _

theorem method_address (quoted : StringReader) : ∃ parts,
    ((operation.method components verb path name).address parts).Fits quoted ∧
    ∀ source, .expression source ∈ parts →
      source ∈ (operation.method components verb path name).pathBindings.map Binding.ident := by
  have braceless : ∀ binding ∈ (operation.method components verb path name).pathBindings,
      Braceless binding.ident.toList := by
    intro binding mem
    exact bindParameters_braceless mem
  exact readTemplate_url braceless path

variable {operation components verb path name}

theorem body_reads {quoted : StringReader} (trace : quoted.Reads "trace")
    (names : ∀ parameter ∈ operation.parametersIn components .query, quoted.Reads parameter.name)
    {parts : List TemplatePart}
    (address : ((operation.method components verb path name).address parts).Fits quoted)
    (options : ClientOptions) :
    (operation.method components verb path name).BodyReads quoted options
      (((operation.method components verb path name).bodyLexemes options.unwrapResponseData
        parts).map lexemeTokens) := by
  have words : ∀ binding ∈ (operation.method components verb path name).queryBindings,
      IsWord binding.ident := by
    intro binding mem
    exact bindParameters_word mem
  have bound : ∀ binding ∈ (operation.method components verb path name).queryBindings,
      quoted.Reads binding.name := by
    intro binding mem
    have called := List.mem_map_of_mem (f := Binding.name) mem
    rw [queryBindings_names] at called
    obtain ⟨parameter, entered, same⟩ := List.mem_map.mp called
    rw [← same]
    exact names parameter entered
  refine ⟨_, _, ?_, Method.heading _ options,
    Method.readBody_lexemes _ options.unwrapResponseData address trace words bound⟩
  rw [Method.source_eq_fill, fill_append, Method.fill_body, ← String.append_assoc]

end Operations

/-- The query record reads back as the names of the query parameters, each with its own formal. -/
theorem query_record_reads {operation : Operation} {components : Components} {verb : HttpMethod}
    {path : String} {emitted : EmittedMethod}
    (h : operation.emit? components verb path = some emitted)
    (lines : ∀ parameter ∈ operation.parametersIn components .query, '\r' ∉ parameter.name.toList)
    (options : ClientOptions) : ∃ statements pathNames queryNames,
      emitted.method.BodyReads Script.readQuoted options statements ∧
      operation.Signature components emitted.method pathNames queryNames ∧
      Script.recordOf "params" statements =
        some (((operation.parametersIn components .query).map Parameter.name).zip queryNames) := by
  obtain ⟨name, _, rfl⟩ := Option.map_eq_some_iff.mp h
  obtain ⟨parts, address, _⟩ := method_address operation components verb path name Script.readQuoted
  have names : ∀ parameter ∈ operation.parametersIn components .query,
      StringReader.Reads Script.readQuoted parameter.name := by
    intro parameter mem
    exact Script.readQuoted_reads (lines parameter mem)
  refine ⟨_, _, _, body_reads (Script.readQuoted_reads (by decide)) names address options,
    method_signature operation components verb path name, ?_⟩
  rw [recordOf_body, ← queryBindings_names operation components verb path name, List.zip_map']

def escapedNames : Operation where
  operationId := some "search"
  parameters := [("id", .path), ("id", .query), ("it's", .query), ("a\\b", .query), ("x\ny", .query),
    ("page", .query), ("params", .query), ("page", .query)].map fun (name, location) =>
      .inline { name, location }

theorem escaped_names_read : ∃ emitted, escapedNames.emit? {} .get "/x/\x7bid\x7d" = some emitted ∧
    (∃ statements pathNames queryNames,
      emitted.method.BodyReads Script.readQuoted { unwrapResponseData := true } statements ∧
      escapedNames.Signature {} emitted.method pathNames queryNames ∧
      Script.recordOf "params" statements =
        some (((escapedNames.parametersIn {} .query).map Parameter.name).zip queryNames)) ∧
    emitted.method.queryLines = ["    const params = \x7b", "      'id': id_2,", "      'it\\'s': itS,",
      "      'a\\\\b': aB,", "      'x\\ny': xY,", "      page,", "      'params': params_2,",
      "      'page': page_2,", "    \x7d;"] := by
  have emitted : escapedNames.emit? {} .get "/x/\x7bid\x7d" =
      some ⟨escapedNames.method {} .get "/x/\x7bid\x7d" "search", [],
        [.noSuccessResponse "search" .get "/x/\x7bid\x7d"]⟩ := by rfl
  exact ⟨_, emitted, query_record_reads emitted (by decide) _, by decide +kernel⟩

/-- Whatever the parameters and the path of an operation are called, the body of its method is
closed. -/
theorem body_closed {operation : Operation} {components : Components} {verb : HttpMethod}
    {path : String} {emitted : EmittedMethod}
    (h : operation.emit? components verb path = some emitted) (options : ClientOptions) :
    ∃ statements pathNames queryNames call,
      emitted.method.BodyReads Script.readLoose options statements ∧
      operation.Signature components emitted.method pathNames queryNames ∧
      BodyClosed emitted.method options.unwrapResponseData pathNames queryNames statements
        call := by
  obtain ⟨name, _, rfl⟩ := Option.map_eq_some_iff.mp h
  obtain ⟨parts, address, within⟩ :=
    method_address operation components verb path name Script.readLoose
  have names : ∀ parameter ∈ operation.parametersIn components .query,
      Script.readLoose.Reads parameter.name := by
    intro parameter _
    exact Script.readLoose_reads parameter.name
  exact ⟨_, _, _, _, body_reads (Script.readLoose_reads "trace") names address options,
    method_signature operation components verb path name,
    Method.closed within (bindings_apart operation components verb path name) address
      options.unwrapResponseData⟩

def hostileNames : Operation where
  operationId := some "probe"
  parameters := [("$\x7ba", .path), ("a\x7d", .path), ("`", .path), ("a", .path), ("x\ry", .query),
    ("$\x7bdata\x7d", .query)].map fun (name, location) => .inline { name, location }
  requestBody := some .null

def hostilePath : String := "/$\x7b$\x7ba\x7d\x7d/\\\x7b`\x7d/\x7ba\x7d\x7d`$\x7bprocess\x7d"

theorem hostile_names_closed : ∃ emitted, hostileNames.emit? {} .trace hostilePath = some emitted ∧
    (∃ statements pathNames queryNames call,
      emitted.method.BodyReads Script.readLoose {} statements ∧
      hostileNames.Signature {} emitted.method pathNames queryNames ∧
      BodyClosed emitted.method false pathNames queryNames statements call) ∧
    emitted.method.formals.map Formal.ident = ["a", "a_2", "_", "a_3", "xY", "data_2", "data"] := by
  have emitted : hostileNames.emit? {} .trace hostilePath =
      some ⟨hostileNames.method {} .trace hostilePath "probe", [],
        [.noSuccessResponse "probe" .trace hostilePath]⟩ := by rfl
  exact ⟨_, emitted, body_closed emitted {}, by decide +kernel⟩

end OpenApiClient
