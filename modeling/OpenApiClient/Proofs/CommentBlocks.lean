import OpenApiClient.Proofs.ClassMembers
import OpenApiClient.Proofs.CommentMarks
import OpenApiClient.Proofs.FormalNames

/-! The comments of plain output.
Declarations and methods are each given one comment. It ends where it was written to end, unless the
value of a literal, a property's name or a schema's name closes it; what is told in words never does. -/
namespace OpenApiClient

structure Comment where
  before : String
  inside : String
  after : String

def Comment.text (comment : Comment) : String :=
  comment.before ++ "/*" ++ comment.inside ++ "*/" ++ comment.after

/-- Read from behind its opening mark, the comment goes to its own closing mark. -/
def Comment.EndsAsWritten (comment : Comment) : Prop :=
  readComment (comment.inside.toList ++ '*' :: '/' :: comment.after.toList) =
    some (comment.inside.toList, comment.after.toList)

instance (comment : Comment) : Decidable comment.EndsAsWritten :=
  inferInstanceAs (Decidable (_ = _))

def documented (lines : List String) (indentation : String) : String :=
  "*\n" ++ joinLines lines ++ indentation

theorem endsAsWritten_iff {before after indentation : String} {lines : List String}
    (blank : Apart indentation.toList) :
    Comment.EndsAsWritten ⟨before, documented lines indentation, after⟩ ↔
      ∀ line ∈ lines, ¬ Closes line.toList := by
  have opening : Apart "*\n".toList := by decide
  rw [Comment.EndsAsWritten, readComment_iff, documented, String.toList_append,
    String.toList_append, closes_after blank, closes_before opening, closes_joinLines]
  simp only [not_exists, not_and]

theorem split_append {whole first second : String} (h : whole = first ++ second) (text : String) :
    whole ++ text = first ++ (second ++ text) := by
  rw [h, String.append_assoc]

theorem closes_bracketed (required : Bool) (name : String) :
    Closes (if required then name else "[" ++ name ++ "]").toList ↔ Closes name.toList := by
  have opening : Apart "[".toList := by decide
  have closing : Apart "]".toList := by decide
  split
  · rfl
  · rw [String.toList_append, String.toList_append, closes_after closing, closes_before opening]

theorem closes_tagLine (property : Property) : Closes property.tagLine.toList ↔
    Closes property.type.text.toList ∨ Closes property.name.toList := by
  have opening : Apart " * @property \x7b".toList := by decide
  have brace : Apart "\x7d ".toList := by decide
  have space : Apart " ".toList := by decide
  have described : ∀ name : List Char, Closes (name ++ (property.description.elim ""
      fun description => " " ++ Script.escapeComment (oneLine description)).toList) ↔ Closes name := by
    intro name
    cases property.description with
    | none => simp
    | some description =>
      rw [Option.elim_some, String.toList_append, closes_apart space,
        or_iff_left (escapeComment_closed _)]
  unfold Property.tagLine
  rw [String.toList_append, described, String.toList_append, String.toList_append,
    String.toList_append, List.append_assoc, List.append_assoc, closes_before opening,
    closes_apart brace, closes_bracketed]

def Declaration.commentLines (declaration : Declaration) : List String :=
  (" * @typedef \x7bObject\x7d " ++ declaration.name) :: declaration.properties.map Property.tagLine

/-- What a declaration holds that would close its comment. -/
def Declaration.Closing (declaration : Declaration) : Prop :=
  Closes declaration.name.toList ∨ ∃ property ∈ declaration.properties,
    Closes property.name.toList ∨ ∃ value ∈ property.type.literalValues, Closes value.toList

theorem property_type {document : Document} {declaration : Declaration} {property : Property}
    (declared : declaration ∈ document.declarations) (mem : property ∈ declaration.properties) :
    ∃ node : SchemaNode, property.type = node.typeExpr := by
  obtain ⟨⟨name, node⟩, _, rfl⟩ := List.mem_map.mp declared
  cases node with
  | reference path description => cases mem
  | inline schema =>
    obtain ⟨⟨key, inner⟩, _, rfl⟩ := List.mem_map.mp mem
    exact ⟨inner, rfl⟩

theorem closes_declaration {document : Document} {declaration : Declaration}
    (declared : declaration ∈ document.declarations) :
    (∃ line ∈ declaration.commentLines, Closes line.toList) ↔ declaration.Closing := by
  have opening : Apart " * @typedef \x7bObject\x7d ".toList := by decide
  simp only [Declaration.commentLines, List.exists_mem_cons_iff, List.mem_map,
    exists_exists_and_eq_and, String.toList_append, closes_before opening]
  apply or_congr_right
  apply exists_congr
  intro property
  apply and_congr_right
  intro mem
  obtain ⟨node, type⟩ := property_type declared mem
  rw [closes_tagLine, type, closes_typeExpr, or_comm]

def Declaration.comment (declaration : Declaration) (before after : List Declaration) : Comment where
  before := joinLines (["// Auto-generated types from OpenAPI specification"]
    ++ before.flatMap (·.lines false) ++ [""])
  inside := documented declaration.commentLines " "
  after := "\n" ++ joinLines (after.flatMap (·.lines false) ++ ["", "export \x7b\x7d;"])

theorem typesModule_comment {document : Document} {options : ClientOptions}
    (plain : options.typed = false) {before after : List Declaration} {declaration : Declaration}
    (split : document.declarations = before ++ declaration :: after) :
    (declaration.comment before after).text = document.typesModule options := by
  have lines : declaration.lines false = ["", "/**"] ++ declaration.commentLines ++ [" */"] := rfl
  have opening := split_append (show "/**" = "/*" ++ "*" from rfl)
  have feed := split_append (show "*\n" = "*" ++ "\n" from rfl)
  have ending := split_append (show " */" = " " ++ "*/" from rfl)
  rw [Document.typesModule, Document.typesLines, plain, split, List.flatMap_append,
    List.flatMap_cons, lines, if_neg Bool.false_ne_true]
  simp only [Comment.text, Declaration.comment, documented, joinLines_append, joinLines_cons,
    joinLines_nil, String.append_assoc, String.append_empty, opening, feed, ending]

theorem closes_summaryLine (line : List Char) : ¬ Closes (Method.summaryLine line).toList := by
  have opening : Apart "   * ".toList := by decide
  unfold Method.summaryLine
  split
  · decide
  · rw [String.toList_append, closes_before opening]
    exact escapeComment_closed _

theorem closes_summary {method : Method} {line : String} (mem : line ∈ method.commentLines true) :
    ¬ Closes line.toList := by
  simp only [Method.commentLines, if_true, List.append_nil] at mem
  split at mem
  · obtain rfl := List.mem_singleton.mp mem
    decide
  · obtain ⟨told, _, rfl⟩ := List.mem_map.mp mem
    exact closes_summaryLine told

theorem closes_documentation {formal : Formal} (slash : '/' ∉ formal.ident.toList) :
    Closes formal.documentation.toList ↔ Closes formal.type.text.toList := by
  have opening : Apart "   * @param \x7b".toList := by decide
  have brace : Apart "\x7d ".toList := by decide
  have ident : ¬ Closes formal.ident.toList := fun h => slash (closes_slash h)
  unfold Formal.documentation
  rw [String.toList_append, String.toList_append, String.toList_append, List.append_assoc,
    List.append_assoc, closes_before opening, closes_apart brace, closes_bracketed,
    or_iff_left ident]

theorem closes_formal {document : Document} {emitted : EmittedMethod}
    (mem : emitted ∈ document.emission.methods) {formal : Formal}
    (held : formal ∈ emitted.method.formals) : Closes formal.documentation.toList ↔
      ∃ value ∈ formal.type.literalValues, Closes value.toList := by
  obtain ⟨endpoint, _, made⟩ := mem_emission.mp mem
  obtain ⟨name, _, rfl⟩ := Option.map_eq_some_iff.mp made
  rcases formals_stand held with rfl | ⟨parameter, _, stands⟩
  · rw [closes_documentation (by decide)]
    exact closes_typeOfSchema none
  · rw [closes_documentation stands.slash, stands.2]
    exact closes_typeOfSchema parameter.schema

theorem closes_method {document : Document} {emitted : EmittedMethod}
    (mem : emitted ∈ document.emission.methods) :
    (∃ line ∈ emitted.method.commentLines false, Closes line.toList) ↔
      ∃ formal ∈ emitted.method.formals, ∃ value ∈ formal.type.literalValues, Closes value.toList := by
  have lines : emitted.method.commentLines false =
      emitted.method.commentLines true ++ emitted.method.formals.map Formal.documentation := by
    simp [Method.commentLines]
  rw [lines]
  constructor
  · rintro ⟨line, mem', closes⟩
    rcases List.mem_append.mp mem' with told | typed
    · exact absurd closes (closes_summary told)
    · obtain ⟨formal, held, rfl⟩ := List.mem_map.mp typed
      exact ⟨formal, held, (closes_formal mem held).mp closes⟩
  · rintro ⟨formal, held, closes⟩
    refine ⟨formal.documentation, ?_, (closes_formal mem held).mpr closes⟩
    exact List.mem_append_right _ (List.mem_map_of_mem held)

def EmittedMethod.comment (emitted : EmittedMethod) (document : Document) (options : ClientOptions)
    (typesModule : String) (before after : List EmittedMethod) : Comment where
  before := joinLines (document.classHead options typesModule
    ++ (ownMembers options (document.serverUrl?.getD defaultBaseUrl)
      ++ before.map (·.member options)).flatMap Member.lines ++ [""]) ++ "  "
  inside := documented (emitted.method.commentLines options.typed) "   "
  after := "\n" ++ joinLines ([emitted.method.headLine options] ++ emitted.method.queryLines
    ++ emitted.method.returnLines options.unwrapResponseData ++ ["  \x7d"]
    ++ (after.map (·.member options)).flatMap Member.lines ++ options.classEnd)

theorem Method.source_lines (method : Method) (options : ClientOptions) :
    method.source options ++ "\n" = joinLines (method.lines options) := by
  rw [source, lines, intercalate_lines]
  simp only [joinLines_append, joinLines_cons, joinLines_nil, String.append_assoc,
    String.append_empty]

theorem clientModule_comment {document : Document} {options : ClientOptions} {typesModule : String}
    {before after : List EmittedMethod} {emitted : EmittedMethod}
    (split : document.emission.methods = before ++ emitted :: after) :
    (emitted.comment document options typesModule before after).text =
      document.clientModule options typesModule := by
  have opening := split_append (show "  /**" = "  " ++ ("/*" ++ "*") from rfl)
  have feed := split_append (show "*\n" = "*" ++ "\n" from rfl)
  have ending := split_append (show "   */" = "   " ++ "*/" from rfl)
  have source : joinLines (emitted.member options).lines =
      "\n" ++ joinLines (emitted.method.lines options) := by
    rw [EmittedMethod.member, joinLines_cons, joinLines_cons, joinLines_nil, String.append_empty,
      Method.source_lines, String.empty_append]
  rw [Document.clientModule, document.clientLines_members, Document.members, split, List.map_append,
    List.map_cons]
  simp only [List.flatMap_append, List.flatMap_cons, joinLines_append, source]
  simp only [Comment.text, EmittedMethod.comment, documented, Method.lines, List.flatMap_append,
    joinLines_append, joinLines_cons, joinLines_nil, String.append_assoc, String.append_empty,
    String.empty_append, opening, feed, ending]

structure CommentsEnd (document : Document) (options : ClientOptions) : Prop where
  /-- The comment of a declaration ends where it should, unless a name or the value of a literal
  closes it. -/
  declarations : ∀ before declaration after,
    document.declarations = before ++ declaration :: after →
      (declaration.comment before after).text = document.typesModule options ∧
      ((declaration.comment before after).EndsAsWritten ↔ ¬ declaration.Closing)
  /-- The comment of a method ends where it should, unless the value of a literal closes it. -/
  methods : ∀ typesModule before emitted after,
    document.emission.methods = before ++ emitted :: after →
      (emitted.comment document options typesModule before after).text =
        document.clientModule options typesModule ∧
      ((emitted.comment document options typesModule before after).EndsAsWritten ↔
        ∀ formal ∈ emitted.method.formals, ∀ value ∈ formal.type.literalValues,
          ¬ Closes value.toList)

theorem comments_end (document : Document) (options : ClientOptions) (plain : options.typed = false) :
    CommentsEnd document options where
  declarations := by
    intro before declaration after split
    have declared : declaration ∈ document.declarations := by simp [split]
    refine ⟨typesModule_comment plain split, ?_⟩
    rw [Declaration.comment, endsAsWritten_iff (by decide), ← closes_declaration declared]
    simp only [not_exists, not_and]
  methods := by
    intro typesModule before emitted after split
    have mem : emitted ∈ document.emission.methods := by simp [split]
    refine ⟨clientModule_comment split, ?_⟩
    have closing := closes_method mem
    rw [EmittedMethod.comment, endsAsWritten_iff (by decide), plain]
    simpa only [not_exists, not_and] using not_congr closing

def rangesDocument : Document :=
  let range : SchemaNode := .inline
    { type := some (.single .string), enumValues := [.string "*/*", .string "text/html"] }
  let remark : SchemaNode := .inline
    { type := some (.single .string), description := some "ends at */" }
  { paths := [("/media", ⟨[(.get, {
      operationId := some "listMedia"
      summary := some "Lists */* and more"
      parameters := [.inline { name := "range", location := .query, schema := some range }] })]⟩)]
    components := { schemas := [
      ("Remark", .inline { type := some (.single .object), properties := [("text", remark)] }),
      ("Media", .inline { type := some (.single .object), properties := [("range", range)] })] } }

def plainOutput : ClientOptions := { toJavaScript := true }

def remarkDeclaration : Declaration :=
  ⟨"Remark", [⟨"text", .string, false, some "ends at */"⟩]⟩

def mediaDeclaration : Declaration :=
  ⟨"Media", [⟨"range", .literals ["*/*", "text/html"], false, none⟩]⟩

theorem ranges_comments_end : plainOutput.typed = false ∧ CommentsEnd rangesDocument plainOutput ∧
    (remarkDeclaration.comment [] [mediaDeclaration]).EndsAsWritten := by
  have plain : plainOutput.typed = false := rfl
  have all := comments_end rangesDocument plainOutput plain
  have unclosed : ¬ remarkDeclaration.Closing := by
    simp [Declaration.Closing, remarkDeclaration, TypeExpr.literalValues]
  have here := (all.declarations [] remarkDeclaration [mediaDeclaration] (by decide +kernel)).2
  exact ⟨plain, all, here.mpr unclosed⟩

theorem ranges_close_comments : plainOutput.typed = false ∧
    rangesDocument.declarations = [remarkDeclaration] ++ mediaDeclaration :: [] ∧
    (mediaDeclaration.comment [remarkDeclaration] []).text = rangesDocument.typesModule plainOutput ∧
    ¬ (mediaDeclaration.comment [remarkDeclaration] []).EndsAsWritten ∧
    ∃ emitted, rangesDocument.emission.methods = [] ++ emitted :: [] ∧
      (emitted.comment rangesDocument plainOutput "./types" [] []).text =
        rangesDocument.clientModule plainOutput "./types" ∧
      ¬ (emitted.comment rangesDocument plainOutput "./types" [] []).EndsAsWritten := by
  have split : rangesDocument.declarations = [remarkDeclaration] ++ mediaDeclaration :: [] := by
    decide +kernel
  obtain ⟨emitted, methods⟩ : ∃ emitted, rangesDocument.emission.methods = [] ++ emitted :: [] :=
    ⟨_, rfl⟩
  refine ⟨rfl, split, typesModule_comment rfl split, by decide +kernel, emitted, methods,
    clientModule_comment methods, ?_⟩
  have taken : rangesDocument.emission.methods.map (·.method.formals) =
      [[⟨"range", .literals ["*/*", "text/html"], false⟩]] := by decide +kernel
  have formals : emitted.method.formals = [⟨"range", .literals ["*/*", "text/html"], false⟩] := by
    simpa [methods] using taken
  have listed : emitted ∈ rangesDocument.emission.methods := by simp [methods]
  have closing := closes_method listed
  rw [EmittedMethod.comment, endsAsWritten_iff (by decide)]
  intro ends
  have range : (⟨"range", .literals ["*/*", "text/html"], false⟩ : Formal) ∈ emitted.method.formals := by
    rw [formals]
    exact List.mem_singleton_self _
  obtain ⟨line, mem, closes⟩ := closing.mpr ⟨_, range, "*/*", by decide, by decide⟩
  exact ends line mem closes

end OpenApiClient
