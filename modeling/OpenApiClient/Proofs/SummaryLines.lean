import OpenApiClient.Proofs.CommentBlocks
import OpenApiClient.Proofs.TextLines

/-! What a summary does to the text of a typed method.
The lines of the summary are rows of the comment, one for one, and the comment ends behind the last of
them. Everything else about the method is the same for every summary. -/
namespace OpenApiClient

/-- A line as it is told in a comment: its closing marks are taken apart, and nothing else changes. -/
def Rewritten (line told : List Char) : Prop :=
  ∃ piece pieces, (∀ part ∈ piece :: pieces, ¬ Closes part) ∧
    line = ['*', '/'].intercalate (piece :: pieces) ∧
    told = ['*', '\\', '/'].intercalate (piece :: pieces)

inductive Row : List Char → String → Prop where
  | empty : Row [] "   *"
  | told {line} {text : String} : line ≠ [] → Rewritten line text.toList → Row line ("   * " ++ text)

theorem intercalate_cons_head (separator : List Char) (c : Char) (piece : List Char)
    (pieces : List (List Char)) :
    separator.intercalate ((c :: piece) :: pieces) = c :: separator.intercalate (piece :: pieces) := by
  cases pieces with
  | nil => simp
  | cons next pieces => simp [List.intercalate_cons_cons]

theorem Rewritten.nil : Rewritten [] [] :=
  ⟨[], [], by simp, by simp, by simp⟩

theorem Rewritten.mark {line told : List Char} (h : Rewritten line told) :
    Rewritten ('*' :: '/' :: line) ('*' :: '\\' :: '/' :: told) := by
  obtain ⟨piece, pieces, closed, rfl, rfl⟩ := h
  refine ⟨[], piece :: pieces, List.forall_mem_cons.mpr ⟨closes_nil, closed⟩, ?_, ?_⟩
  · rw [List.intercalate_cons_cons]
    rfl
  · rw [List.intercalate_cons_cons]
    rfl

theorem Rewritten.cons {c : Char} {line told : List Char} (h : Rewritten line told)
    (other : ¬ ['*', '/'] <+: c :: line) : Rewritten (c :: line) (c :: told) := by
  obtain ⟨piece, pieces, closed, rfl, rfl⟩ := h
  obtain ⟨first, others⟩ := List.forall_mem_cons.mp closed
  have alone : ¬ Closes (c :: piece) := by
    rw [closes_cons]
    rintro (⟨rfl, slash⟩ | inside)
    · apply other
      obtain ⟨behind, rfl⟩ := List.head?_eq_some_iff.mp slash
      rw [intercalate_cons_head]
      exact List.prefix_append ['*', '/'] _
    · exact first inside
  refine ⟨c :: piece, pieces, List.forall_mem_cons.mpr ⟨alone, others⟩, ?_, ?_⟩
  · rw [intercalate_cons_head]
  · rw [intercalate_cons_head]

theorem rewritten_replaceFrom (cs : List Char) :
    Rewritten cs (Text.replaceFrom ['*', '/'] ['*', '\\', '/'] 0 cs) := by
  -- A mark is passed in one step, slash and all, so the induction is on the length.
  induction size : cs.length using Nat.strong_induction_on generalizing cs with
  | h n ih =>
    cases cs with
    | nil => exact .nil
    | cons c rest =>
      rw [List.length_cons] at size
      by_cases mark : ['*', '/'] <+: c :: rest
      · obtain ⟨behind, marked⟩ := mark
        obtain ⟨rfl, rfl⟩ : '*' = c ∧ '/' :: behind = rest := by simpa using marked
        rw [List.length_cons] at size
        exact (ih behind.length (by omega) behind rfl).mark
      · rw [Text.replaceFrom, if_neg (by rwa [List.isPrefixOf_iff_prefix])]
        exact (ih rest.length (by omega) rest rfl).cons mark

theorem rewritten_escapeComment (text : String) :
    Rewritten text.toList (Script.escapeComment text).toList := by
  rw [Script.escapeComment, String.toList_ofList]
  exact rewritten_replaceFrom text.toList

theorem Rewritten.feed {line told : List Char} (h : Rewritten line told) (plain : '\n' ∉ line) :
    '\n' ∉ told := by
  obtain ⟨_, _, _, rfl, rfl⟩ := h
  rw [Text.mem_intercalate (by decide)] at plain ⊢
  exact plain

theorem summaryLine_row (line : List Char) : Row line (Method.summaryLine line) := by
  unfold Method.summaryLine
  split
  · rename_i empty
    rw [List.isEmpty_iff.mp empty]
    exact .empty
  · rename_i held
    have rewritten := rewritten_escapeComment (.ofList line)
    rw [String.toList_ofList] at rewritten
    exact .told (by simpa using held) rewritten

theorem Row.feed {line : List Char} {row : String} (h : Row line row) (plain : '\n' ∉ line) :
    '\n' ∉ row.toList := by
  cases h with
  | empty => decide
  | told _ rewritten =>
    have inside := rewritten.feed plain
    rw [String.toList_append, List.mem_append, not_or]
    exact ⟨by decide, inside⟩

/-- The rows of a comment for a summary, which has its lines in one way only; without lines there is
one bare row. -/
def Rows (summary : String) (rows : List String) : Prop :=
  ∃ lines, (∀ parts, Text.Lined summary.toList parts ↔ lines = parts) ∧
    if lines = [] then rows = ["   *"] else List.Forall₂ Row lines rows

theorem commentLines_rows (method : Method) : Rows method.summary (method.commentLines true) := by
  have rows : List.Forall₂ Row (Text.lines method.summary.toList)
      ((Text.lines method.summary.toList).map Method.summaryLine) := by
    rw [List.forall₂_map_right_iff, List.forall₂_same]
    exact fun line _ => summaryLine_row line
  refine ⟨_, fun _ => Text.lined_iff, ?_⟩
  simp only [Method.commentLines, if_true, List.append_nil, List.isEmpty_map, List.isEmpty_iff]
  split
  · rfl
  · exact rows

theorem rows_feed {lines : List (List Char)} {rows : List String}
    (h : List.Forall₂ Row lines rows) (plain : ∀ line ∈ lines, '\n' ∉ line) :
    ∀ row ∈ rows, '\n' ∉ row.toList := by
  induction h with
  | nil => exact List.forall_mem_nil _
  | cons told _ ih =>
    obtain ⟨first, others⟩ := List.forall_mem_cons.mp plain
    exact List.forall_mem_cons.mpr ⟨told.feed first, ih others⟩

theorem Rows.feed {summary : String} {rows : List String} (h : Rows summary rows) :
    ∀ row ∈ rows, '\n' ∉ row.toList := by
  obtain ⟨lines, only, held⟩ := h
  split at held
  · rw [held]
    decide
  · exact rows_feed held fun line mem => ((only lines).mpr rfl).plain mem

def Method.code (method : Method) (options : ClientOptions) : String :=
  joinLines ([method.headLine options] ++ method.queryLines
    ++ method.returnLines options.unwrapResponseData) ++ "  \x7d"

theorem source_comment (method : Method) (options : ClientOptions) : method.source options =
    "  /**\n" ++ joinLines (method.commentLines options.typed) ++ "   */\n" ++ method.code options := by
  have opening : "  /**\n" = "  /**" ++ "\n" := rfl
  have ending : "   */\n" = "   */" ++ "\n" := rfl
  rw [Method.source, Method.lines, intercalate_lines, Method.code, opening, ending]
  simp only [joinLines_append, joinLines_cons, joinLines_nil, String.append_assoc,
    String.append_empty]

structure SummaryTold (summary code text : String) (rows : List String) : Prop where
  told : Rows summary rows
  plain : ∀ row ∈ rows, '\n' ∉ row.toList
  source : text = "  /**\n" ++ joinLines rows ++ "   */\n" ++ code
  /-- The first closing mark in the text is the one behind the rows. -/
  ends : readComment text.toList =
    some (("  /**\n" ++ joinLines rows ++ "   ").toList, ("\n" ++ code).toList)

theorem source_told (method : Method) {options : ClientOptions} (typed : options.typed = true) :
    SummaryTold method.summary (method.code options) (method.source options)
      (method.commentLines true) := by
  have source := source_comment method options
  rw [typed] at source
  have told : Rows method.summary (method.commentLines true) := commentLines_rows method
  refine ⟨told, told.feed, source, ?_⟩
  have letters : (method.source options).toList =
      ("  /**\n" ++ joinLines (method.commentLines true) ++ "   ").toList ++
        '*' :: '/' :: ("\n" ++ method.code options).toList := by
    simp [source]
  have opening : Apart "  /**\n".toList := by decide
  have indentation : Apart "   ".toList := by decide
  rw [letters, readComment_iff, String.toList_append, String.toList_append,
    closes_after indentation, closes_before opening, closes_joinLines]
  rintro ⟨row, mem, closes⟩
  exact closes_summary mem closes

/-- Whatever the summary of an operation is, it is told row by row, the comment ends where it should,
and the code behind it and all that is said about the method is the same. -/
theorem summary_told {operation : Operation} {name : String}
    (called : operation.operationId = some name) (nonempty : name ≠ "") {options : ClientOptions}
    (typed : options.typed = true) (components : Components) (verb : HttpMethod) (path : String) :
    ∃ code typeNames warnings, ∀ summary : Option String, ∃ emitted rows,
      { operation with summary }.emit? components verb path = some emitted ∧
      SummaryTold (summary.getD "") code (emitted.method.source options) rows ∧
      emitted.typeNames = typeNames ∧ emitted.warnings = warnings := by
  have identified : operation.identifier? = some name := identifier_eq_some.mpr ⟨called, nonempty⟩
  refine ⟨(operation.method components verb path name).code options,
    sortedNames ((operation.shownSchemas components).flatMap SchemaNode.referenceNames),
    operation.warnings components verb path name, ?_⟩
  intro summary
  have named : { operation with summary }.identifier? = some name := identified
  have emitted : { operation with summary }.emit? components verb path = some {
      method := { operation with summary }.method components verb path name
      typeNames := sortedNames ((operation.shownSchemas components).flatMap SchemaNode.referenceNames)
      warnings := operation.warnings components verb path name } := by
    rw [Operation.emit?, named, Option.map_some]
    rfl
  have told := source_told ({ operation with summary }.method components verb path name) typed
  exact ⟨_, _, emitted, told, rfl, rfl⟩

def untoldOperation : Operation where
  operationId := some "listUsers"
  responses := [("204", .inline {})]

def closingSummary : String := "ends */ or*//*\r\n\n***/\nlast*\r"

theorem closing_summary_told : untoldOperation.operationId = some "listUsers" ∧ "listUsers" ≠ "" ∧
    ({} : ClientOptions).typed = true ∧
    (∃ code typeNames warnings, ∀ summary : Option String, ∃ emitted rows,
      { untoldOperation with summary }.emit? {} .get "/users" = some emitted ∧
      SummaryTold (summary.getD "") code (emitted.method.source {}) rows ∧
      emitted.typeNames = typeNames ∧ emitted.warnings = warnings) ∧
    ({ untoldOperation with summary := some closingSummary }.method {} .get "/users"
      "listUsers").commentLines true =
      ["   * ends *\\/ or*\\//*", "   *", "   * ***\\/", "   * last*\r"] :=
  ⟨rfl, by decide, rfl, summary_told rfl (by decide) rfl {} .get "/users", by decide +kernel⟩

end OpenApiClient
