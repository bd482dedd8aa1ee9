import OpenApiClient.Proofs.MethodBodies
import OpenApiClient.Proofs.TypeTexts

/-! Texts between quotes, and keys.
A literal is written by replacing one character after the other, and is read back to its last quote as
the text it was written for. Keys are read back, too: a name stands for itself or is quoted. Only a
carriage return is in the way, which no string may hold and which is not escaped. -/
namespace OpenApiClient

namespace Script

theorem replaceAll_char (c : Char) (replacement text : List Char) :
    Text.replaceAll [c] replacement text =
      text.flatMap fun d => if d = c then replacement else [d] := by
  rw [Text.replaceAll]
  induction text with
  | nil => rfl
  | cons d text ih =>
    have single : [c].isPrefixOf (d :: text) = decide (d = c) := by
      rw [List.isPrefixOf, List.isPrefixOf, Bool.and_true, beq_eq_decide, decide_eq_decide]
      exact eq_comm
    rw [Text.replaceFrom, List.flatMap_cons, single]
    simp only [decide_eq_true_eq, List.length_singleton, Nat.sub_self, ih]
    split <;> rfl

/-- No replacement touches what one before it has written. -/
theorem escape_passes (text : String) : (escapeSingleQuoted text).toList =
    Text.replaceAll ['\n'] ['\\', 'n'] (Text.replaceAll ['\''] ['\\', '\'']
      (Text.replaceAll ['\\'] ['\\', '\\'] text.toList)) := by
  rw [escapeSingleQuoted, String.toList_ofList, replaceAll_char, replaceAll_char, replaceAll_char,
    List.flatMap_assoc, List.flatMap_assoc]
  apply List.flatMap_congr
  intro c _
  by_cases backslash : c = '\\'
  · subst backslash
    rfl
  by_cases quote : c = '\''
  · subst quote
    rfl
  by_cases feed : c = '\n'
  · subst feed
    rfl
  simp [escapeQuotedChar, backslash, quote, feed]

theorem singleQuoted_letters (text : String) : (singleQuoted text).toList =
    '\'' :: (text.toList.flatMap escapeQuotedChar ++ ['\'']) := by
  simp [singleQuoted, escapeSingleQuoted]

theorem mem_singleQuoted {c : Char} (h : c ∉ ['\\', '\'', '\n', 'n']) (text : String) :
    c ∈ (singleQuoted text).toList ↔ c ∈ text.toList := by
  simp only [List.mem_cons, List.not_mem_nil, or_false, not_or] at h
  obtain ⟨backslash, quote, feed, letter⟩ := h
  have each : ∀ d, c ∈ escapeQuotedChar d ↔ c = d := by
    intro d
    unfold escapeQuotedChar
    split_ifs <;> simp_all
  simp only [singleQuoted_letters, List.mem_cons, List.mem_append, List.mem_flatMap, each]
  simp [quote]

theorem feed_singleQuoted (text : String) : '\n' ∉ (singleQuoted text).toList := by
  have each : ∀ d, '\n' ∉ escapeQuotedChar d := by
    intro d
    unfold escapeQuotedChar
    split_ifs with backslash quote feed
    · decide
    · decide
    · decide
    · simpa [eq_comm] using feed
  simp [singleQuoted_letters, each]

/-- A text that is one string from its first character to its last, whatever comes behind it. -/
def Denotes (literal value : String) : Prop :=
  ∃ inside, literal.toList = '\'' :: inside ∧
    ∀ rest, readQuoted (inside ++ rest) = some (value.toList, rest)

theorem denotes_singleQuoted {text : String} (h : '\r' ∉ text.toList) :
    Denotes (singleQuoted text) text := by
  refine ⟨_, singleQuoted_letters text, ?_⟩
  intro rest
  rw [List.append_assoc]
  exact readQuoted_escaped h rest

/-- Two texts with one literal are the same: read loosely, it stands for either. -/
theorem singleQuoted_injective : Function.Injective singleQuoted := by
  intro text other same
  have letters := congrArg String.toList same
  rw [singleQuoted_letters, singleQuoted_letters, List.cons.injEq] at letters
  have read := readLoose_reads text []
  rw [letters.2, readLoose_reads other [], Option.some.injEq, Prod.mk.injEq] at read
  exact String.toList_injective read.1.symm

/-- A key for a name: the name itself, if it is a word, or the name between quotes. -/
inductive KeyFor (name : String) : String → Prop where
  | bare : IsWord name → KeyFor name name
  | quoted : KeyFor name (singleQuoted name)

def readKey (text : List Char) : Option (List Char × List Char) :=
  if text.head? = some '\'' then readQuoted text.tail
  else if text.takeWhile (¬ Foreign ·) = [] then none
  else some (text.takeWhile (¬ Foreign ·), text.dropWhile (¬ Foreign ·))

theorem quote_word {name : String} (h : IsWord name) : name.toList.head? ≠ some '\'' := by
  intro head
  obtain ⟨rest, letters⟩ := List.head?_eq_some_iff.mp head
  exact h.2 '\'' (by simp [letters]) (by decide)

theorem keyFor_iff {key name : String} :
    KeyFor name key ↔ key = name ∧ IsWord name ∨ key = singleQuoted name := by
  constructor
  · rintro (word | _)
    · exact .inl ⟨rfl, word⟩
    · exact .inr rfl
  · rintro (⟨rfl, word⟩ | rfl)
    · exact .bare word
    · exact .quoted

theorem KeyFor.unique {key name other : String} (h : KeyFor name key) (h' : KeyFor other key) :
    name = other := by
  have apart : ∀ name, ¬ IsWord (singleQuoted name) := by
    intro name word
    exact quote_word word (by rw [singleQuoted_letters, List.head?_cons])
  rcases keyFor_iff.mp h with ⟨rfl, word⟩ | rfl
  · rcases keyFor_iff.mp h' with ⟨same, _⟩ | rfl
    · exact same
    · exact absurd word (apart other)
  · rcases keyFor_iff.mp h' with ⟨rfl, word⟩ | same
    · exact absurd word (apart name)
    · exact singleQuoted_injective same

theorem KeyFor.read {key name : String} (h : KeyFor name key) (line : '\r' ∉ name.toList)
    {behind : List Char} (stops : ∀ c, behind.head? = some c → Foreign c) :
    readKey (key.toList ++ behind) = some (name.toList, behind) := by
  rcases keyFor_iff.mp h with ⟨rfl, word⟩ | rfl
  · have inside : ∀ c ∈ key.toList, decide (¬ Foreign c) = true := by
      intro c mem
      simpa using word.2 c mem
    have foreign : ∀ c, behind.head? = some c → decide (¬ Foreign c) = false := by simpa using stops
    have whole := span_stops inside foreign
    have other : (key.toList ++ behind).head? ≠ some '\'' := by
      rw [List.head?_append_of_ne_nil _ word.1]
      exact quote_word word
    rw [readKey, if_neg other, whole.1, whole.2, if_neg word.1]
  · obtain ⟨inside, letters, reads⟩ := denotes_singleQuoted line
    rw [readKey, letters, List.cons_append, List.head?_cons, if_pos rfl, List.tail_cons, reads]

theorem KeyFor.lines {key name : String} (h : KeyFor name key) :
    '\n' ∉ key.toList ∧ ('\r' ∈ key.toList ↔ '\r' ∈ name.toList) := by
  rcases keyFor_iff.mp h with ⟨rfl, word⟩ | rfl
  · exact ⟨fun mem => word.2 '\n' mem (by decide), Iff.rfl⟩
  · exact ⟨feed_singleQuoted name, mem_singleQuoted (by decide) name⟩

end Script

open Script (Denotes KeyFor readKey)

def KeyLine (indentation name line : String) : Prop :=
  ∃ key behind, line = indentation ++ key ++ behind ∧ KeyFor name key ∧
    ∃ c, behind.toList.head? = some c ∧ Foreign c

theorem KeyLine.read {indentation name line : String} (h : KeyLine indentation name line)
    (plain : '\r' ∉ name.toList) :
    ∃ behind, readKey (line.toList.drop indentation.length) = some (name.toList, behind) := by
  obtain ⟨key, behind, rfl, written, c, head, foreign⟩ := h
  have stops : ∀ d, behind.toList.head? = some d → Foreign d := by
    intro d next
    rw [head, Option.some.injEq] at next
    exact next ▸ foreign
  have letters : (indentation ++ key ++ behind).toList.drop indentation.length =
      key.toList ++ behind.toList := by
    simp [← String.length_toList]
  rw [letters]
  exact ⟨behind.toList, written.read plain stops⟩

theorem property_key (property : Property) : KeyFor property.name property.key := by
  unfold Property.key
  split
  · rename_i plain
    have held : property.name.toList ≠ [] := by
      intro none
      simp [Script.isIdentifier, none] at plain
    refine .bare ⟨held, ?_⟩
    intro c mem foreign
    have inside := isIdentifier_inside plain c mem
    rw [foreign.2.2] at inside
    cases inside
  · exact .quoted

theorem fieldLine_key (property : Property) : KeyLine "  " property.name property.fieldLine := by
  unfold Property.fieldLine
  refine ⟨property.key, (if property.required then "" else "?") ++ ": " ++ property.type.text ++ ";"
    ++ property.description.elim "" (fun description => " // " ++ oneLine description), ?_,
    property_key property, ?_⟩
  · simp only [String.append_assoc]
  · cases property.required with
    | true => exact ⟨':', by simp, by decide⟩
    | false => exact ⟨'?', by simp, by decide⟩

def entryLine (binding : Binding) : String := "      " ++ Method.queryEntry binding ++ ","

theorem entryLine_key {binding : Binding} (word : IsWord binding.ident) :
    KeyLine "      " binding.name (entryLine binding) := by
  unfold entryLine Method.queryEntry
  split
  · rename_i same
    rw [same] at word
    exact ⟨binding.name, ",", by rw [same], .bare word, ',', rfl, by decide⟩
  · refine ⟨Script.singleQuoted binding.name, ": " ++ binding.ident ++ ",", ?_, .quoted, ':', ?_,
      by decide⟩
    · simp only [String.append_assoc]
    · simp

def Schema.property (schema : Schema) (entry : String × SchemaNode) : Property :=
  ⟨entry.1, entry.2.typeExpr, schema.isRequired entry.1, entry.2.description⟩

theorem interface_stands {document : Document} {options : ClientOptions}
    (typed : options.typed = true) {name : String} {schema : Schema}
    (mem : (name, .inline schema) ∈ document.components.schemas) : ∃ before after,
      document.typesModule options = before ++ joinLines (("export interface " ++ name ++ " \x7b") ::
        schema.properties.map (fun entry => (schema.property entry).fieldLine) ++ ["\x7d"]) ++ after := by
  have declared : ⟨name, (SchemaNode.inline schema).properties⟩ ∈ document.declarations := by
    rw [Document.declarations]
    exact List.mem_map_of_mem mem
  obtain ⟨front, back, whole⟩ := List.append_of_mem declared
  have block : joinLines ((Declaration.mk name (SchemaNode.inline schema).properties).lines true) =
      "\n" ++ joinLines (("export interface " ++ name ++ " \x7b") ::
        schema.properties.map (fun entry => (schema.property entry).fieldLine) ++ ["\x7d"]) := by
    rw [Declaration.lines, if_pos rfl, SchemaNode.properties, List.map_map]
    simp only [List.cons_append, List.nil_append, joinLines_cons, String.empty_append]
    rfl
  refine ⟨joinLines (["// Auto-generated types from OpenAPI specification"] ++
      front.flatMap (Declaration.lines · true)) ++ "\n",
    joinLines (back.flatMap (Declaration.lines · true)), ?_⟩
  rw [Document.typesModule, Document.typesLines, typed, whole, List.flatMap_append,
    List.flatMap_cons, if_pos rfl, List.append_nil]
  simp only [joinLines_append, block, String.append_assoc]

def recordLines (entries : List String) : List String :=
  if entries.isEmpty then [] else "    const params = \x7b" :: entries ++ ["    \x7d;"]

theorem record_stands (method : Method) (options : ClientOptions) : ∃ before after,
    method.source options =
      before ++ joinLines (recordLines (method.queryBindings.map entryLine)) ++ after := by
  have record : recordLines (method.queryBindings.map entryLine) = method.queryLines := by
    rw [recordLines, List.isEmpty_map, Method.queryLines]
    rfl
  refine ⟨fill options method.headingPieces ++ "\x7b\n",
    joinLines (method.returnLines options.unwrapResponseData) ++ "  \x7d", ?_⟩
  have brace : "\x7b\n" = "\x7b" ++ "\n" := rfl
  rw [Method.source_eq_fill, fill_append, Method.fill_body, record, brace]
  simp only [String.append_assoc]

theorem entries_keys (taken : List String) (parameters : List Parameter) :
    List.Forall₂ (fun parameter line => KeyLine "      " parameter.name line) parameters
      ((bindParameters taken parameters).map entryLine) := by
  induction parameters generalizing taken with
  | nil => exact .nil
  | cons parameter rest ih =>
    have words : ∀ binding ∈ bindParameters taken (parameter :: rest), IsWord binding.ident := by
      intro binding mem
      exact bindParameters_word mem
    exact .cons (entryLine_key (words _ List.mem_cons_self)) (ih _)

theorem values_stand {node : SchemaNode} {schema : Schema} (gives : node.Gives schema)
    (declared : schema.primaryType = some .string) (held : schema.enumValues ≠ []) :
    ∃ depth, node.typeExpr.text = underBrackets depth (" | ".intercalate
      (schema.enumValues.map fun value => Script.singleQuoted value.literalText)) := by
  induction gives with
  | here schema =>
    refine ⟨0, ?_⟩
    rw [underBrackets_zero, typeExpr_scalar (by simp [declared]), Schema.scalarType, declared]
    simp [held, TypeExpr.text, Function.comp_def]
  | items array items _ ih =>
    obtain ⟨depth, text⟩ := ih declared held
    exact ⟨depth + 1, by rw [typeExpr_items array items, text_array text]⟩

def Document.baseUrl (document : Document) : String := document.serverUrl?.getD defaultBaseUrl

theorem joinLines_mem {line : String} {lines : List String} (h : line ∈ lines) :
    ∃ before after, joinLines lines = before ++ line ++ "\n" ++ after := by
  obtain ⟨front, back, rfl⟩ := List.append_of_mem h
  refine ⟨joinLines front, joinLines back, ?_⟩
  rw [joinLines_append, joinLines_cons]
  simp only [String.append_assoc]

theorem server_stands (document : Document) (options : ClientOptions) (typesModule : String) :
    ∃ before after, document.clientModule options typesModule =
      before ++ ("  constructor(baseURL" ++ annotation options "string" ++ " = "
        ++ Script.singleQuoted document.baseUrl ++ ") \x7b") ++ "\n" ++ after := by
  apply joinLines_mem
  simp [Document.clientLines, fixedMembers, Document.baseUrl]

structure LiteralsRead (document : Document) (options : ClientOptions) (typesModule : String) :
    Prop where
  /-- A literal ends with its last quote, whatever comes behind it, and stands for its text. -/
  literal : ∀ text : String, '\r' ∉ text.toList → Denotes (Script.singleQuoted text) text
  oneLine : ∀ text : String, '\n' ∉ (Script.singleQuoted text).toList
  distinct : Function.Injective Script.singleQuoted
  distinctKeys : ∀ name other key, KeyFor name key → KeyFor other key → name = other
  /-- Escaping is one replacement after the other: of backslashes, of quotes and of line feeds. -/
  passes : ∀ text, (Script.escapeSingleQuoted text).toList =
    Text.replaceAll ['\n'] ['\\', 'n'] (Text.replaceAll ['\''] ['\\', '\'']
      (Text.replaceAll ['\\'] ['\\', '\\'] text.toList))
  properties : options.typed = true → ∀ name schema,
    (name, .inline schema) ∈ document.components.schemas → ∃ before lines after,
      document.typesModule options = before ++ joinLines
        (("export interface " ++ name ++ " \x7b") :: lines ++ ["\x7d"]) ++ after ∧
      List.Forall₂ (fun entry line => '\r' ∉ entry.1.toList → ∃ behind,
        readKey (line.toList.drop 2) = some (entry.1.toList, behind)) schema.properties lines
  query : ∀ (operation : Operation) components verb path emitted,
    operation.emit? components verb path = some emitted → ∃ before lines after,
      emitted.method.source options = before ++ joinLines (recordLines lines) ++ after ∧
      List.Forall₂ (fun parameter line => '\r' ∉ parameter.name.toList → ∃ behind,
        readKey (line.toList.drop 6) = some (parameter.name.toList, behind))
        (operation.parametersIn components .query) lines
  values : ∀ (node : SchemaNode) schema, node.Gives schema → schema.primaryType = some .string →
    schema.enumValues ≠ [] → ∃ depth literals,
      node.typeExpr.text = underBrackets depth (" | ".intercalate literals) ∧
      List.Forall₂ (fun value literal => '\r' ∉ value.literalText.toList →
        Denotes literal value.literalText) schema.enumValues literals
  server : ∃ before literal after, document.clientModule options typesModule =
      before ++ ("  constructor(baseURL" ++ annotation options "string" ++ " = " ++ literal
        ++ ") \x7b") ++ "\n" ++ after ∧
    ('\r' ∉ document.baseUrl.toList → Denotes literal document.baseUrl)

/-- What stands between quotes is read back as the text of the document that it was written for. -/
theorem quoted_literals_read (document : Document) (options : ClientOptions) (typesModule : String) :
    LiteralsRead document options typesModule where
  literal _ plain := Script.denotes_singleQuoted plain
  oneLine := Script.feed_singleQuoted
  distinct := Script.singleQuoted_injective
  distinctKeys _ _ _ key key' := key.unique key'
  passes := Script.escape_passes
  properties := by
    intro typed name schema mem
    obtain ⟨before, after, stands⟩ := interface_stands typed mem
    refine ⟨before, _, after, stands, ?_⟩
    rw [List.forall₂_map_right_iff, List.forall₂_same]
    intro entry _ plain
    exact (fieldLine_key (schema.property entry)).read plain
  query := by
    intro operation components verb path emitted made
    obtain ⟨before, after, stands⟩ := record_stands emitted.method options
    refine ⟨before, _, after, stands, ?_⟩
    obtain ⟨name, _, rfl⟩ := Option.map_eq_some_iff.mp made
    apply (entries_keys _ _).imp
    intro parameter line key plain
    exact key.read plain
  values := by
    intro node schema gives declared held
    obtain ⟨depth, text⟩ := values_stand gives declared held
    refine ⟨depth, _, text, ?_⟩
    rw [List.forall₂_map_right_iff, List.forall₂_same]
    intro value _ plain
    exact Script.denotes_singleQuoted plain
  server := by
    obtain ⟨before, after, stands⟩ := server_stands document options typesModule
    exact ⟨before, _, after, stands, Script.denotes_singleQuoted⟩

example : Script.singleQuoted "\\'\\n\n\\" = "'\\\\\\'\\\\n\\n\\\\'" := by decide

end OpenApiClient
