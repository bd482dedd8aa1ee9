import OpenApiClient.Proofs.LineEnds
import OpenApiClient.Proofs.ValidatedDocuments

/-! The lines of the types module in typed output.
Cut at its line feeds, the module is its first line and the interfaces in order, with one line for each
property: what the document brings onto a line has no line feed any more. The key of a property is read
back as its name, unless the name has a carriage return. -/
namespace OpenApiClient

open Script (escapeQuotedChar quotedStep readKey readQuoted readTo)

section Stuck

variable {α : Type} {mark : Char} {step : List Char → Option (List α × List Char)}

theorem readTo_refused {text : List Char} (other : text.head? ≠ some mark) (refused : step text = none) :
    readTo mark step text = none := by
  rw [readTo, if_neg other, refused]

theorem readTo_stuck {text after : List Char} {first : List α} (other : text.head? ≠ some mark)
    (taken : step text = some (first, after)) (stuck : readTo mark step after = none) :
    readTo mark step text = none := by
  rw [readTo, if_neg other, taken]
  simp [stuck]

end Stuck

theorem readQuoted_returned {text : List Char} (h : '\r' ∈ text) (rest : List Char) :
    readQuoted (text.flatMap escapeQuotedChar ++ rest) = none := by
  induction text with
  | nil => cases h
  | cons c text ih =>
    have running : ((c :: text).flatMap escapeQuotedChar ++ rest).head? ≠ some '\'' := by
      unfold escapeQuotedChar
      rw [List.flatMap_cons]
      split_ifs <;> simp_all
    by_cases here : c = '\r'
    · subst here
      exact readTo_refused running rfl
    · have later := (List.mem_cons.mp h).resolve_left (Ne.symm here)
      have taken := Script.quotedStep_escaped here (text.flatMap escapeQuotedChar ++ rest)
      rw [← List.append_assoc, ← List.flatMap_cons] at taken
      exact readTo_stuck running taken (ih later)

theorem splitLineFeeds_joinLines {lines : List String} (h : ∀ line ∈ lines, '\n' ∉ line.toList) :
    Text.splitLineFeeds (joinLines lines).toList = lines.map String.toList ++ [[]] := by
  induction lines with
  | nil => rfl
  | cons line lines ih =>
    obtain ⟨here, others⟩ := List.forall_mem_cons.mp h
    have text : (joinLines (line :: lines)).toList = line.toList ++ '\n' :: (joinLines lines).toList := by
      simp [joinLines_cons]
    rw [text, Text.splitLineFeeds_feed here, ih others]
    rfl

theorem feed_underBrackets (depth : ℕ) (text : String) :
    '\n' ∈ (underBrackets depth text).toList ↔ '\n' ∈ text.toList := by
  unfold underBrackets
  split <;> simp

theorem feed_builtIn {text : String} (h : BuiltIn text) : '\n' ∉ text.toList := by
  cases h with
  | word word =>
    have plain : ∀ text ∈ ["any", "string", "number", "boolean", "object", "Record<string, any>"],
        '\n' ∉ text.toList := by decide
    exact plain text word
  | union values _ =>
    rw [String.toList_intercalate, Text.mem_intercalate (by decide)]
    rintro ⟨part, mem, feed⟩
    simp only [List.map_map, List.mem_map, Function.comp_apply] at mem
    obtain ⟨value, _, rfl⟩ := mem
    exact Script.feed_singleQuoted _ feed

theorem referenceName_subset (path : String) : (referenceName path).toList ⊆ path.toList := by
  intro c mem
  rw [referenceName, String.toList_ofList, List.mem_reverse] at mem
  exact List.mem_reverse.mp ((List.takeWhile_sublist _).subset mem)

theorem feed_type {node : SchemaNode}
    (paths : ∀ depth path, node.Reaches depth path → '\n' ∉ path.toList) :
    '\n' ∉ node.typeExpr.text.toList := by
  by_cases refers : ∃ depth path, node.Reaches depth path
  · obtain ⟨depth, path, reaches⟩ := refers
    rw [(reaches_names reaches).2, feed_underBrackets]
    exact fun mem => paths depth path reaches (referenceName_subset path mem)
  · obtain ⟨_, depth, base, plain, text⟩ :=
      unreaching_names node fun depth path h => refers ⟨depth, path, h⟩
    rw [text, feed_underBrackets]
    exact feed_builtIn plain

/-- What stands behind the key of a property: a mark unless it is required, its type, and its
description as a remark. -/
def behindKey (schema : Schema) (entry : String × SchemaNode) : String :=
  (if entry.1 ∈ schema.required then "" else "?") ++ ": " ++ entry.2.typeExpr.text ++ ";"
    ++ entry.2.description.elim "" fun description => " // " ++ oneLine description

/-- The line of a property. Its key is read back, and as the name, just if that has no carriage
return. -/
structure InterfaceLine (schema : Schema) (entry : String × SchemaNode) (line : String) : Prop where
  shape : ∃ key, line = "  " ++ key ++ behindKey schema entry ∧
    (Script.isIdentifier entry.1 = true ∧ key = entry.1 ∨
      Script.isIdentifier entry.1 = false ∧ key = Script.singleQuoted entry.1)
  read : '\r' ∉ entry.1.toList →
    readKey (line.toList.drop 2) = some (entry.1.toList, (behindKey schema entry).toList)
  unread : '\r' ∈ entry.1.toList → readKey (line.toList.drop 2) = none

/-- The lines of an interface. A reference has no properties of its own. -/
inductive InterfaceLines : String × SchemaNode → List String → Prop where
  | inline {name schema lines} : List.Forall₂ (InterfaceLine schema) schema.properties lines →
      InterfaceLines (name, .inline schema)
        ("" :: ("export interface " ++ name ++ " \x7b") :: lines ++ ["\x7d"])
  | reference (name path description) :
      InterfaceLines (name, .reference path description)
        ["", "export interface " ++ name ++ " \x7b", "\x7d"]

def Document.PlainPaths (document : Document) : Prop :=
  ∀ name schema, (name, .inline schema) ∈ document.components.schemas →
    ∀ entry ∈ schema.properties, ∀ depth path, entry.2.Reaches depth path → '\n' ∉ path.toList

theorem fieldLine_split (schema : Schema) (entry : String × SchemaNode) :
    (schema.property entry).fieldLine =
      "  " ++ (schema.property entry).key ++ behindKey schema entry := by
  have marked : schema.isRequired entry.1 = true ↔ entry.1 ∈ schema.required := by
    simp [Schema.isRequired]
  simp only [Property.fieldLine, behindKey, Schema.property, marked, String.append_assoc]

theorem behindKey_stops (schema : Schema) (entry : String × SchemaNode) :
    ∀ c, (behindKey schema entry).toList.head? = some c → Foreign c := by
  intro c head
  unfold behindKey at head
  split_ifs at head
  · obtain rfl : ':' = c := by simpa using head
    decide
  · obtain rfl : '?' = c := by simpa using head
    decide

theorem fieldLine_interface (schema : Schema) (entry : String × SchemaNode) :
    InterfaceLine schema entry (schema.property entry).fieldLine := by
  have letters : (schema.property entry).fieldLine.toList.drop 2 =
      (schema.property entry).key.toList ++ (behindKey schema entry).toList := by
    simp [fieldLine_split]
  constructor
  · refine ⟨_, fieldLine_split schema entry, ?_⟩
    unfold Property.key
    cases plain : Script.isIdentifier entry.1 with
    | true => exact .inl ⟨rfl, if_pos plain⟩
    | false => exact .inr ⟨rfl, if_neg (by simp [Schema.property, plain])⟩
  · intro line
    rw [letters]
    exact (property_key (schema.property entry)).read line (behindKey_stops schema entry)
  · intro returned
    have quoted : (schema.property entry).key = Script.singleQuoted entry.1 := by
      rcases Script.keyFor_iff.mp (property_key (schema.property entry)) with ⟨_, word⟩ | quoted
      · exact absurd (by decide : Foreign '\r') (word.2 '\r' returned)
      · exact quoted
    rw [letters, quoted, Script.singleQuoted_letters, List.cons_append, readKey, List.head?_cons,
      if_pos rfl, List.tail_cons, List.append_assoc]
    exact readQuoted_returned returned _

def interfaceOf (entry : String × SchemaNode) : List String :=
  (Declaration.mk entry.1 entry.2.properties).lines true

theorem interfaceOf_lines (name : String) (node : SchemaNode) :
    InterfaceLines (name, node) (interfaceOf (name, node)) := by
  cases node with
  | reference path description => exact .reference name path description
  | inline schema =>
    have lines : interfaceOf (name, .inline schema) =
        "" :: ("export interface " ++ name ++ " \x7b")
          :: schema.properties.map (fun entry => (schema.property entry).fieldLine) ++ ["\x7d"] := by
      rw [interfaceOf, Declaration.lines, if_pos rfl, SchemaNode.properties, List.map_map]
      rfl
    rw [lines]
    refine .inline ?_
    rw [List.forall₂_map_right_iff, List.forall₂_same]
    exact fun entry _ => fieldLine_interface schema entry

theorem feed_fieldLine (schema : Schema) {entry : String × SchemaNode}
    (paths : ∀ depth path, entry.2.Reaches depth path → '\n' ∉ path.toList) :
    '\n' ∉ (schema.property entry).fieldLine.toList := by
  have key := (property_key (schema.property entry)).lines.1
  have type := feed_type paths
  have remark : '\n' ∉ (entry.2.description.elim "" fun description =>
      " // " ++ oneLine description).toList := by
    cases entry.2.description with
    | none => decide
    | some description => simpa [oneLine] using Text.feed_singleLine description.toList
  have mark : '\n' ∉ (if entry.1 ∈ schema.required then "" else "?").toList := by
    split <;> decide
  simp [fieldLine_split, behindKey, key, type, remark, mark]

theorem feed_schemaName {name : String} (h : SchemaName name) : '\n' ∉ name.toList := by
  intro mem
  have inside := isIdentifier_inside (schemaName_isIdentifier h) '\n' mem
  exact absurd inside (by decide)

theorem feed_interface {name : String} {node : SchemaNode} (named : SchemaName name)
    (paths : ∀ schema, node = .inline schema → ∀ entry ∈ schema.properties, ∀ depth path,
      entry.2.Reaches depth path → '\n' ∉ path.toList) :
    ∀ line ∈ interfaceOf (name, node), '\n' ∉ line.toList := by
  have head : '\n' ∉ ("export interface " ++ name ++ " \x7b").toList := by
    simp [feed_schemaName named]
  have properties : ∀ property ∈ node.properties, '\n' ∉ property.fieldLine.toList := by
    intro property mem
    cases node with
    | reference => cases mem
    | inline schema =>
      obtain ⟨entry, there, rfl⟩ := List.mem_map.mp mem
      exact feed_fieldLine schema (paths schema rfl entry there)
  simp only [interfaceOf, Declaration.lines, if_pos, List.forall_mem_append, List.forall_mem_cons,
    List.forall_mem_map]
  exact ⟨⟨⟨by decide, head, List.forall_mem_nil _⟩, properties⟩, by decide, List.forall_mem_nil _⟩

/-- Cut at its line feeds, the module is its first line and then, for each schema in order, the lines
of its interface. -/
theorem interfaces_lined {document : Document} {options : ClientOptions} (typed : options.typed = true)
    (names : ∀ entry ∈ document.components.schemas, SchemaName entry.1) (paths : document.PlainPaths) :
    ∃ blocks, Text.splitLineFeeds (document.typesModule options).toList =
        ("// Auto-generated types from OpenAPI specification" :: blocks.flatten).map String.toList
          ++ [[]] ∧
      List.Forall₂ InterfaceLines document.components.schemas blocks := by
  have whole : document.typesLines options = "// Auto-generated types from OpenAPI specification" ::
      (document.components.schemas.map interfaceOf).flatten := by
    rw [Document.typesLines, typed, if_pos rfl, List.append_nil, Document.declarations,
      List.flatMap_map, List.flatMap_def]
    rfl
  refine ⟨document.components.schemas.map interfaceOf, ?_, ?_⟩
  · rw [Document.typesModule, whole]
    apply splitLineFeeds_joinLines
    refine List.forall_mem_cons.mpr ⟨by decide, ?_⟩
    intro line mem
    obtain ⟨block, entered, inside⟩ := List.mem_flatten.mp mem
    obtain ⟨⟨name, node⟩, there, rfl⟩ := List.mem_map.mp entered
    refine feed_interface (names _ there) ?_ line inside
    rintro schema rfl
    exact paths name schema there
  · rw [List.forall₂_map_right_iff, List.forall₂_same]
    exact fun entry _ => interfaceOf_lines entry.1 entry.2

def mixedSchemas : Document where
  components := { schemas := [
    ("Alias", .reference "#/components/schemas/User" none),
    ("Empty", .inline {}),
    ("User", .inline {
      required := ["id"]
      properties := [
        ("id", .inline { type := some (.single .string), description := some " told\r\n\n in lines " }),
        ("a\n\x7d", .inline {
          type := some (.single .string), enumValues := [.string "x\n\x7d", .string "it's"] }),
        ("friends", .inline {
          type := some (.single .array)
          items := some (.reference "#/components/schemas/User" none) })] })] }

theorem mixedSchemas_plain : mixedSchemas.PlainPaths := by
  intro name schema mem entry inside depth path reaches
  simp only [mixedSchemas, List.mem_cons, Prod.mk.injEq, reduceCtorEq, and_false,
    SchemaNode.inline.injEq, List.not_mem_nil, or_false, false_or] at mem
  rcases mem with ⟨_, rfl⟩ | ⟨_, rfl⟩
  · cases inside
  · simp only [List.mem_cons, List.not_mem_nil, or_false] at inside
    rcases inside with rfl | rfl | rfl
    · cases reaches with
      | items array _ _ => cases array
    · cases reaches with
      | items array _ _ => cases array
    · cases reaches with
      | items _ items inner =>
        cases items
        cases inner
        decide

theorem mixedSchemas_lined : ({} : ClientOptions).typed = true ∧
    (∀ entry ∈ mixedSchemas.components.schemas, SchemaName entry.1) ∧ mixedSchemas.PlainPaths ∧
    (∃ blocks, Text.splitLineFeeds (mixedSchemas.typesModule {}).toList =
        ("// Auto-generated types from OpenAPI specification" :: blocks.flatten).map String.toList
          ++ [[]] ∧
      List.Forall₂ InterfaceLines mixedSchemas.components.schemas blocks) ∧
    mixedSchemas.typesLines {} = ["// Auto-generated types from OpenAPI specification", "",
      "export interface Alias \x7b", "\x7d", "", "export interface Empty \x7b", "\x7d", "",
      "export interface User \x7b", "  id: string; // told  in lines",
      "  'a\\n\x7d'?: 'x\\n\x7d' | 'it\\'s';", "  friends?: User[];", "\x7d"] := by
  have names : ∀ entry ∈ mixedSchemas.components.schemas, SchemaName entry.1 := by
    simp only [mixedSchemas, List.forall_mem_cons, ← isSchemaName_iff]
    exact ⟨by decide, by decide, by decide, List.forall_mem_nil _⟩
  exact ⟨rfl, names, mixedSchemas_plain, interfaces_lined rfl names mixedSchemas_plain,
    by decide +kernel⟩

theorem returned_key_unread : ({} : ClientOptions).typed = true ∧
    (∀ entry ∈ (remarkDocument "a\rb" "told" []).components.schemas, SchemaName entry.1) ∧
    (remarkDocument "a\rb" "told" []).PlainPaths ∧
    ∃ line, (remarkDocument "a\rb" "told" []).typesModule {} =
      "// Auto-generated types from OpenAPI specification\n\nexport interface Remark \x7b\n"
        ++ line ++ "\n\x7d\n" ∧
    line = "  'a\rb'?: string; // told" ∧ readKey (line.toList.drop 2) = none := by
  have line := fieldLine_interface {} ("a\rb", .inline
    { type := some (.single .string), description := some "told" })
  refine ⟨rfl, ?_, ?_, _, by decide +kernel, by decide +kernel, line.unread (by decide)⟩
  · simp only [remarkDocument, List.forall_mem_cons, ← isSchemaName_iff]
    exact ⟨by decide, List.forall_mem_nil _⟩
  · intro name schema mem entry inside depth path reaches
    obtain ⟨_, rfl⟩ : name = "Remark" ∧ _ := by simpa [remarkDocument] using mem
    obtain rfl := List.mem_singleton.mp inside
    cases reaches with
    | items array _ _ => cases array

end OpenApiClient
