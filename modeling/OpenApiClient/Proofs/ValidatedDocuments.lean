import OpenApiClient.Client.Generation
import OpenApiClient.Proofs.DocumentRules
import OpenApiClient.Proofs.RecordFields

/-! Documents that were validated.
Validation looks up keys of the raw value and the model is read from it; where both succeed they tell
the same. The lines of the types module that open a declaration are the heads of the schemas of the
components, in order, and what validation has passed has names that can stand in a script. -/
namespace OpenApiClient

theorem schemaName_isIdentifier {name : String} (h : SchemaName name) :
    Script.isIdentifier name = true := by
  obtain ⟨first, rest, same, start, all⟩ := h
  rw [Script.isIdentifier, same]
  simp only [Bool.and_eq_true, List.all_eq_true]
  constructor
  · simp [Script.startsIdentifier, letter_iff.mpr start]
  · intro c mem
    rcases all c mem with letter | digit
    · simp [Script.continuesIdentifier, Char.isAlphanum, letter_iff.mpr letter]
    · simp [Script.continuesIdentifier, Char.isAlphanum, digit_iff.mpr digit]

def headStart (typed : Bool) : String :=
  if typed then "export interface " else " * @typedef \x7bObject\x7d "

def declarationHead (typed : Bool) (name : String) : String :=
  headStart typed ++ name ++ if typed then " \x7b" else ""

def headsAmong (typed : Bool) (lines : List String) : List String :=
  lines.filter fun line => Begins (headStart typed) line

theorem headsAmong_append (typed : Bool) (lines rest : List String) :
    headsAmong typed (lines ++ rest) = headsAmong typed lines ++ headsAmong typed rest := by
  simp only [headsAmong, List.filter_append]

theorem headsAmong_flatMap (typed : Bool) (items : List α) (linesOf : α → List String) :
    headsAmong typed (items.flatMap linesOf) =
      items.flatMap fun item => headsAmong typed (linesOf item) := by
  simp only [headsAmong, List.filter_flatMap]

theorem headsAmong_none {typed : Bool} {lines : List String}
    (none : ∀ line ∈ lines, ¬ Begins (headStart typed) line) : headsAmong typed lines = [] := by
  refine List.filter_eq_nil_iff.mpr fun line mem => ?_
  simpa using none line mem

theorem headsAmong_head {typed : Bool} (before : List String) {after : List String} (name : String)
    (above : ∀ line ∈ before, ¬ Begins (headStart typed) line)
    (below : ∀ line ∈ after, ¬ Begins (headStart typed) line) :
    headsAmong typed (before ++ declarationHead typed name :: after) =
      [declarationHead typed name] := by
  have opens : Begins (headStart typed) (declarationHead typed name) := by
    rw [Begins, declarationHead, String.append_assoc, String.toList_append]
    exact List.prefix_append _ _
  have stays : headsAmong typed (declarationHead typed name :: after) =
      declarationHead typed name :: headsAmong typed after :=
    List.filter_cons_of_pos (by simpa using opens)
  rw [headsAmong_append, stays, headsAmong_none above, headsAmong_none below, List.nil_append]

theorem body_opens_nothing {typed : Bool} {properties : List Property} {shown : Property → String}
    {last : String} (each : ∀ property, ¬ Begins (headStart typed) (shown property))
    (ends : ¬ Begins (headStart typed) last) :
    ∀ line ∈ properties.map shown ++ [last], ¬ Begins (headStart typed) line := by
  intro line mem
  rcases List.mem_append.mp mem with mem | mem
  · obtain ⟨property, _, rfl⟩ := List.mem_map.mp mem
    exact each property
  · cases List.mem_singleton.mp mem
    exact ends

theorem fieldLine_opens_nothing (property : Property) :
    ¬ Begins (headStart true) property.fieldLine := by
  unfold Property.fieldLine
  simp [Begins, headStart, String.toList_append]

theorem tagLine_opens_nothing (property : Property) :
    ¬ Begins (headStart false) property.tagLine := by
  unfold Property.tagLine
  simp [Begins, headStart, String.toList_append]

theorem Declaration.headsAmong_lines (declaration : Declaration) (typed : Bool) :
    headsAmong typed (declaration.lines typed) = [declarationHead typed declaration.name] := by
  cases typed with
  | true =>
    exact headsAmong_head [""] declaration.name (by decide)
      (body_opens_nothing fieldLine_opens_nothing (by decide))
  | false =>
    have head : " * @typedef \x7bObject\x7d " ++ declaration.name =
        declarationHead false declaration.name := by
      simp [declarationHead, headStart]
    unfold lines
    rw [if_neg Bool.false_ne_true, head]
    exact headsAmong_head ["", "/**"] declaration.name (by decide)
      (body_opens_nothing tagLine_opens_nothing (by decide))

theorem Document.headsAmong_types (document : Document) (options : ClientOptions) :
    headsAmong options.typed (document.typesLines options) =
      document.components.schemas.map fun entry => declarationHead options.typed entry.1 := by
  have starts : headsAmong options.typed
      ["// Auto-generated types from OpenAPI specification"] = [] := by
    cases options.typed <;> decide
  have ends : headsAmong options.typed
      (if options.typed then [] else ["", "export \x7b\x7d;"]) = [] := by
    cases options.typed <;> decide
  rw [typesLines, headsAmong_append, headsAmong_append, starts, ends, List.nil_append,
    List.append_nil, headsAmong_flatMap]
  simp only [Declaration.headsAmong_lines]
  rw [← List.map_eq_flatMap, declarations, List.map_map]
  rfl

open Json (bind_ok)

/-- What a report and a document have in common. -/
structure Agreement (report : Report) (document : Document) : Prop where
  openapi : report.openapi = document.openapi
  title : report.title = document.info.title
  version : report.version = document.info.version
  pathCount : report.pathCount = document.paths.length
  schemaCount : report.schemaCount = document.components.schemas.length
  paths : ∀ entry ∈ document.paths, Begins "/" entry.1 ∧ entry.2.operations ≠ []
  schemas : ∀ entry ∈ document.components.schemas,
    SchemaName entry.1 ∧ Script.isIdentifier entry.1 = true
  distinct : (document.components.schemas.map Prod.fst).Nodup
  heads : ∀ options : ClientOptions, headsAmong options.typed (document.typesLines options) =
    (document.components.schemas.map Prod.fst).map (declarationHead options.typed)

theorem Decoder.map_ok {d : Decoder α} {f : α → β} {value : Json} {b : β}
    (h : (d.map f).ofJson value = .ok b) : ∃ a, d.ofJson value = .ok a ∧ b = f a := by
  change (d.ofJson value).map f = .ok b at h
  cases read : d.ofJson value with
  | error cause =>
    rw [read] at h
    cases h
  | ok a =>
    rw [read] at h
    cases h
    exact ⟨a, rfl, rfl⟩

theorem Document.slots :
    shape.Slot "openapi" .string Document.openapi
      (fun openapi document => { document with openapi }) ∧
    shape.Slot "info" Info.shape.decoder Document.info
      (fun info document => { document with info }) ∧
    shape.Slot "paths" (.fields PathItem.decoder) Document.paths
      (fun paths document => { document with paths }) ∧
    shape.Slot "components" Components.shape.decoder Document.components
      (fun components document => { document with components }) := by
  refine ⟨⟨rfl, fun _ _ => rfl, ?_⟩, ⟨rfl, fun _ _ => rfl, ?_⟩, ⟨rfl, fun _ _ => rfl, ?_⟩,
    ⟨rfl, fun _ _ => rfl, ?_⟩⟩
  all_goals
    intro k ne d' known value change read record
    simp only [shape] at known
    split at known <;> cases known <;> obtain ⟨_, _, rfl⟩ := Decoder.map_ok read <;>
      first | rfl | exact absurd rfl ne

theorem Info.slots :
    shape.Slot "title" .string Info.title (fun title info => { info with title }) ∧
    shape.Slot "version" .string Info.version (fun version info => { info with version }) := by
  refine ⟨⟨rfl, fun _ _ => rfl, ?_⟩, ⟨rfl, fun _ _ => rfl, ?_⟩⟩
  all_goals
    intro k ne d' known value change read record
    simp only [shape] at known
    split at known <;> cases known <;> obtain ⟨_, _, rfl⟩ := Decoder.map_ok read <;>
      first | rfl | exact absurd rfl ne

theorem Components.slot_schemas :
    shape.Slot "schemas" (.fields SchemaNode.decoder) Components.schemas
      (fun schemas components => { components with schemas }) := by
  refine ⟨rfl, fun _ _ => rfl, ?_⟩
  intro k ne d' known value change read record
  simp only [shape] at known
  split at known <;> cases known <;> obtain ⟨_, _, rfl⟩ := Decoder.map_ok read <;>
    first | rfl | exact absurd rfl ne

/-- Named parts are those under the key, in number and by name; without the key there are none. -/
theorem readAt_fields {fields : List (String × Json)} {key : String} {d : Decoder α}
    {pairs : List (String × α)} (distinct : (Json.object fields).Distinct)
    (read : ReadAt fields key (.fields d) [] pairs) :
    FieldsRead d (fieldsOf ((Json.object fields).get? key)) pairs := by
  unfold ReadAt at read
  change FieldsRead d (fieldsOf (fields.lookup key)) pairs
  cases found : fields.lookup key with
  | none =>
    rw [found] at read
    rw [read]
    exact .nil
  | some value =>
    rw [found] at read
    obtain ⟨inner, rfl, each⟩ := Decoder.fields_ok (distinct.get? found) read
    exact each

theorem readAt_text {fields : List (String × Json)} {key text a : String}
    (read : ReadAt fields key .string "" a)
    (there : (Json.object fields).get? key = some (.string text)) : text = a := by
  change fields.lookup key = _ at there
  unfold ReadAt at read
  rw [there] at read
  cases read
  rfl

theorem addField_ne_nil {operations after : List (HttpMethod × Operation)} {field : String × Json}
    (h : PathItem.addField operations field = .ok after)
    (some : operations ≠ [] ∨ NamesMethod field.1) : after ≠ [] := by
  unfold PathItem.addField at h
  split at h
  · rename_i unnamed
    cases h
    rcases some with some | named
    · exact some
    · rw [namesMethod_iff, unnamed] at named
      cases named
  · obtain ⟨operation, _, h⟩ := bind_ok h
    split at h
    · rename_i there
      cases h
      rintro rfl
      cases there
    · cases h
      exact List.append_ne_nil_of_right_ne_nil _ (List.cons_ne_nil _ _)

theorem addFields_ne_nil {fields : List (String × Json)}
    {operations after : List (HttpMethod × Operation)}
    (h : fields.foldlM PathItem.addField operations = .ok after)
    (some : operations ≠ [] ∨ ∃ field ∈ fields, NamesMethod field.1) : after ≠ [] := by
  induction fields generalizing operations with
  | nil =>
    cases h
    rcases some with some | ⟨_, mem, _⟩
    · exact some
    · cases mem
  | cons field fields ih =>
    rw [List.foldlM_cons] at h
    obtain ⟨middle, first, rest⟩ := bind_ok h
    refine ih rest ?_
    rcases some with some | ⟨other, mem, named⟩
    · exact .inl (addField_ne_nil first (.inl some))
    · rcases List.mem_cons.mp mem with rfl | mem
      · exact .inl (addField_ne_nil first (.inr named))
      · exact .inr ⟨other, mem, named⟩

theorem pathItem_operations {path : String} {item : Json} {pathItem : PathItem}
    (distinct : item.Distinct) (sound : SoundPath path item)
    (read : PathItem.decoder.ofJson item = .ok pathItem) : pathItem.operations ≠ [] := by
  obtain ⟨pairs, raw, made⟩ := bind_ok read
  obtain ⟨fields, rfl, each⟩ := Decoder.fields_ok distinct raw
  obtain ⟨operations, added, made⟩ := bind_ok made
  cases made
  obtain ⟨entry, mem, named⟩ := sound.operation
  have key : entry.1 ∈ pairs.map Prod.fst := by
    rw [each.keys]
    exact List.mem_map.mpr ⟨entry, mem, rfl⟩
  obtain ⟨pair, inside, same⟩ := List.mem_map.mp key
  exact addFields_ne_nil added (.inr ⟨pair, inside, same ▸ named⟩)

theorem fieldsOf_nodup {value : Option Json} (distinct : ∀ inner, value = some inner → inner.Distinct) :
    ((fieldsOf value).map Prod.fst).Nodup := by
  match value with
  | some (.object fields) => exact (distinct _ rfl).keys
  | none | some .null | some (.bool _) | some (.number _) | some (.string _) | some (.array _) =>
    exact List.nodup_nil

theorem fieldsOf_distinct {value : Option Json} {field : String × Json}
    (distinct : ∀ inner, value = some inner → inner.Distinct) (mem : field ∈ fieldsOf value) :
    field.2.Distinct := by
  match value with
  | some (.object fields) =>
    cases distinct _ rfl with
    | object _ all => exact all field mem
  | none | some .null | some (.bool _) | some (.number _) | some (.string _) | some (.array _) =>
    cases mem

section Reading

variable {raw : Json} {document : Document}

theorem document_fields (object : ∃ fields, raw = .object fields)
    (read : Document.ofJson raw = .ok document) : ∃ fields, raw = .object fields ∧
      Document.shape.ofJson (.object fields) = .ok document := by
  obtain ⟨fields, rfl⟩ := object
  refine ⟨fields, rfl, ?_⟩
  unfold Document.ofJson at read
  split at read
  · rename_i found
    cases read
    exact found
  · cases read

theorem document_openapi (distinct : raw.Distinct) (sound : Sound raw)
    (read : Document.ofJson raw = .ok document) : textOf (raw.get? "openapi") = document.openapi := by
  obtain ⟨text, there, _⟩ := sound.openapi
  obtain ⟨fields, rfl, shaped⟩ := document_fields (Json.object_of_get? there) read
  rw [there]
  exact readAt_text (Document.slots.1.ofJson distinct.keys shaped) there

theorem document_info (distinct : raw.Distinct) (sound : Sound raw)
    (read : Document.ofJson raw = .ok document) :
    textOf ((raw.get? "info").bind (·.get? "title")) = document.info.title ∧
    textOf ((raw.get? "info").bind (·.get? "version")) = document.info.version := by
  obtain ⟨info, title, there, titled, _⟩ := sound.title
  obtain ⟨info', version, there', versioned, _⟩ := sound.version
  cases there.symm.trans there'
  obtain ⟨fields, rfl, shaped⟩ := document_fields (Json.object_of_get? there) read
  have inner := distinct.get? there
  obtain ⟨texts, rfl⟩ := Json.object_of_get? titled
  rw [there, Option.bind_some, Option.bind_some, titled, versioned]
  have infoRead := Document.slots.2.1.ofJson distinct.keys shaped
  change fields.lookup "info" = _ at there
  unfold ReadAt at infoRead
  rw [there] at infoRead
  exact ⟨readAt_text (Info.slots.1.ofJson inner.keys infoRead) titled,
    readAt_text (Info.slots.2.ofJson inner.keys infoRead) versioned⟩

theorem document_paths (distinct : raw.Distinct) (object : ∃ fields, raw = .object fields)
    (read : Document.ofJson raw = .ok document) :
    FieldsRead PathItem.decoder (fieldsOf (raw.get? "paths")) document.paths := by
  obtain ⟨fields, rfl, shaped⟩ := document_fields object read
  exact readAt_fields distinct (Document.slots.2.2.1.ofJson distinct.keys shaped)

theorem document_schemas (distinct : raw.Distinct) (object : ∃ fields, raw = .object fields)
    (components : ∀ value, raw.get? "components" = some value → ∃ fields, value = .object fields)
    (read : Document.ofJson raw = .ok document) :
    FieldsRead SchemaNode.decoder (fieldsOf (schemasOf raw)) document.components.schemas := by
  obtain ⟨fields, rfl, shaped⟩ := document_fields object read
  have partsRead := Document.slots.2.2.2.ofJson distinct.keys shaped
  unfold ReadAt at partsRead
  unfold schemasOf
  cases found : fields.lookup "components" with
  | none =>
    have absent : (Json.object fields).get? "components" = none := found
    rw [found] at partsRead
    rw [absent, partsRead]
    exact .nil
  | some value =>
    have there : (Json.object fields).get? "components" = some value := found
    obtain ⟨parts, rfl⟩ := components value there
    have inner := distinct.get? there
    rw [found] at partsRead
    rw [there]
    exact readAt_fields inner (Components.slot_schemas.ofJson inner.keys partsRead)

theorem sound_paths (distinct : raw.Distinct) (sound : Sound raw) {paths : List (String × PathItem)}
    (read : FieldsRead PathItem.decoder (fieldsOf (raw.get? "paths")) paths)
    {entry : String × PathItem} (mem : entry ∈ paths) :
    Begins "/" entry.1 ∧ entry.2.operations ≠ [] := by
  obtain ⟨item, inside, itemRead⟩ := read.of_mem mem
  have soundItem := sound.path _ inside
  have distinctItem := fieldsOf_distinct (fun _ => distinct.get?) inside
  exact ⟨soundItem.slash, pathItem_operations distinctItem soundItem itemRead⟩

theorem schemas_nodup (distinct : raw.Distinct) {schemas : List (String × SchemaNode)}
    (read : FieldsRead SchemaNode.decoder (fieldsOf (schemasOf raw)) schemas) :
    (schemas.map Prod.fst).Nodup := by
  rw [read.keys]
  refine fieldsOf_nodup fun value there => ?_
  obtain ⟨parts, there, same⟩ := Option.bind_eq_some_iff.mp there
  exact (distinct.get? there).get? same

end Reading

/-- A document that is read from an accepted value tells what the report tells. The keys of an object
are distinct, as parsing leaves them (`Json.parse_sound`). -/
theorem validated_agreement {raw : Json} {report : Report} {document : Document}
    (distinct : raw.Distinct)
    (components : ∀ value, raw.get? "components" = some value → ∃ fields, value = .object fields)
    (validated : validate raw = .ok report) (read : Document.ofJson raw = .ok document) :
    Agreement report document := by
  obtain ⟨holds, rfl⟩ := ((validate_obeys raw).exact.1 report).mp validated
  have sound := sound_iff.mpr holds
  obtain ⟨_, there, _⟩ := sound.openapi
  have object := Json.object_of_get? there
  have paths := document_paths distinct object read
  have schemas := document_schemas distinct object components read
  constructor
  · exact document_openapi distinct sound read
  · exact (document_info distinct sound read).1
  · exact (document_info distinct sound read).2
  · exact paths.length_eq
  · exact schemas.length_eq
  · intro entry mem
    exact sound_paths distinct sound paths mem
  · intro entry mem
    obtain ⟨schema, inside, _⟩ := schemas.of_mem mem
    have name := (sound.schema _ inside).name
    exact ⟨name, schemaName_isIdentifier name⟩
  · exact schemas_nodup distinct schemas
  · intro options
    rw [document.headsAmong_types, List.map_map]
    rfl

def usersDocument : Json :=
  .object [("openapi", .string "3.0.0"),
    ("info", .object [("title", .string "Users"), ("version", .string "1")]),
    ("paths", .object [("/users", .object [("GET", .object [("responses", .object [])])])]),
    ("components", .object [("schemas", .object [("User", .object [("type", .string "object")])])])]

theorem usersDocument_distinct : usersDocument.Distinct := by
  have single (key : String) {value : Json} (h : value.Distinct) :
      (Json.object [(key, value)]).Distinct := .object (by simp) (by simpa using h)
  have empty : (Json.object []).Distinct := .object List.nodup_nil (by simp)
  have info : (Json.object [("title", .string "Users"), ("version", .string "1")]).Distinct :=
    .object (by decide) (by simp [Json.Distinct.string])
  have paths := single "/users" (single "GET" (single "responses" empty))
  have user : (Json.object [("type", .string "object")]).Distinct := single "type" .string
  have components := single "schemas" (single "User" user)
  refine .object (by decide) ?_
  simp only [List.forall_mem_cons]
  exact ⟨.string, info, paths, components, by simp⟩

theorem usersDocument_read : ∃ document, Document.ofJson usersDocument = .ok document := by
  have user : SchemaNode.ofJson (.object [("type", .string "object")]) =
      some (.inline { type := some (.single .object) }) := by
    have inline : SchemaNode.referenceOfJson (.object [("type", .string "object")]) = none := rfl
    rw [SchemaNode.ofJson, inline, Schema.ofJson]
    rfl
  have schemas : (Decoder.fields SchemaNode.decoder).ofJson
      (.object [("User", .object [("type", .string "object")])]) =
      .ok [("User", .inline { type := some (.single .object) })] := by
    simp only [Decoder.fields, SchemaNode.decoder, Decoder.buffered, List.mapM_cons, List.mapM_nil,
      user]
    rfl
  refine ⟨{
    openapi := "3.0.0"
    info := { title := "Users", version := "1" }
    paths := [("/users", ⟨[(.get, {})]⟩)]
    components := { schemas := [("User", .inline { type := some (.single .object) })] } }, ?_⟩
  simp only [usersDocument, Document.ofJson, Shape.ofJson, List.foldlM_cons, List.foldlM_nil,
    Shape.setJson, Document.shape, Components.shape, Shape.decoder, Decoder.map, schemas]
  rfl

theorem usersDocument_agreement : ∃ report document, validate usersDocument = .ok report ∧
    Document.ofJson usersDocument = .ok document ∧ Agreement report document := by
  have validated : validate usersDocument =
      .ok ⟨"3.0.0", "Users", "1", 1, 1, [.noSuccessResponse "GET" "/users"]⟩ := by decide +kernel
  obtain ⟨document, read⟩ := usersDocument_read
  have components : ∀ value, usersDocument.get? "components" = some value →
      ∃ fields, value = .object fields := by
    intro value there
    cases there
    exact ⟨_, rfl⟩
  exact ⟨_, document, validated, read,
    validated_agreement usersDocument_distinct components validated read⟩

end OpenApiClient
