import OpenApiClient.Proofs.AlikeValues
import OpenApiClient.Proofs.ValidatedDocuments

/-! Fields that the model does not know.
Every reader passes over them, each choice between alternatives falls the same way, and so values
that are alike describe the same document. -/
namespace OpenApiClient

/-- Whether a reading of a value comes to the same for every value that is alike. -/
def Overlooks (read : Json → β) (kind : NodeKind) (value : Json) : Prop :=
  ∀ value', Alike kind value value' → read value' = read value

section Readings

variable {kind : NodeKind} {value : Json}

theorem overlooks_verbatim (read : Json → β) : Overlooks read .verbatim value := by
  intro value' alike
  rw [alike.verbatim]

theorem Overlooks.option {read : Json → Option β} (h : Overlooks read kind value) :
    Overlooks (readOption read) kind value := by
  intro value' alike
  have inner := h value' alike
  cases alike with
  | same => rfl
  | _ => exact congrArg (Option.map some) inner

theorem Overlooks.named {read : Json → Option β}
    (h : ∀ fields, value = .object fields → ∀ field ∈ fields, Overlooks read kind field.2) :
    Overlooks (readNamed read) (.namesOf kind) value := by
  intro value' alike
  cases alike with
  | same => rfl
  | object _ each => exact congrArg (Option.bind · _) (each.mapM (h _ rfl))
  | _ => rfl

theorem FieldsAlike.readField {fields fields' : List (String × Json)} {inner : NodeKind}
    {missing : β} {read : Json → Option β} (h : FieldsAlike kind fields fields') (key : String)
    (known : kind.under key = some inner)
    (each : ∀ value, fields.lookup key = some value → Overlooks read inner value) :
    readField fields' key missing read = readField fields key missing read := by
  unfold OpenApiClient.readField
  rcases h.lookup known with ⟨absent, absent'⟩ | ⟨value, value', given, given', alike⟩
  · rw [absent, absent']
  · rw [given, given']
    exact each value given value' alike

theorem FieldsAlike.lookup_verbatim {fields fields' : List (String × Json)}
    (h : FieldsAlike kind fields fields') (key : String) (known : kind.under key = some .verbatim) :
    fields'.lookup key = fields.lookup key := by
  rcases h.lookup known with ⟨absent, absent'⟩ | ⟨value, value', given, given', alike⟩
  · rw [absent, absent']
  · rw [given, given', alike.verbatim]

theorem bind_alike {fields fields' : Option (List (String × Json))}
    (h : Option.Rel (FieldsAlike kind) fields fields') {read : List (String × Json) → Option β}
    (each : ∀ given given', fields = some given → FieldsAlike kind given given' →
      read given' = read given) : fields' >>= read = fields >>= read := by
  cases h with
  | none => rfl
  | some alike => exact each _ _ rfl alike

theorem fields_refl (fields : Option (List (String × Json))) :
    Option.Rel (FieldsAlike kind) fields fields := by
  cases fields with
  | none => exact .none
  | some fields => exact .some (.refl kind fields)

theorem Alike.keyed {value' : Json} (h : Alike kind value value') {keys : List String}
    (known : ∀ key ∈ keys, (kind.under key).isSome) :
    Option.Rel (FieldsAlike kind) (value.keyed? keys) (value'.keyed? keys) := by
  cases h with
  | same => exact fields_refl _
  | object _ each =>
    simp only [Json.keyed?]
    rw [each.knownKeysOnce known]
    split
    · exact .some each
    · exact .none
  | _ => exact .none

theorem Alike.record {value' : Json} (h : Alike kind value value') :
    Option.Rel (FieldsAlike kind) (value.record? kind.keys) (value'.record? kind.keys) := by
  cases h with
  | same => exact fields_refl _
  | object _ each =>
    simp only [Json.record?]
    rw [each.knownKeysOnce fun key mem => NodeKind.under_of_mem mem]
    split
    · exact .some each
    · exact .none
  | inOrder length fits each =>
    simp only [Json.record?]
    rw [length, if_pos fits, if_pos fits]
    exact .some each
  | list length =>
    simp only [Json.record?]
    rw [length]
    split
    · exact .some .nil
    · exact .none

end Readings

theorem referencePathOfJson_overlooks {kind : NodeKind} (refers : kind.refers) (value : Json) :
    Overlooks referencePathOfJson kind value := by
  intro value' alike
  have under := NodeKind.under_reference refers
  refine bind_alike (alike.keyed (by simp [under])) fun fields fields' _ each => ?_
  rw [each.lookup_verbatim _ under]

theorem SchemaNode.referenceOfJson_overlooks (value : Json) :
    Overlooks SchemaNode.referenceOfJson .schema value := by
  intro value' alike
  have known : ∀ key ∈ ["$ref", "description"], (NodeKind.schema.under key).isSome := by
    simp [NodeKind.under, NodeKind.refers, NodeKind.parts]
  refine bind_alike (alike.keyed known) fun fields fields' _ each => ?_
  rw [each.lookup_verbatim _ rfl, each.readField _ rfl fun _ _ => overlooks_verbatim _]

theorem Overlooks.additionalProperties {value : Json}
    (h : Overlooks SchemaNode.ofJson .schema value) :
    Overlooks AdditionalProperties.ofJson .schema value := by
  intro value' alike
  have inner := h value' alike
  cases alike with
  | same => rfl
  | _ => exact congrArg (Option.map AdditionalProperties.constrained) inner

theorem Schema.ofJson_alike {value value' : Json} (alike : Alike .schema value value')
    (inner : ∀ part, sizeOf part < sizeOf value → Overlooks SchemaNode.ofJson .schema part) :
    Schema.ofJson value' = Schema.ofJson value := by
  rw [Schema.ofJson_eq, Schema.ofJson_eq]
  refine bind_alike alike.record fun fields fields' given each => ?_
  have smaller {key : String} {part : Json} (there : fields.lookup key = some part) :
      sizeOf part < sizeOf value := Json.sizeOf_lt_of_record given there
  have verbatim (key : String) (known : NodeKind.schema.under key = some .verbatim) {β : Type}
      (missing : β) (read : Json → Option β) :
      readField fields' key missing read = readField fields key missing read :=
    each.readField key known fun _ _ => overlooks_verbatim _
  have properties : readField fields' "properties" [] (readNamed SchemaNode.ofJson) =
      readField fields "properties" [] (readNamed SchemaNode.ofJson) := by
    refine each.readField _ rfl fun part there => Overlooks.named fun parts same field mem => ?_
    subst same
    exact inner _ (Nat.lt_trans (Json.sizeOf_lt_of_field mem) (smaller there))
  have bound : readField fields' "additionalProperties" none (readOption AdditionalProperties.ofJson) =
      readField fields "additionalProperties" none (readOption AdditionalProperties.ofJson) :=
    each.readField _ rfl fun part there => (inner part (smaller there)).additionalProperties.option
  have items : readField fields' "items" none (readOption SchemaNode.ofJson) =
      readField fields "items" none (readOption SchemaNode.ofJson) :=
    each.readField _ rfl fun part there => (inner part (smaller there)).option
  rw [verbatim "type" rfl, verbatim "format" rfl, verbatim "description" rfl,
    verbatim "required" rfl, verbatim "enum" rfl, properties, bound, items]

theorem SchemaNode.ofJson_overlooks (value : Json) :
    Overlooks SchemaNode.ofJson .schema value := by
  -- On the size of the value: what a schema holds further schemas in is a proper part of it.
  induction size : sizeOf value using Nat.strongRecOn generalizing value with
  | ind n ih =>
    subst size
    intro value' alike
    have reference := referenceOfJson_overlooks value value' alike
    have schema := Schema.ofJson_alike alike fun part smaller => ih _ smaller part rfl
    rw [SchemaNode.ofJson, SchemaNode.ofJson, reference, schema]

theorem ParameterNode.ofJson_overlooks (value : Json) :
    Overlooks ParameterNode.ofJson .parameter value := by
  intro value' alike
  have reference := referencePathOfJson_overlooks rfl value value' alike
  have parameter : Parameter.ofJson value' = Parameter.ofJson value := by
    refine bind_alike alike.record fun fields fields' _ each => ?_
    rw [each.lookup_verbatim "name" rfl, each.lookup_verbatim "in" rfl]
    rw [each.readField "description" rfl fun _ _ => overlooks_verbatim _,
      each.readField "required" rfl fun _ _ => overlooks_verbatim _,
      each.readField "schema" rfl fun part _ => (SchemaNode.ofJson_overlooks part).option]
  rw [ParameterNode.ofJson, ParameterNode.ofJson, reference, parameter]

theorem MediaType.ofJson_overlooks (value : Json) : Overlooks MediaType.ofJson .mediaType value := by
  intro value' alike
  refine bind_alike alike.record fun fields fields' _ each => ?_
  rw [each.readField _ rfl fun part _ => (SchemaNode.ofJson_overlooks part).option]

theorem ResponseNode.ofJson_overlooks (value : Json) :
    Overlooks ResponseNode.ofJson .response value := by
  intro value' alike
  have reference := referencePathOfJson_overlooks rfl value value' alike
  have response : Response.ofJson value' = Response.ofJson value := by
    refine bind_alike alike.record fun fields fields' _ each => ?_
    rw [each.readField "description" rfl fun _ _ => overlooks_verbatim _,
      each.readField "content" rfl fun part _ =>
        Overlooks.named fun _ _ field _ => MediaType.ofJson_overlooks field.2]
  rw [ResponseNode.ofJson, ResponseNode.ofJson, reference, response]

/-- Whether a decoder takes values that are alike for the same, and refuses them alike. -/
def Decoder.Overlooking (d : Decoder α) (kind : NodeKind) : Prop :=
  ∀ value, Overlooks d.ofJson kind value

namespace Decoder

variable {kind : NodeKind} {d : Decoder α}

theorem overlooking_verbatim (d : Decoder α) : d.Overlooking .verbatim :=
  fun _ => overlooks_verbatim _

theorem overlooking_buffered {union : String} {choose : Json → Option α}
    (h : ∀ value, Overlooks choose kind value) : (buffered union choose).Overlooking kind := by
  intro value value' alike
  simp only [buffered, h value value' alike]

theorem Overlooking.map (h : d.Overlooking kind) (f : α → β) : (d.map f).Overlooking kind := by
  intro value value' alike
  simp only [Decoder.map, h value value' alike]

theorem Overlooking.list (h : d.Overlooking kind) : d.list.Overlooking (.listOf kind) := by
  intro value value' alike
  cases alike with
  | same => rfl
  | object => rfl
  | @inOrder _ items items' length fits =>
    have none : items.length = 0 := Nat.le_zero.mp fits
    rw [List.length_eq_zero_iff.mp none, List.length_eq_zero_iff.mp (length.trans none)]
  | @list _ items items' length each =>
    have pairs : List.Forall₂ (Alike kind) items items' :=
      List.forall₂_iff_zip.mpr ⟨length, fun {_ _} mem => each _ _ mem⟩
    change items'.mapM d.ofJson = items.mapM d.ofJson
    clear length each
    induction pairs with
    | nil => rfl
    | cons first _ ih => rw [List.mapM_cons, List.mapM_cons, h _ _ first, ih]

theorem Overlooking.fields (h : d.Overlooking kind) : d.fields.Overlooking (.namesOf kind) := by
  intro value value' alike
  cases alike with
  | same => rfl
  | object _ each =>
    have pairs := each.mapM fun field _ => h field.2
    simp only [Decoder.fields, pairs]
  | _ => rfl

end Decoder

theorem PathItem.decoder_overlooking (operation : Operation.shape.decoder.Overlooking .operation) :
    PathItem.decoder.Overlooking .pathItem := by
  intro value value' alike
  cases alike with
  | same => rfl
  | @object _ fields fields' _ each =>
    have settled : FieldsAlike .pathItem (settleFields fields) (settleFields fields') :=
      FieldsAlike.nil.settleAfter each
    have fold : (settleFields fields').foldlM addField [] =
        (settleFields fields).foldlM addField [] := by
      refine settled.foldlM ?_ ?_ _
      -- The keys that the model does not know here are those that name no method.
      · intro key value operations unknown
        have unnamed : HttpMethod.ofName? key = none := Option.map_eq_none_iff.mp unknown
        rw [addField, unnamed]
      · intro key inner value value' operations known same
        obtain ⟨method, named, rfl⟩ := Option.map_eq_some_iff.mp known
        have read : Operation.shape.ofJson value' = Operation.shape.ofJson value :=
          operation value value' same
        simp only [addField, named, read]
    rw [ofJson_object, ofJson_object, ofFields, ofFields, fold]
  | inOrder => rfl

open Decoder (overlooking_verbatim overlooking_buffered)

theorem Shape.overlooking {shape : Shape α} {kind : NodeKind} (keys : shape.keys = kind.keys)
    (known : ∀ key d, shape.field key = some d →
      ∃ inner, kind.under key = some inner ∧ d.Overlooking inner) :
    shape.decoder.Overlooking kind := by
  intro value value' alike
  have fold {fields fields' : List (String × Json)} (each : FieldsAlike kind fields fields') :
      fields'.foldlM shape.setJson shape.blank = fields.foldlM shape.setJson shape.blank := by
    refine each.foldlM ?_ ?_ _
    · intro key value record unknown
      cases field : shape.field key with
      | none => rw [setJson, field]
      | some d =>
        obtain ⟨inner, under, _⟩ := known key d field
        cases under.symm.trans unknown
    · intro key inner value value' record under same
      cases field : shape.field key with
      | none => rw [setJson, setJson, field]
      | some d =>
        obtain ⟨inner, there, overlooking⟩ := known key d field
        cases there.symm.trans under
        have read := overlooking value value' same
        simp only [setJson, field, read]
  cases alike with
  | same => rfl
  | object _ each => exact fold each
  | inOrder length _ each =>
    rw [← keys] at each
    simp only [decoder, ofJson, fold each, length]
  | list length =>
    simp only [decoder, ofJson, keys, length]
    rfl

theorem SchemaNode.decoder_overlooking : SchemaNode.decoder.Overlooking .schema :=
  overlooking_buffered ofJson_overlooks

theorem ParameterNode.decoder_overlooking : ParameterNode.decoder.Overlooking .parameter :=
  overlooking_buffered ofJson_overlooks

theorem ResponseNode.decoder_overlooking : ResponseNode.decoder.Overlooking .response :=
  overlooking_buffered ofJson_overlooks

theorem Operation.decoder_overlooking : Operation.shape.decoder.Overlooking .operation := by
  refine Shape.overlooking rfl fun key d known => ?_
  simp only [shape] at known
  split at known <;> cases known
  · exact ⟨_, rfl, (overlooking_verbatim _).map _⟩
  · exact ⟨_, rfl, (overlooking_verbatim _).map _⟩
  · exact ⟨_, rfl, (overlooking_verbatim _).map _⟩
  · exact ⟨_, rfl, ParameterNode.decoder_overlooking.list.map _⟩
  · exact ⟨_, rfl, (overlooking_verbatim _).map _⟩
  · exact ⟨_, rfl, ResponseNode.decoder_overlooking.fields.map _⟩

theorem Info.decoder_overlooking : Info.shape.decoder.Overlooking .info := by
  refine Shape.overlooking rfl fun key d known => ?_
  simp only [shape] at known
  split at known <;> cases known
  all_goals exact ⟨_, rfl, (overlooking_verbatim _).map _⟩

theorem ServerEntry.decoder_overlooking : ServerEntry.shape.decoder.Overlooking .server := by
  refine Shape.overlooking rfl fun key d known => ?_
  simp only [shape] at known
  split at known <;> cases known
  all_goals exact ⟨_, rfl, (overlooking_verbatim _).map _⟩

theorem Components.decoder_overlooking : Components.shape.decoder.Overlooking .components := by
  refine Shape.overlooking rfl fun key d known => ?_
  simp only [shape] at known
  split at known <;> cases known
  · exact ⟨_, rfl, SchemaNode.decoder_overlooking.fields.map _⟩
  · exact ⟨_, rfl, ParameterNode.decoder_overlooking.fields.map _⟩
  · exact ⟨_, rfl, ResponseNode.decoder_overlooking.fields.map _⟩

theorem Document.decoder_overlooking : Document.shape.decoder.Overlooking .document := by
  refine Shape.overlooking rfl fun key d known => ?_
  have item : PathItem.decoder.Overlooking .pathItem :=
    PathItem.decoder_overlooking Operation.decoder_overlooking
  simp only [shape] at known
  split at known <;> cases known
  · exact ⟨_, rfl, (overlooking_verbatim _).map _⟩
  · exact ⟨_, rfl, Info.decoder_overlooking.map _⟩
  · exact ⟨_, rfl, ServerEntry.decoder_overlooking.list.map _⟩
  · exact ⟨_, rfl, item.fields.map _⟩
  · exact ⟨_, rfl, Components.decoder_overlooking.map _⟩

/-- Fields that the model does not know make no difference to the document that a value describes,
nor to its not describing one, nor to what is generated. -/
theorem unknown_fields_overlooked {raw extended : Json} (alike : Alike .document raw extended) :
    Document.ofJson extended = Document.ofJson raw ∧
      ∀ (options : ClientOptions) (fileName : Option String),
        ((Document.ofJson extended).map fun document => generate document options fileName) =
          (Document.ofJson raw).map fun document => generate document options fileName := by
  have read : Document.shape.ofJson extended = Document.shape.ofJson raw :=
    Document.decoder_overlooking raw extended alike
  have same : Document.ofJson extended = Document.ofJson raw := by
    rw [Document.ofJson, Document.ofJson, read]
  refine ⟨same, fun options fileName => ?_⟩
  rw [same]

def usersExtended : Json :=
  .object [("x-logo", .object [("paths", .null)]), ("openapi", .string "3.0.0"),
    ("info", .object [("title", .string "Users"), ("x-title", .null), ("version", .string "1")]),
    ("paths", .object [("/users", .object [("$ref", .bool true),
      ("GET", .object [("responses", .object []), ("name", .array [])])])]),
    ("components", .object [("type", .string "array"),
      ("schemas", .object [("User", .object [("type", .string "object"), ("x-type", .null)])])])]

theorem usersExtended_alike : Alike .document usersDocument usersExtended := by
  have info : Alike .info (.object [("title", .string "Users"), ("version", .string "1")])
      (.object [("title", .string "Users"), ("x-title", .null), ("version", .string "1")]) :=
    .object (by simp) (.known rfl .same (.fresh rfl (.known rfl .same .nil)))
  have operation : Alike .operation (.object [("responses", .object [])])
      (.object [("responses", .object []), ("name", .array [])]) :=
    .object (by simp) (.known rfl .same (.fresh rfl .nil))
  have item : Alike .pathItem (.object [("GET", .object [("responses", .object [])])])
      (.object [("$ref", .bool true),
        ("GET", .object [("responses", .object []), ("name", .array [])])]) :=
    .object (by simp) (.fresh rfl (.known rfl operation .nil))
  have user : Alike .schema (.object [("type", .string "object")])
      (.object [("type", .string "object"), ("x-type", .null)]) :=
    .object (by simp) (.known rfl .same (.fresh rfl .nil))
  have schemas : Alike (.namesOf .schema) (.object [("User", .object [("type", .string "object")])])
      (.object [("User", .object [("type", .string "object"), ("x-type", .null)])]) :=
    .object (by simp) (.known rfl user .nil)
  refine .object (by simp) (.fresh rfl (.known rfl .same (.known rfl info (.known rfl ?_ ?_))))
  · exact .object (by simp) (.known rfl item .nil)
  · exact .known rfl (.object (by simp) (.fresh rfl (.known rfl schemas .nil))) .nil

theorem usersExtended_read : ∃ document, Alike .document usersDocument usersExtended ∧
    Document.ofJson usersDocument = .ok document ∧ Document.ofJson usersExtended = .ok document := by
  obtain ⟨document, read⟩ := usersDocument_read
  have same := (unknown_fields_overlooked usersExtended_alike).1
  exact ⟨document, usersExtended_alike, read, same.trans read⟩

end OpenApiClient
