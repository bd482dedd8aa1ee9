import OpenApiClient.Proofs.RuleWalk
import Mathlib.Data.List.Forall2

/-! The rules on a document.
They are listed in the order in which a document is walked, each with the part that it names when it
is broken, and validation goes by that list: it names the first thing that makes a document unsound.
The documents that break none are told apart by what they say, whatever the order. -/
namespace OpenApiClient

/-- A key is the name of a method, each of its letters small or capital. -/
def HttpMethod.NamedBy (method : HttpMethod) (key : String) : Prop :=
  List.Forall₂ (fun small c => c = small ∨ c = small.toUpper) method.name.toList key.toList

def NamesMethod (key : String) : Prop := ∃ method : HttpMethod, method.NamedBy key

theorem toNat_toLower (c : Char) :
    c.toLower.toNat = if 65 ≤ c.toNat ∧ c.toNat ≤ 90 then c.toNat + 32 else c.toNat := by
  have bounds : (c.val ≥ 'A'.val ∧ c.val ≤ 'Z'.val) ↔ 65 ≤ c.toNat ∧ c.toNat ≤ 90 := .rfl
  delta Char.toLower
  by_cases capital : 65 ≤ c.toNat ∧ c.toNat ≤ 90
  · rw [if_pos capital, dif_pos (bounds.mpr capital)]
    change (c.toNat + 32) % 4294967296 = c.toNat + 32
    omega
  · rw [if_neg capital, dif_neg (mt bounds.mp capital)]

theorem toLower_iff {small c : Char}
    (capital : 65 ≤ small.toUpper.toNat ∧ small.toUpper.toNat ≤ 90)
    (shifted : small.toUpper.toNat + 32 = small.toNat) :
    small = c.toLower ↔ c = small ∨ c = small.toUpper := by
  rw [← Char.toNat_inj, ← Char.toNat_inj, ← Char.toNat_inj, toNat_toLower]
  split <;> omega

theorem HttpMethod.namedBy_iff {method : HttpMethod} {key : String} :
    method.NamedBy key ↔ method.name = asciiLower key := by
  have letters : method.name.toList.all fun small =>
      (65 ≤ small.toUpper.toNat ∧ small.toUpper.toNat ≤ 90) ∧
        small.toUpper.toNat + 32 = small.toNat := by
    cases method <;> decide
  rw [asciiLower, ← String.toList_inj, String.toList_ofList, ← List.forall₂_eq_eq_eq,
    List.forall₂_map_right_iff, NamedBy, List.forall₂_iff_zip, List.forall₂_iff_zip]
  refine and_congr_right fun _ => forall₂_congr fun small c => imp_congr_right fun mem => ?_
  have letter := of_decide_eq_true (List.all_eq_true.mp letters small (List.of_mem_zip mem).1)
  exact (toLower_iff letter.1 letter.2).symm

theorem namesMethod_iff {key : String} : NamesMethod key ↔ (HttpMethod.ofName? key).isSome = true := by
  rw [HttpMethod.ofName?, List.find?_isSome]
  constructor
  · rintro ⟨method, named⟩
    have known : method ∈ HttpMethod.all := by cases method <;> decide
    exact ⟨method, known, decide_eq_true (HttpMethod.namedBy_iff.mp named)⟩
  · rintro ⟨method, _, named⟩
    exact ⟨method, HttpMethod.namedBy_iff.mpr (of_decide_eq_true named)⟩

instance (key : String) : Decidable (NamesMethod key) := decidable_of_iff _ namesMethod_iff.symm

def Letter (c : Char) : Prop := 'A' ≤ c ∧ c ≤ 'Z' ∨ 'a' ≤ c ∧ c ≤ 'z'

def Digit (c : Char) : Prop := '0' ≤ c ∧ c ≤ '9'

/-- A letter of ASCII, and then letters and digits. -/
def SchemaName (name : String) : Prop :=
  ∃ first rest, name.toList = first :: rest ∧ Letter first ∧ ∀ c ∈ rest, Letter c ∨ Digit c

def Begins (start text : String) : Prop := start.toList <+: text.toList

def textOf (value : Option Json) : String := (value.bind Json.asString?).getD ""

def fieldsOf (value : Option Json) : List (String × Json) := (value.bind Json.asObject?).getD []

def methodEntries (item : Json) : List (String × Json) :=
  (fieldsOf (some item)).filter fun entry => NamesMethod entry.1

def CoversSuccess (operation : Json) : Prop :=
  ∃ response ∈ fieldsOf (operation.get? "responses"), Begins "2" response.1 ∨ response.1 = "default"

def typeText : Option Json → String
  | some (.string type) => type
  | some other => other.compact
  | none => ""

def schemasOf (document : Json) : Option Json := (document.get? "components").bind (·.get? "schemas")

def textRules (value : Option Json) (field : String) : List Rule :=
  [⟨value ≠ none ∧ value ≠ some .null ∧ value ≠ some (.string ""), .missingField field⟩,
    ⟨∃ text, value = some (.string text), .invalidField field "a string"⟩]

def operationRules (path : String) (entry : String × Json) : List Rule :=
  [⟨∃ responses, entry.2.get? "responses" = some (.object responses),
    .missingResponses path (HttpMethod.asciiUpper entry.1)⟩]

def pathRules (field : String × Json) : List Rule :=
  ⟨Begins "/" field.1, .invalidPath field.1⟩ ::
    ⟨methodEntries field.2 ≠ [], .noOperations field.1⟩ ::
    (methodEntries field.2).flatMap (operationRules field.1)

def pathsRules (paths : Option Json) : List Rule :=
  ⟨paths = none ∨ paths = some .null ∨ ∃ fields, paths = some (.object fields),
    .invalidField "paths" "an object"⟩ ::
    (fieldsOf paths).flatMap pathRules

def typeRule (name : String) (schema : Json) : Rule :=
  ⟨∀ type, schema.get? "type" = some type →
      ∃ known ∈ ["object", "array", "string", "number", "integer", "boolean"], type = .string known,
    .invalidSchemaType name (typeText (schema.get? "type"))⟩

/-- In a schema of type `object`, a property that is a reference refers to a schema. -/
def propertyRules (name : String) (schema : Json) (property : String × Json) : List Rule :=
  [⟨schema.get? "type" = some (.string "object") → ∀ reference,
      property.2.get? "$ref" = some (.string reference) →
        Begins "#/components/schemas/" reference,
    .invalidReference name property.1 (textOf (property.2.get? "$ref"))⟩]

def schemaRules (field : String × Json) : List Rule :=
  ⟨SchemaName field.1, .invalidSchemaName field.1 (Text.upperCamel field.1)⟩ ::
    typeRule field.1 field.2 ::
    (fieldsOf (field.2.get? "properties")).flatMap (propertyRules field.1 field.2)

def documentRules (document : Json) : List Rule :=
  let openapi := document.get? "openapi"
  let info := document.get? "info"
  textRules openapi "openapi" ++
    ⟨∃ value, info = some value, .missingField "info"⟩ ::
    (textRules (info.bind (·.get? "title")) "info.title" ++
    (textRules (info.bind (·.get? "version")) "info.version" ++
    ⟨Begins "3." (textOf openapi), .unsupportedVersion (textOf openapi)⟩ ::
    (pathsRules (document.get? "paths") ++ (fieldsOf (schemasOf document)).flatMap schemaRules)))

instance (start text : String) : Decidable (Begins start text) :=
  inferInstanceAs (Decidable (_ <+: _))

instance (operation : Json) : Decidable (CoversSuccess operation) :=
  inferInstanceAs (Decidable (∃ response ∈ fieldsOf (operation.get? "responses"), _ ∨ _))

def operationRemarks (path : String) (entry : String × Json) : List Remark :=
  if CoversSuccess entry.2 then [] else [.noSuccessResponse (HttpMethod.asciiUpper entry.1) path]

def pathsRemarks (paths : List (String × Json)) : List Remark :=
  if paths.isEmpty then [.noPaths]
  else paths.flatMap fun field => (methodEntries field.2).flatMap (operationRemarks field.1)

def schemasRemarks (schemas : List (String × Json)) : List Remark :=
  if schemas.isEmpty then [.noSchemas] else []

def reportOf (document : Json) : Report where
  openapi := textOf (document.get? "openapi")
  title := textOf ((document.get? "info").bind (·.get? "title"))
  version := textOf ((document.get? "info").bind (·.get? "version"))
  pathCount := (fieldsOf (document.get? "paths")).length
  schemaCount := (fieldsOf (schemasOf document)).length
  remarks := pathsRemarks (fieldsOf (document.get? "paths")) ++
    schemasRemarks (fieldsOf (schemasOf document))

open Validation

theorem startsWith_iff {start text : String} : startsWith start text = true ↔ Begins start text := by
  rw [startsWith, List.isPrefixOf_iff_prefix, Begins]

theorem methodFields_eq (item : Json) : methodFields item = methodEntries item := by
  refine List.filter_congr fun entry _ => ?_
  rw [Bool.eq_iff_iff, ← namesMethod_iff, decide_eq_true_iff]

theorem coversSuccess_iff {operation : Json} {responses : List (String × Json)}
    (h : operation.get? "responses" = some (.object responses)) :
    coversSuccess responses = true ↔ CoversSuccess operation := by
  have fields : fieldsOf (operation.get? "responses") = responses := by
    rw [h]
    rfl
  have success : ∀ code, isSuccessCode code = true ↔ Begins "2" code := by
    intro code
    rw [isSuccessCode, decide_eq_true_iff, Begins]
    cases code.toList with
    | nil => simp
    | cons c rest => simp [eq_comm]
  unfold coversSuccess CoversSuccess
  rw [fields, List.any_eq_true]
  refine exists_congr fun response => and_congr_right fun _ => ?_
  rw [Bool.or_eq_true, success, decide_eq_true_iff]

theorem letter_iff {c : Char} : c.isAlpha = true ↔ Letter c := by
  have upper : c.isUpper = true ↔ 'A' ≤ c ∧ c ≤ 'Z' := decide_eq_true_iff
  have lower : c.isLower = (decide ('a' ≤ c) && decide (c ≤ 'z')) := rfl
  have either : c.isAlpha = (c.isUpper || c.isLower) := rfl
  rw [either, Bool.or_eq_true, upper, lower, Bool.and_eq_true, decide_eq_true_iff, decide_eq_true_iff,
    Letter]

theorem digit_iff {c : Char} : c.isDigit = true ↔ Digit c := by
  have both : c.isDigit = (decide ('0' ≤ c) && decide (c ≤ '9')) := rfl
  rw [both, Bool.and_eq_true, decide_eq_true_iff, decide_eq_true_iff, Digit]

theorem isSchemaName_iff {name : String} : isSchemaName name = true ↔ SchemaName name := by
  unfold isSchemaName SchemaName
  cases name.toList with
  | nil => simp
  | cons first rest =>
    simp only [Bool.and_eq_true, List.all_eq_true, Char.isAlphanum, Bool.or_eq_true, letter_iff, digit_iff]
    constructor
    · rintro ⟨start, all⟩
      exact ⟨first, rest, rfl, start, all⟩
    · rintro ⟨_, _, same, start, all⟩
      cases same
      exact ⟨start, all⟩

theorem bind_asString {value : Option Json} {text : String} :
    value.bind Json.asString? = some text ↔ value = some (.string text) := by
  constructor
  · intro h
    obtain ⟨value, rfl, string⟩ := Option.bind_eq_some_iff.mp h
    cases value <;> cases string
    rfl
  · rintro rfl
    rfl

theorem bind_asObject {value : Option Json} {fields : List (String × Json)} :
    value.bind Json.asObject? = some fields ↔ value = some (.object fields) := by
  constructor
  · intro h
    obtain ⟨value, rfl, object⟩ := Option.bind_eq_some_iff.mp h
    cases value <;> cases object
    rfl
  · rintro rfl
    rfl

theorem requiredText_obeys (value : Option Json) (field : String) :
    Obeys (textRules value field) (textOf value) (requiredText value field) := by
  have wrong : ∀ other : Json, (∀ text, other ≠ .string text) → other ≠ .null →
      FirstBroken (textRules (some other) field) (.invalidField field "a string") := by
    intro other untext unnull
    refine .later ⟨by simp, by simpa using unnull, by simpa using untext ""⟩ (.here ?_)
    rintro ⟨text, same⟩
    exact untext text (by simpa using same)
  cases value with
  | none => exact .stops (.here fun h => h.1 rfl)
  | some value =>
    cases value with
    | null => exact .stops (.here fun h => h.2.1 rfl)
    | string text =>
      by_cases empty : text = ""
      · subst empty
        exact .stops (.here fun h => h.2.2 rfl)
      · have reads : requiredText (some (.string text)) field = .ok text :=
          if_neg (by simpa using empty)
        rw [reads]
        refine .passes ?_
        simp only [textRules, List.forall_mem_cons]
        refine ⟨by simpa using empty, ⟨text, rfl⟩, by simp⟩
    | bool b => exact .stops (wrong _ (by simp) (by simp))
    | number n => exact .stops (wrong _ (by simp) (by simp))
    | array items => exact .stops (wrong _ (by simp) (by simp))
    | object fields => exact .stops (wrong _ (by simp) (by simp))

theorem checkOperation_obeys (path : String) (entry : String × Json) :
    Obeys (operationRules path entry) (operationRemarks path entry) (checkOperation path entry) := by
  unfold checkOperation
  cases found : (entry.2.get? "responses").bind Json.asObject? with
  | none =>
    refine .stops (.here ?_)
    rintro ⟨responses, there⟩
    rw [there] at found
    cases found
  | some responses =>
    have there := bind_asObject.mp found
    have remarks : operationRemarks path entry = if coversSuccess responses then []
        else [.noSuccessResponse (HttpMethod.asciiUpper entry.1) path] := by
      unfold operationRemarks
      by_cases covers : CoversSuccess entry.2
      · rw [if_pos covers, if_pos ((coversSuccess_iff there).mpr covers)]
      · rw [if_neg covers, if_neg fun h => covers ((coversSuccess_iff there).mp h)]
    rw [remarks]
    refine .passes ?_
    simp only [operationRules, List.forall_mem_cons]
    exact ⟨⟨responses, there⟩, by simp⟩

theorem checkPath_obeys (field : String × Json) :
    Obeys (pathRules field) ((methodEntries field.2).flatMap (operationRemarks field.1))
      (checkPath field) := by
  obtain ⟨path, item⟩ := field
  unfold checkPath
  dsimp only
  rw [methodFields_eq]
  refine obeys_unless ?_ fun _ => obeys_unless ?_ fun _ => ?_
  · simp only [Bool.not_eq_true', ← startsWith_iff, Bool.not_eq_true]
  · simp
  · exact (obeys_mapM _ fun entry _ => checkOperation_obeys path entry).map List.flatten

theorem checkPaths_obeys (paths : Option Json) :
    Obeys (pathsRules paths) ((fieldsOf paths).length, pathsRemarks (fieldsOf paths))
      (checkPaths paths) := by
  have wrong : ∀ other : Json, other ≠ .null → (∀ fields, other ≠ .object fields) →
      Obeys (pathsRules (some other)) ((fieldsOf (some other)).length,
        pathsRemarks (fieldsOf (some other))) (.error (.invalidField "paths" "an object")) := by
    intro other unnull unobject
    refine .stops (.here ?_)
    rintro (h | h | ⟨fields, h⟩)
    · cases h
    · exact unnull (by simpa using h)
    · exact unobject fields (by simpa using h)
  match paths with
  | none => exact (obeys_nil _).cons (.inl rfl)
  | some .null => exact (obeys_nil _).cons (.inr (.inl rfl))
  | some (.object []) => exact (obeys_nil _).cons (.inr (.inr ⟨[], rfl⟩))
  | some (.object (field :: rest)) =>
    have walked := obeys_mapM (field :: rest) fun field _ => checkPath_obeys field
    exact (walked.map fun remarks => ((field :: rest).length, remarks.flatten)).cons
      (.inr (.inr ⟨field :: rest, rfl⟩))
  | some (.bool b) => exact wrong _ (by simp) (by simp)
  | some (.number n) => exact wrong _ (by simp) (by simp)
  | some (.string text) => exact wrong _ (by simp) (by simp)
  | some (.array items) => exact wrong _ (by simp) (by simp)

theorem checkSchemaType_obeys (name : String) (schema : Json) :
    Obeys [typeRule name schema] () (checkSchemaType name schema) := by
  have wrong : ∀ other : Json, (∀ text, other ≠ .string text) →
      ¬ ∃ known ∈ ["object", "array", "string", "number", "integer", "boolean"],
        other = .string known := by
    rintro other untext ⟨known, _, rfl⟩
    exact untext known rfl
  unfold checkSchemaType typeRule
  cases schema.get? "type" with
  | none => exact .passes (by simp)
  | some type =>
    cases type with
    | string text =>
      refine obeys_if ?_ fun _ => obeys_nil ()
      constructor
      · intro known _ same
        cases same
        exact ⟨text, known, rfl⟩
      · intro holds
        obtain ⟨known, mem, same⟩ := holds _ rfl
        cases same
        exact mem
    | null => exact .stops (.here fun holds => wrong _ (by simp) (holds _ rfl))
    | bool b => exact .stops (.here fun holds => wrong _ (by simp) (holds _ rfl))
    | number n => exact .stops (.here fun holds => wrong _ (by simp) (holds _ rfl))
    | array items => exact .stops (.here fun holds => wrong _ (by simp) (holds _ rfl))
    | object fields => exact .stops (.here fun holds => wrong _ (by simp) (holds _ rfl))

theorem checkProperty_obeys {name : String} {schema : Json} (property : String × Json)
    (object : schema.get? "type" = some (.string "object")) :
    Obeys (propertyRules name schema property) () (checkProperty name property) := by
  unfold checkProperty propertyRules
  cases found : (property.2.get? "$ref").bind Json.asString? with
  | none =>
    refine .passes ?_
    simp only [List.forall_mem_cons]
    refine ⟨fun _ reference there => ?_, by simp⟩
    rw [bind_asString.mpr there] at found
    cases found
  | some reference =>
    have there := bind_asString.mp found
    rw [there]
    refine obeys_if ?_ fun _ => obeys_nil ()
    rw [startsWith_iff]
    constructor
    · rintro begins _ _ same
      cases same
      exact begins
    · intro holds
      exact holds object reference rfl

theorem checkProperties_obeys (name : String) (schema : Json) :
    Obeys ((fieldsOf (schema.get? "properties")).flatMap (propertyRules name schema)) ()
      (checkProperties name schema) := by
  unfold checkProperties
  by_cases object : schema.get? "type" = some (.string "object")
  · rw [if_pos (bind_asString.mpr object)]
    exact obeys_forM _ fun property _ => checkProperty_obeys property object
  · rw [if_neg fun h => object (bind_asString.mp h)]
    refine .passes fun rule mem => ?_
    obtain ⟨property, _, mem⟩ := List.mem_flatMap.mp mem
    cases List.mem_singleton.mp mem
    exact fun h => absurd h object

theorem checkSchema_obeys (field : String × Json) :
    Obeys (schemaRules field) () (checkSchema field) := by
  obtain ⟨name, schema⟩ := field
  unfold checkSchema
  refine obeys_if isSchemaName_iff fun _ => ?_
  exact (checkSchemaType_obeys name schema).bind fun _ => checkProperties_obeys name schema

theorem checkSchemas_obeys (schemas : Option Json) :
    Obeys ((fieldsOf schemas).flatMap schemaRules)
      ((fieldsOf schemas).length, schemasRemarks (fieldsOf schemas)) (checkSchemas schemas) := by
  have none : ∀ schemas, fieldsOf schemas = [] → Obeys ((fieldsOf schemas).flatMap schemaRules)
      ((fieldsOf schemas).length, schemasRemarks (fieldsOf schemas)) (.ok (0, [.noSchemas])) := by
    intro schemas empty
    rw [empty]
    exact obeys_nil _
  match schemas with
  | some (.object (field :: rest)) =>
    have walked := obeys_forM (field :: rest) fun field _ => checkSchema_obeys field
    exact walked.map fun _ => ((field :: rest).length, [])
  | .none => exact none _ rfl
  | some .null => exact none _ rfl
  | some (.bool b) => exact none _ rfl
  | some (.number n) => exact none _ rfl
  | some (.string text) => exact none _ rfl
  | some (.array items) => exact none _ rfl
  | some (.object []) => exact none _ rfl

theorem validate_obeys (document : Json) :
    Obeys (documentRules document) (reportOf document) (validate document) := by
  unfold validate documentRules reportOf
  refine (requiredText_obeys _ _).bind fun _ => ?_
  cases document.get? "info" with
  | none => exact .stops (.here (by simp))
  | some info =>
    refine Obeys.cons ⟨info, rfl⟩ ?_
    refine (requiredText_obeys _ _).bind fun _ => ?_
    refine (requiredText_obeys _ _).bind fun _ => ?_
    refine obeys_unless ?_ fun _ => ?_
    · simp only [Bool.not_eq_true', ← startsWith_iff, Bool.not_eq_true]
    · refine (checkPaths_obeys _).bind fun _ => ?_
      exact (checkSchemas_obeys (schemasOf document)).map fun counted =>
        Report.mk _ _ _ _ counted.1 (_ ++ counted.2)

structure SoundPath (path : String) (item : Json) : Prop where
  slash : Begins "/" path
  fields : ∃ fields, item = .object fields
  operation : ∃ entry ∈ fieldsOf (some item), NamesMethod entry.1
  responses : ∀ entry ∈ fieldsOf (some item), NamesMethod entry.1 →
    ∃ responses, entry.2.get? "responses" = some (.object responses)

structure SoundSchema (name : String) (schema : Json) : Prop where
  name : SchemaName name
  type : ∀ type, schema.get? "type" = some type →
    ∃ known ∈ ["object", "array", "string", "number", "integer", "boolean"], type = .string known
  references : schema.get? "type" = some (.string "object") →
    ∀ property ∈ fieldsOf (schema.get? "properties"), ∀ reference,
      property.2.get? "$ref" = some (.string reference) → Begins "#/components/schemas/" reference

structure Sound (document : Json) : Prop where
  openapi : ∃ text, document.get? "openapi" = some (.string text) ∧ text ≠ "" ∧ Begins "3." text
  title : ∃ info text, document.get? "info" = some info ∧
    info.get? "title" = some (.string text) ∧ text ≠ ""
  version : ∃ info text, document.get? "info" = some info ∧
    info.get? "version" = some (.string text) ∧ text ≠ ""
  paths : document.get? "paths" = none ∨ document.get? "paths" = some .null ∨
    ∃ fields, document.get? "paths" = some (.object fields)
  path : ∀ field ∈ fieldsOf (document.get? "paths"), SoundPath field.1 field.2
  schema : ∀ field ∈ fieldsOf (schemasOf document), SoundSchema field.1 field.2

theorem textRules_hold {value : Option Json} {field : String} :
    (∀ rule ∈ textRules value field, rule.holds) ↔
      ∃ text, value = some (.string text) ∧ text ≠ "" := by
  simp only [textRules, List.forall_mem_cons]
  constructor
  · rintro ⟨⟨_, _, full⟩, ⟨text, rfl⟩, _⟩
    exact ⟨text, rfl, fun empty => full (by rw [empty])⟩
  · rintro ⟨text, rfl, full⟩
    exact ⟨⟨by simp, by simp, by simpa using full⟩, ⟨text, rfl⟩, by simp⟩

theorem flatMap_hold {items : List α} {rulesOf : α → List Rule} :
    (∀ rule ∈ items.flatMap rulesOf, rule.holds) ↔
      ∀ item ∈ items, ∀ rule ∈ rulesOf item, rule.holds := by
  constructor
  · intro all item mem rule inside
    exact all rule (List.mem_flatMap.mpr ⟨item, mem, inside⟩)
  · intro all rule mem
    obtain ⟨item, mem, inside⟩ := List.mem_flatMap.mp mem
    exact all item mem rule inside

theorem mem_methodEntries {item : Json} {entry : String × Json} :
    entry ∈ methodEntries item ↔ entry ∈ fieldsOf (some item) ∧ NamesMethod entry.1 := by
  simp [methodEntries]

theorem pathRules_hold {field : String × Json} :
    (∀ rule ∈ pathRules field, rule.holds) ↔ SoundPath field.1 field.2 := by
  simp only [pathRules, List.forall_mem_cons, flatMap_hold, operationRules, mem_methodEntries]
  constructor
  · rintro ⟨slash, some, responses⟩
    obtain ⟨entry, mem⟩ := List.exists_mem_of_ne_nil _ some
    obtain ⟨mem, named⟩ := mem_methodEntries.mp mem
    refine ⟨slash, ?_, ⟨entry, mem, named⟩, ?_⟩
    · -- Only an object has fields.
      cases h : field.2 with
      | object fields => exact ⟨fields, rfl⟩
      | _ =>
        rw [h] at mem
        cases mem
    · intro entry mem named
      exact (responses entry ⟨mem, named⟩).1
  · rintro ⟨slash, _, ⟨entry, mem, named⟩, responses⟩
    refine ⟨slash, ?_, fun entry mem => ⟨responses entry mem.1 mem.2, by simp⟩⟩
    exact List.ne_nil_of_mem (mem_methodEntries.mpr ⟨mem, named⟩)

theorem pathsRules_hold {paths : Option Json} :
    (∀ rule ∈ pathsRules paths, rule.holds) ↔
      (paths = none ∨ paths = some .null ∨ ∃ fields, paths = some (.object fields)) ∧
        ∀ field ∈ fieldsOf paths, SoundPath field.1 field.2 := by
  simp only [pathsRules, List.forall_mem_cons, flatMap_hold, pathRules_hold]

theorem schemaRules_hold {field : String × Json} :
    (∀ rule ∈ schemaRules field, rule.holds) ↔ SoundSchema field.1 field.2 := by
  simp only [schemaRules, List.forall_mem_cons, flatMap_hold, propertyRules, typeRule]
  constructor
  · rintro ⟨name, type, references⟩
    exact ⟨name, type, fun object property mem => (references property mem).1 object⟩
  · rintro ⟨name, type, references⟩
    exact ⟨name, type, fun property mem => ⟨fun object => references object property mem, by simp⟩⟩

theorem sound_iff {document : Json} :
    Sound document ↔ ∀ rule ∈ documentRules document, rule.holds := by
  have inside : ∀ key, (∃ text, (document.get? "info").bind (·.get? key) = some (.string text) ∧
      text ≠ "") ↔ ∃ info text, document.get? "info" = some info ∧
        info.get? key = some (.string text) ∧ text ≠ "" := by
    intro key
    simp only [Option.bind_eq_some_iff]
    constructor
    · rintro ⟨text, ⟨info, there, same⟩, full⟩
      exact ⟨info, text, there, same, full⟩
    · rintro ⟨info, text, there, same, full⟩
      exact ⟨text, ⟨info, there, same⟩, full⟩
  simp only [documentRules, List.forall_mem_append, List.forall_mem_cons, textRules_hold, inside,
    pathsRules_hold, flatMap_hold, schemaRules_hold]
  constructor
  · rintro ⟨⟨text, there, full, start⟩, title, version, paths, path, schema⟩
    refine ⟨⟨text, there, full⟩, ?_, title, version, ?_, ⟨paths, path⟩, schema⟩
    · obtain ⟨info, _, there, _⟩ := title
      exact ⟨info, there⟩
    · rw [there]
      exact start
  · rintro ⟨⟨text, there, full⟩, _, title, version, start, ⟨paths, path⟩, schema⟩
    rw [there] at start
    exact ⟨⟨text, there, full, start⟩, title, version, paths, path, schema⟩

/-- Validation reports on exactly the sound documents, and else says which rule is broken first. -/
theorem validate_exact (document : Json) :
    (∀ report, validate document = .ok report ↔ Sound document ∧ report = reportOf document) ∧
    ∀ violation, validate document = .error violation ↔
      FirstBroken (documentRules document) violation := by
  rw [sound_iff]
  exact (validate_obeys document).exact

end OpenApiClient
