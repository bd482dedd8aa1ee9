import OpenApiClient.Model.Reading
import OpenApiClient.Proofs.SettledValues
import Mathlib.Tactic.Common
import Mathlib.Data.List.Forall2

/-! The fields of records that are read.
A schema is the record of what the values under its keys read as, each of them on its own. A record
that is given by distinct keys has in each of its slots what the value under the slot's key reads as,
or what a blank record has there if the key is not given. -/
namespace OpenApiClient

theorem Json.sizeOf_lt_of_field {fields : List (String × Json)} {field : String × Json}
    (mem : field ∈ fields) : sizeOf field.2 < sizeOf (Json.object fields) := by
  have := List.sizeOf_lt_of_mem mem
  obtain ⟨key, value⟩ := field
  simp only [Prod.mk.sizeOf_spec, Json.object.sizeOf_spec] at this ⊢
  omega

def AdditionalProperties.ofJson : Json → Option AdditionalProperties
  | .bool truth => some (.allowed truth)
  | value => (SchemaNode.ofJson value).map .constrained

theorem SchemaNode.fieldsOfJson_eq (fields : List (String × Json)) :
    SchemaNode.fieldsOfJson fields =
      fields.mapM fun (key, value) => return (key, ← SchemaNode.ofJson value) := by
  induction fields with
  | nil => rw [fieldsOfJson]; rfl
  | cons field fields ih =>
    rw [fieldsOfJson, List.mapM_cons, ih]
    simp only [bind_assoc, pure_bind]

theorem SchemaNode.propertiesOfJson_eq (value : Json) :
    SchemaNode.propertiesOfJson value = readNamed SchemaNode.ofJson value := by
  cases value with
  | object fields =>
    rw [propertiesOfJson, fieldsOfJson_eq, Option.map_eq_bind]
    rfl
  | _ =>
    rw [propertiesOfJson]
    · rfl
    · simp

theorem Schema.ofJson_eq (value : Json) : Schema.ofJson value = (do
    let fields ← value.record? Schema.keys
    let type ← readField fields "type" none (readOption DeclaredType.ofJson)
    let format ← readField fields "format" none (readOption Json.asString?)
    let description ← readField fields "description" none (readOption Json.asString?)
    let required ← readField fields "required" [] (readList Json.asString?)
    let enumValues ← readField fields "enum" [] (readList fun item => some item.settled)
    let properties ← readField fields "properties" [] (readNamed SchemaNode.ofJson)
    let additionalProperties ← readField fields "additionalProperties" none
      (readOption AdditionalProperties.ofJson)
    let items ← readField fields "items" none (readOption SchemaNode.ofJson)
    pure { type, format, description, properties, required, additionalProperties, items,
           enumValues }) := by
  rw [Schema.ofJson]
  split
  · rename_i refused
    rw [refused]
    rfl
  · rename_i fields given
    rw [given]
    simp only [readField, SchemaNode.propertiesOfJson_eq]
    refine congrArg (Option.bind _) (funext fun type => ?_)
    refine congrArg (Option.bind _) (funext fun format => ?_)
    refine congrArg (Option.bind _) (funext fun description => ?_)
    refine congrArg (Option.bind _) (funext fun required => ?_)
    refine congrArg (Option.bind _) (funext fun enumValues => ?_)
    generalize fields.lookup "properties" = properties
    generalize fields.lookup "additionalProperties" = bound
    generalize fields.lookup "items" = items
    -- The matches before the last one repeat what follows them in each of their branches.
    cases properties
    all_goals
      refine congrArg (Option.bind _) (funext fun properties => ?_)
      rcases bound with _ | _ | _ | _ | _ | _ | _
      all_goals
        try simp only [readOption, AdditionalProperties.ofJson, Option.map_map]
        refine congrArg (Option.bind _) (funext fun bound => ?_)
        rcases items with _ | _ | _ <;> rfl

theorem PathItem.ofJson_object (fields : List (String × Json)) :
    PathItem.decoder.ofJson (.object fields) = PathItem.ofFields (settleFields fields) := by
  have raw : (fields.mapM fun (key, value) => return (key, ← Decoder.raw.ofJson value)) =
      (.ok fields : Except Mismatch _) := by
    induction fields with
    | nil => rfl
    | cons field fields ih =>
      rw [List.mapM_cons, ih]
      rfl
  change ((fields.mapM fun (key, value) => return (key, ← Decoder.raw.ofJson value)) >>=
    fun pairs => pure (settleFields pairs)) >>= ofFields = _
  rw [raw]
  rfl

open Json (bind_ok)

theorem mapM_forall₂ {f : α → Except ε β} {items : List α} {results : List β}
    (h : items.mapM f = .ok results) : List.Forall₂ (fun item b => f item = .ok b) items results := by
  induction items generalizing results with
  | nil =>
    cases h
    exact .nil
  | cons item items ih =>
    rw [List.mapM_cons] at h
    obtain ⟨b, first, h⟩ := bind_ok h
    obtain ⟨rest, others, h⟩ := bind_ok h
    cases h
    exact .cons first (ih others)

theorem settleFields_of_nodup {fields : List (String × α)} (h : (fields.map Prod.fst).Nodup) :
    settleFields fields = fields := by
  rw [← List.nil_append fields] at h
  exact settleAfter_of_nodup h

theorem lookup_mem {fields : List (String × α)} {key : String} {a : α}
    (h : fields.lookup key = some a) : (key, a) ∈ fields := by
  obtain ⟨before, after, rfl, _⟩ := List.lookup_eq_some_iff.mp h
  exact List.mem_append_right _ (.head _)

theorem Json.Distinct.get? {value inner : Json} {key : String} (distinct : value.Distinct)
    (h : value.get? key = some inner) : inner.Distinct := by
  cases distinct with
  | object _ all => exact all _ (lookup_mem h)
  | _ => cases h

theorem Json.object_of_get? {value inner : Json} {key : String} (h : value.get? key = some inner) :
    ∃ fields, value = .object fields := by
  cases value with
  | object fields => exact ⟨fields, rfl⟩
  | _ => cases h

theorem Json.Distinct.keys {fields : List (String × Json)} (h : (Json.object fields).Distinct) :
    (fields.map Prod.fst).Nodup := by
  cases h
  assumption

def FieldsRead (d : Decoder α) (fields : List (String × Json)) (pairs : List (String × α)) : Prop :=
  List.Forall₂ (fun field pair => pair.1 = field.1 ∧ d.ofJson field.2 = .ok pair.2) fields pairs

theorem FieldsRead.keys {d : Decoder α} {fields : List (String × Json)}
    {pairs : List (String × α)} (h : FieldsRead d fields pairs) :
    pairs.map Prod.fst = fields.map Prod.fst := by
  induction h with
  | nil => rfl
  | cons same _ ih => rw [List.map_cons, List.map_cons, same.1, ih]

theorem FieldsRead.of_mem {d : Decoder α} {fields : List (String × Json)}
    {pairs : List (String × α)} (h : FieldsRead d fields pairs) {pair : String × α}
    (mem : pair ∈ pairs) : ∃ value, (pair.1, value) ∈ fields ∧ d.ofJson value = .ok pair.2 := by
  induction h with
  | nil => cases mem
  | @cons field other _ _ same _ ih =>
    rcases List.mem_cons.mp mem with rfl | mem
    · exact ⟨field.2, by rw [same.1]; exact .head _, same.2⟩
    · obtain ⟨value, inside, read⟩ := ih mem
      exact ⟨value, .tail _ inside, read⟩

theorem Decoder.fields_ok {d : Decoder α} {value : Json} {pairs : List (String × α)}
    (distinct : value.Distinct) (h : (Decoder.fields d).ofJson value = .ok pairs) :
    ∃ fields, value = .object fields ∧ FieldsRead d fields pairs := by
  cases distinct with
  | @object fields nodup _ =>
    obtain ⟨read, reads, h⟩ := bind_ok h
    cases h
    have each : FieldsRead d fields read := by
      refine (mapM_forall₂ reads).imp fun field pair h => ?_
      obtain ⟨a, read, h⟩ := bind_ok h
      cases h
      exact ⟨rfl, read⟩
    rw [settleFields_of_nodup (each.keys ▸ nodup)]
    exact ⟨fields, rfl, each⟩
  | _ => cases h

/-- What is read as a slot of a record: the value under its key, or nothing. -/
def ReadAt (fields : List (String × Json)) (key : String) (d : Decoder α) (missing a : α) : Prop :=
  match fields.lookup key with
  | some value => d.ofJson value = .ok a
  | none => a = missing

namespace Shape

variable {shape : Shape α} {key : String} {d : Decoder β} {get : α → β} {set : β → α → α}

/-- A part of a record that is set by the value under one key, and by no other. -/
structure Slot (shape : Shape α) (key : String) (d : Decoder β) (get : α → β) (set : β → α → α) :
    Prop where
  field : shape.field key = some (d.map set)
  get_set : ∀ b record, get (set b record) = b
  other : ∀ k ≠ key, ∀ d', shape.field k = some d' → ∀ value change,
    d'.ofJson value = .ok change → ∀ record, get (change record) = get record

theorem Slot.setJson_same (slot : shape.Slot key d get set) {record after : α} {value : Json}
    (h : shape.setJson record (key, value) = .ok after) : d.ofJson value = .ok (get after) := by
  unfold setJson at h
  rw [slot.field] at h
  obtain ⟨change, read, h⟩ := bind_ok h
  cases h
  change (d.ofJson value).map set = .ok change at read
  cases value : d.ofJson value with
  | error cause =>
    rw [value] at read
    cases read
  | ok b =>
    rw [value] at read
    cases read
    rw [slot.get_set]

theorem Slot.setJson_other (slot : shape.Slot key d get set) {record after : α} {k : String}
    {value : Json} (ne : k ≠ key) (h : shape.setJson record (k, value) = .ok after) :
    get after = get record := by
  unfold setJson at h
  split at h
  · rename_i d' known
    obtain ⟨change, read, h⟩ := bind_ok h
    cases h
    exact slot.other k ne d' known value change read record
  · cases h
    rfl

theorem Slot.foldlM (slot : shape.Slot key d get set) {fields : List (String × Json)}
    {record after : α} (nodup : (fields.map Prod.fst).Nodup)
    (h : fields.foldlM shape.setJson record = .ok after) :
    ReadAt fields key d (get record) (get after) := by
  -- On the fields; after the one under the slot's key, the slot stays as it is.
  induction fields generalizing record with
  | nil =>
    cases h
    rfl
  | cons field fields ih =>
    obtain ⟨k, value⟩ := field
    obtain ⟨fresh, nodup⟩ := List.nodup_cons.mp nodup
    rw [List.foldlM_cons] at h
    obtain ⟨middle, first, h⟩ := bind_ok h
    have rest := ih nodup h
    unfold ReadAt at rest ⊢
    rw [List.lookup_cons]
    by_cases here : k = key
    · subst here
      have absent : fields.lookup k = none := by
        rw [List.lookup_eq_none_iff]
        intro field mem
        simp only [bne_iff_ne, ne_eq]
        rintro rfl
        exact fresh (List.mem_map.mpr ⟨_, mem, rfl⟩)
      rw [absent] at rest
      simp only [beq_self_eq_true]
      rw [rest]
      exact slot.setJson_same first
    · have differs : (key == k) = false := beq_eq_false_iff_ne.mpr (Ne.symm here)
      simp only [differs]
      rw [slot.setJson_other here first] at rest
      exact rest

theorem Slot.ofJson (slot : shape.Slot key d get set) {fields : List (String × Json)} {record : α}
    (nodup : (fields.map Prod.fst).Nodup) (h : shape.ofJson (.object fields) = .ok record) :
    ReadAt fields key d (get shape.blank) (get record) := slot.foldlM nodup h

end Shape

end OpenApiClient
