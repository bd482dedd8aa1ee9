import OpenApiClient.Model.Reading
import OpenApiClient.Proofs.SettledValues

/-! Values that are alike.
Two values are alike in the place of a document, or of a part of one, if they differ only in fields
that the model does not know there, at any depth. Their known fields correspond. -/
namespace OpenApiClient

/-- What a value stands for in a document. A verbatim value is taken as it is, or not at all. -/
inductive NodeKind
  | verbatim
  | document
  | info
  | server
  | components
  | pathItem
  | operation
  | parameter
  | response
  | mediaType
  | schema
  | listOf (kind : NodeKind)
  | namesOf (kind : NodeKind)

namespace NodeKind

def parts : NodeKind → List (String × NodeKind)
  | document => [("openapi", verbatim), ("info", info), ("servers", listOf server),
      ("paths", namesOf pathItem), ("components", components)]
  | info => [("title", verbatim), ("version", verbatim), ("description", verbatim)]
  | server => [("url", verbatim), ("description", verbatim)]
  | components => [("schemas", namesOf schema), ("parameters", namesOf parameter),
      ("responses", namesOf response)]
  | operation => [("operationId", verbatim), ("summary", verbatim), ("description", verbatim),
      ("parameters", listOf parameter), ("requestBody", verbatim), ("responses", namesOf response)]
  | parameter => [("name", verbatim), ("in", verbatim), ("description", verbatim),
      ("required", verbatim), ("schema", schema)]
  | response => [("description", verbatim), ("content", namesOf mediaType)]
  | mediaType => [("schema", schema)]
  | schema => [("type", verbatim), ("format", verbatim), ("description", verbatim),
      ("properties", namesOf schema), ("required", verbatim), ("additionalProperties", schema),
      ("items", schema), ("enum", verbatim)]
  | _ => []

def keys (kind : NodeKind) : List String := kind.parts.map Prod.fst

def refers : NodeKind → Bool
  | parameter | response | schema => true
  | _ => false

def under : NodeKind → String → Option NodeKind
  | namesOf kind, _ => some kind
  | pathItem, key => (HttpMethod.ofName? key).map fun _ => operation
  | kind, key => if kind.refers ∧ key = "$ref" then some verbatim else kind.parts.lookup key

end NodeKind

mutual
/-- Values of one kind that differ only in fields that the model does not know. -/
inductive Alike : NodeKind → Json → Json → Prop
  | same {kind : NodeKind} {value : Json} : Alike kind value value
  | object {kind : NodeKind} {fields fields' : List (String × Json)} (record : kind ≠ .verbatim)
      (each : FieldsAlike kind fields fields') : Alike kind (.object fields) (.object fields')
  | inOrder {kind : NodeKind} {items items' : List Json} (length : items'.length = items.length)
      (fits : items.length ≤ kind.keys.length)
      (each : FieldsAlike kind (kind.keys.zip items) (kind.keys.zip items')) :
      Alike kind (.array items) (.array items')
  | list {kind : NodeKind} {items items' : List Json} (length : items.length = items'.length)
      (each : ∀ item item', (item, item') ∈ items.zip items' → Alike kind item item') :
      Alike (.listOf kind) (.array items) (.array items')
/-- Fields with unknown ones put in or left out, and with values that are alike under known keys. -/
inductive FieldsAlike : NodeKind → List (String × Json) → List (String × Json) → Prop
  | nil {kind : NodeKind} : FieldsAlike kind [] []
  | known {kind inner : NodeKind} {key : String} {value value' : Json}
      {fields fields' : List (String × Json)} (known : kind.under key = some inner)
      (alike : Alike inner value value') (rest : FieldsAlike kind fields fields') :
      FieldsAlike kind ((key, value) :: fields) ((key, value') :: fields')
  | fresh {kind : NodeKind} {key : String} {value : Json} {fields fields' : List (String × Json)}
      (unknown : kind.under key = none) (rest : FieldsAlike kind fields fields') :
      FieldsAlike kind fields ((key, value) :: fields')
  | dropped {kind : NodeKind} {key : String} {value : Json} {fields fields' : List (String × Json)}
      (unknown : kind.under key = none) (rest : FieldsAlike kind fields fields') :
      FieldsAlike kind ((key, value) :: fields) fields'
end

namespace NodeKind

variable {kind : NodeKind}

theorem under_of_mem {key : String} (mem : key ∈ kind.keys) : (kind.under key).isSome := by
  have inside : (kind.parts.lookup key).isSome := by
    rw [List.lookup_isSome_iff]
    obtain ⟨part, there, rfl⟩ := List.mem_map.mp mem
    exact ⟨part, there, by simp⟩
  unfold under
  split
  · rfl
  · cases mem
  · split
    · rfl
    · exact inside

theorem under_reference (refers : kind.refers) : kind.under "$ref" = some verbatim := by
  cases kind <;> first | rfl | cases refers

end NodeKind

theorem FieldsAlike.refl (kind : NodeKind) (fields : List (String × Json)) :
    FieldsAlike kind fields fields := by
  induction fields with
  | nil => exact .nil
  | cons field fields ih =>
    obtain ⟨key, value⟩ := field
    cases under : kind.under key with
    | none => exact .dropped under (.fresh under ih)
    | some inner => exact .known under .same ih

theorem Alike.verbatim {value value' : Json} (h : Alike .verbatim value value') : value' = value := by
  cases h with
  | same => rfl
  | object record => exact absurd rfl record
  | @inOrder _ items items' length fits =>
    have none : items.length = 0 := Nat.le_zero.mp fits
    rw [List.length_eq_zero_iff.mp none, List.length_eq_zero_iff.mp (length.trans none)]

namespace FieldsAlike

variable {kind inner : NodeKind} {key : String} {fields fields' : List (String × Json)}

/-- Induction on the fields alone, whatever makes their values alike. -/
@[elab_as_elim]
theorem induct {motive : ∀ fields fields', FieldsAlike kind fields fields' → Prop}
    (nil : motive [] [] .nil)
    (known : ∀ {inner key value value' fields fields'} (under : kind.under key = some inner)
      (alike : Alike inner value value') (rest : FieldsAlike kind fields fields'),
      motive fields fields' rest → motive _ _ (.known under alike rest))
    (fresh : ∀ {key value fields fields'} (under : kind.under key = none)
      (rest : FieldsAlike kind fields fields'), motive fields fields' rest →
      motive fields ((key, value) :: fields') (.fresh under rest))
    (dropped : ∀ {key value fields fields'} (under : kind.under key = none)
      (rest : FieldsAlike kind fields fields'), motive fields fields' rest →
      motive ((key, value) :: fields) fields' (.dropped under rest)) :
    ∀ {fields fields'} (h : FieldsAlike kind fields fields'), motive fields fields' h
  | _, _, .nil => nil
  | _, _, .known under alike rest =>
    known under alike rest (rest.induct nil known fresh dropped)
  | _, _, .fresh under rest => fresh under rest (rest.induct nil known fresh dropped)
  | _, _, .dropped under rest => dropped under rest (rest.induct nil known fresh dropped)

theorem differ_of_unknown {other : String} (known : kind.under key = some inner)
    (unknown : kind.under other = none) : key ≠ other := by
  rintro rfl
  cases known.symm.trans unknown

theorem lookup (h : FieldsAlike kind fields fields') (known : kind.under key = some inner) :
    (fields.lookup key = none ∧ fields'.lookup key = none) ∨
      ∃ value value', fields.lookup key = some value ∧ fields'.lookup key = some value' ∧
        Alike inner value value' := by
  induction h using FieldsAlike.induct with
  | nil => exact .inl ⟨rfl, rfl⟩
  | @known _ other _ _ _ _ under alike _ ih =>
    by_cases here : key = other
    · subst here
      cases under.symm.trans known
      exact .inr ⟨_, _, List.lookup_cons_self, List.lookup_cons_self, alike⟩
    · have ne : (key == other) = false := beq_eq_false_iff_ne.mpr here
      simpa only [List.lookup_cons, ne] using ih
  | fresh under _ ih =>
    have ne := beq_eq_false_iff_ne.mpr (differ_of_unknown known under)
    simpa only [List.lookup_cons, ne] using ih
  | dropped under _ ih =>
    have ne := beq_eq_false_iff_ne.mpr (differ_of_unknown known under)
    simpa only [List.lookup_cons, ne] using ih

theorem count (h : FieldsAlike kind fields fields') (known : kind.under key = some inner) :
    (fields'.filter fun field => field.1 = key).length =
      (fields.filter fun field => field.1 = key).length := by
  induction h using FieldsAlike.induct with
  | nil => rfl
  | @known _ other _ _ _ _ under alike _ ih =>
    by_cases here : other = key
    · simp [here, ih]
    · simp [here, ih]
  | fresh under _ ih =>
    have ne := differ_of_unknown known under
    simp [ne.symm, ih]
  | dropped under _ ih =>
    have ne := differ_of_unknown known under
    simp [ne.symm, ih]

theorem knownKeysOnce (h : FieldsAlike kind fields fields') {keys : List String}
    (known : ∀ key ∈ keys, (kind.under key).isSome) :
    knownKeysOnce keys fields' = knownKeysOnce keys fields := by
  have each : ∀ key ∈ keys, (fields'.filter fun field => field.1 = key).length =
      (fields.filter fun field => field.1 = key).length := by
    intro key mem
    obtain ⟨inner, under⟩ := Option.isSome_iff_exists.mp (known key mem)
    exact h.count under
  rw [Bool.eq_iff_iff, OpenApiClient.knownKeysOnce, OpenApiClient.knownKeysOnce, List.all_eq_true,
    List.all_eq_true]
  refine forall₂_congr fun key mem => ?_
  rw [each key mem]

theorem foldlM (h : FieldsAlike kind fields fields') {step : β → String × Json → Except ε β}
    (skips : ∀ key value b, kind.under key = none → step b (key, value) = .ok b)
    (goes : ∀ key inner value value' b, kind.under key = some inner → Alike inner value value' →
      step b (key, value') = step b (key, value)) (b : β) :
    fields'.foldlM step b = fields.foldlM step b := by
  induction h using FieldsAlike.induct generalizing b with
  | nil => rfl
  | known under alike _ ih =>
    rw [List.foldlM_cons, List.foldlM_cons, goes _ _ _ _ b under alike]
    congr 1
    funext after
    exact ih after
  | fresh under _ ih =>
    rw [List.foldlM_cons, skips _ _ b under]
    exact ih b
  | dropped under _ ih =>
    rw [List.foldlM_cons, skips _ _ b under]
    exact ih b

theorem putField_known {value value' : Json} (h : FieldsAlike kind fields fields')
    (known : kind.under key = some inner) (alike : Alike inner value value') :
    FieldsAlike kind (putField key value fields) (putField key value' fields') := by
  -- The key is put behind the same known fields on both sides; unknown ones between do not stop it.
  induction h using FieldsAlike.induct with
  | nil => exact .known known alike .nil
  | @known _ other _ _ _ _ under same rest ih =>
    rw [putField, putField]
    by_cases here : other = key
    · rw [if_pos here, if_pos here]
      exact .known (here ▸ known) alike rest
    · rw [if_neg here, if_neg here]
      exact .known under same ih
  | fresh under _ ih =>
    have ne := differ_of_unknown known under
    rw [putField.eq_2, if_neg ne.symm]
    exact .fresh under ih
  | dropped under _ ih =>
    have ne := differ_of_unknown known under
    rw [putField.eq_2, if_neg ne.symm]
    exact .dropped under ih

theorem putField_fresh (value : Json) (h : FieldsAlike kind fields fields')
    (unknown : kind.under key = none) : FieldsAlike kind fields (putField key value fields') := by
  induction h using FieldsAlike.induct with
  | nil => exact .fresh unknown .nil
  | known under same _ ih =>
    have ne := differ_of_unknown under unknown
    rw [putField, if_neg ne]
    exact .known under same ih
  | @fresh other _ _ _ under rest ih =>
    rw [putField]
    by_cases here : other = key
    · rw [if_pos here]
      exact .fresh under rest
    · rw [if_neg here]
      exact .fresh under ih
  | dropped under _ ih => exact .dropped under ih

theorem putField_dropped (value : Json) (h : FieldsAlike kind fields fields')
    (unknown : kind.under key = none) : FieldsAlike kind (putField key value fields) fields' := by
  induction h using FieldsAlike.induct with
  | nil => exact .dropped unknown .nil
  | known under same _ ih =>
    have ne := differ_of_unknown under unknown
    rw [putField, if_neg ne]
    exact .known under same ih
  | @dropped other _ _ _ under rest ih =>
    rw [putField]
    by_cases here : other = key
    · rw [if_pos here]
      exact .dropped under rest
    · rw [if_neg here]
      exact .dropped under ih
  | fresh under _ ih => exact .fresh under ih

theorem settleAfter {settled settled' : List (String × Json)}
    (start : FieldsAlike kind settled settled') (h : FieldsAlike kind fields fields') :
    FieldsAlike kind (settleAfter settled fields) (settleAfter settled' fields') := by
  induction h using FieldsAlike.induct generalizing settled settled' with
  | nil => exact start
  | known under same _ ih => exact ih (start.putField_known under same)
  | fresh under _ ih => exact ih (start.putField_fresh _ under)
  | dropped under _ ih => exact ih (start.putField_dropped _ under)

theorem mapM [Monad m] [LawfulMonad m] {read : Json → m β}
    (h : FieldsAlike (.namesOf kind) fields fields')
    (each : ∀ field ∈ fields, ∀ value', Alike kind field.2 value' → read value' = read field.2) :
    (fields'.mapM fun (key, value) => return (key, ← read value)) =
      fields.mapM fun (key, value) => return (key, ← read value) := by
  induction h using FieldsAlike.induct with
  | nil => rfl
  | known under alike _ ih =>
    cases under
    have first := each _ (.head _) _ alike
    have rest := ih fun field mem => each field (.tail _ mem)
    simp only [List.mapM_cons, first, rest]
  | fresh under => cases under
  | dropped under => cases under

end FieldsAlike

end OpenApiClient
