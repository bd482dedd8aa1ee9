import OpenApiClient.Proofs.RawOrder

/-! The order of documents that are read.
What a decoder takes in is in the order of the value it reads; of a path item, the first key that
names a method gives the operation its place. -/
namespace OpenApiClient

open Json (bind_ok)

theorem ParameterNode.ofJson_order {value : Json} {node : ParameterNode} (distinct : value.Distinct)
    (h : ParameterNode.ofJson value = some node) : ParameterOrder value node := by
  rw [ParameterNode.ofJson, referencePath_eq distinct] at h
  cases refers : value.reference? with
  | some path =>
    rw [refers] at h
    cases h
    exact .reference refers
  | none =>
    rw [refers] at h
    obtain ⟨parameter, read, rfl⟩ := Option.map_eq_some_iff.mp h
    simp only [Parameter.ofJson, Option.bind_eq_bind, Option.bind_eq_some_iff, Option.pure_def,
      Option.some.injEq] at read
    obtain ⟨fields, given, _, -, _, -, _, -, _, -, _, -, _, -, schema, read, rfl⟩ := read
    obtain rfl := parts_of_record given
    refine .inline refers (readField_option (fun part there node read => ?_) read)
    exact SchemaNode.ofJson_order (distinct.part there) read

theorem MediaType.ofJson_order {value : Json} {media : MediaType} (distinct : value.Distinct)
    (h : MediaType.ofJson value = some media) : MediaOrder value media := by
  simp only [MediaType.ofJson, Option.bind_eq_bind, Option.bind_eq_some_iff, Option.pure_def,
    Option.some.injEq] at h
  obtain ⟨fields, given, schema, read, rfl⟩ := h
  obtain rfl := parts_of_record given
  refine readField_option (fun part there node read => ?_) read
  exact SchemaNode.ofJson_order (distinct.part there) read

theorem ResponseNode.ofJson_order {value : Json} {node : ResponseNode} (distinct : value.Distinct)
    (h : ResponseNode.ofJson value = some node) : ResponseOrder value node := by
  rw [ResponseNode.ofJson, referencePath_eq distinct] at h
  cases refers : value.reference? with
  | some path =>
    rw [refers] at h
    cases h
    exact .reference refers
  | none =>
    rw [refers] at h
    obtain ⟨response, read, rfl⟩ := Option.map_eq_some_iff.mp h
    simp only [Response.ofJson, Option.bind_eq_bind, Option.bind_eq_some_iff, Option.pure_def,
      Option.some.injEq] at read
    obtain ⟨fields, given, _, -, content, read, rfl⟩ := read
    obtain rfl := parts_of_record given
    refine .inline refers (readField_named (fun _ => distinct.part) ?_ read)
    intro part there field mem media read
    have inside := fieldsOf_distinct (fun _ same => Option.some.inj same ▸ distinct.part there) mem
    exact MediaType.ofJson_order inside read

theorem Decoder.buffered_ok {union : String} {choose : Json → Option α} {value : Json} {a : α}
    (h : (buffered union choose).ofJson value = .ok a) : choose value = some a := by
  change (choose value).elim (.error (Mismatch.noVariant union)) .ok = Except.ok a at h
  cases chosen : choose value with
  | none =>
    rw [chosen] at h
    cases h
  | some b =>
    rw [chosen] at h
    cases h
    rfl

theorem zip_keys_sublist (keys : List String) (items : List Json) :
    ((keys.zip items).map Prod.fst).Sublist keys := by
  induction keys generalizing items with
  | nil => exact .slnil
  | cons key keys ih =>
    cases items with
    | nil => exact List.nil_sublist _
    | cons item items => exact (ih items).cons_cons key

namespace Shape

variable {shape : Shape α} {key : String} {d : Decoder β} {get : α → β} {set : β → α → α}

theorem Slot.ofJson_parts (slot : shape.Slot key d get set) (keys : shape.keys.Nodup) {value : Json}
    {record : α} (distinct : value.Distinct) (h : shape.ofJson value = .ok record) :
    ReadAt (value.parts shape.keys) key d (get shape.blank) (get record) := by
  cases value with
  | object fields => exact slot.ofJson distinct.keys h
  | array items =>
    obtain ⟨other, fold, ends⟩ := bind_ok h
    have inside : items.length ≤ shape.keys.length := by
      by_contra surplus
      rw [if_neg surplus] at ends
      cases ends
    rw [if_pos inside] at ends
    cases ends
    exact slot.foldlM (keys.sublist (zip_keys_sublist shape.keys items)) fold
  | _ => cases h

end Shape

theorem readAt_named {fields : List (String × Json)} {key : String} {d : Decoder α}
    {R : Json → α → Prop} {pairs : List (String × α)}
    (distinct : ∀ value, fields.lookup key = some value → value.Distinct)
    (read : ReadAt fields key (.fields d) [] pairs)
    (each : ∀ value a, value.Distinct → d.ofJson value = .ok a → R value a) :
    NamedParts R (fieldsOf (fields.lookup key)) pairs := by
  unfold ReadAt at read
  cases found : fields.lookup key with
  | none =>
    rw [found] at read
    rw [read]
    exact .nil
  | some value =>
    rw [found] at read
    have inside := distinct value found
    obtain ⟨inner, rfl, all⟩ := Decoder.fields_ok inside read
    refine all.named.imp fun field mem a read => each _ _ ?_ read
    exact fieldsOf_distinct (fun _ same => Option.some.inj same ▸ inside) mem

theorem readAt_list {fields : List (String × Json)} {key : String} {d : Decoder α}
    {R : Json → α → Prop} {parts : List α}
    (distinct : ∀ value, fields.lookup key = some value → value.Distinct)
    (read : ReadAt fields key (.list d) [] parts)
    (each : ∀ value a, value.Distinct → d.ofJson value = .ok a → R value a) :
    List.Forall₂ R (itemsOf (fields.lookup key)) parts := by
  unfold ReadAt at read
  cases found : fields.lookup key with
  | none =>
    rw [found] at read
    rw [read]
    exact .nil
  | some value =>
    rw [found] at read
    have inside := distinct value found
    cases inside with
    | @array items all =>
      have every := mapM_forall₂ read
      refine ((List.forall₂_and_left items parts).mpr ⟨all, every⟩).imp ?_
      rintro item a ⟨distinct, read⟩
      exact each item a distinct read
    | _ => cases read

theorem Operation.slots :
    shape.Slot "parameters" (.list ParameterNode.decoder) Operation.parameters
      (fun parameters operation => { operation with parameters }) ∧
    shape.Slot "responses" (.fields ResponseNode.decoder) Operation.responses
      (fun responses operation => { operation with responses }) := by
  refine ⟨⟨rfl, fun _ _ => rfl, ?_⟩, ⟨rfl, fun _ _ => rfl, ?_⟩⟩
  all_goals
    intro k ne d' known value change read record
    simp only [shape] at known
    split at known <;> cases known <;> obtain ⟨_, _, rfl⟩ := Decoder.map_ok read <;>
      first | rfl | exact absurd rfl ne

theorem Operation.ofJson_order {value : Json} {operation : Operation} (distinct : value.Distinct)
    (h : shape.ofJson value = .ok operation) : OperationOrder value operation where
  parameters := by
    refine readAt_list (fun _ => distinct.part) (slots.1.ofJson_parts (by decide) distinct h) ?_
    intro part node distinct read
    exact ParameterNode.ofJson_order distinct (Decoder.buffered_ok read)
  responses := by
    refine readAt_named (fun _ => distinct.part) (slots.2.ofJson_parts (by decide) distinct h) ?_
    intro part node distinct read
    exact ResponseNode.ofJson_order distinct (Decoder.buffered_ok read)

namespace PathItem

variable {operations after : List (HttpMethod × Operation)} {fields : List (String × Json)}

theorem addField_cases {field : String × Json} (h : addField operations field = .ok after) :
    (HttpMethod.ofName? field.1 = none ∧ after = operations) ∨
    ∃ method operation, HttpMethod.ofName? field.1 = some method ∧
      Operation.shape.ofJson field.2 = .ok operation ∧
      ((method ∈ operations.map Prod.fst ∧ after = operations) ∨
        method ∉ operations.map Prod.fst ∧ after = operations ++ [(method, operation)]) := by
  unfold addField at h
  cases named : HttpMethod.ofName? field.1 with
  | none =>
    rw [named] at h
    cases h
    exact .inl ⟨rfl, rfl⟩
  | some method =>
    rw [named] at h
    obtain ⟨operation, read, h⟩ := bind_ok h
    refine .inr ⟨method, operation, rfl, read, ?_⟩
    have there : (operations.any fun entry => entry.1 = method) = true ↔
        method ∈ operations.map Prod.fst := by
      simp
    by_cases mem : method ∈ operations.map Prod.fst
    · rw [if_pos (there.mpr mem)] at h
      cases h
      exact .inl ⟨mem, rfl⟩
    · rw [if_neg (mt there.mp mem)] at h
      cases h
      exact .inr ⟨mem, rfl⟩

/-- The methods that are added are those not there yet, each where it is named first. -/
theorem addFields_methods (h : fields.foldlM addField operations = .ok after) :
    after.map Prod.fst = operations.map Prod.fst ++
      ((methodsNamed fields).filter fun method => method ∉ operations.map Prod.fst).eraseDups := by
  -- On the fields; what one of them adds is what later ones are filtered by.
  induction fields generalizing operations with
  | nil =>
    cases h
    simp [methodsNamed]
  | cons field fields ih =>
    rw [List.foldlM_cons] at h
    obtain ⟨middle, first, rest⟩ := bind_ok h
    have methods := ih rest
    rcases addField_cases first with ⟨unnamed, rfl⟩ | ⟨method, operation, named, _, step⟩
    · have skips : methodsNamed (field :: fields) = methodsNamed fields :=
        List.filterMap_cons_none unnamed
      rw [skips]
      exact methods
    · have names : methodsNamed (field :: fields) = method :: methodsNamed fields :=
        List.filterMap_cons_some named
      rw [names]
      rcases step with ⟨there, rfl⟩ | ⟨fresh, rfl⟩
      · rw [List.filter_cons_of_neg (by simpa using there)]
        exact methods
      · rw [List.filter_cons_of_pos (by simpa using fresh), List.eraseDups_cons, List.filter_filter,
          methods, List.map_append, List.append_assoc]
        have same (other : HttpMethod) :
            decide (other ∉ operations.map Prod.fst ++ [method]) =
              (!(other == method) && decide (other ∉ operations.map Prod.fst)) := by
          rw [Bool.eq_iff_iff]
          simp [and_comm]
        simp only [List.map_cons, List.map_nil, same, List.singleton_append]

/-- An operation that is added is the one under the first key that names its method. -/
theorem addFields_each (h : fields.foldlM addField operations = .ok after) :
    ∀ entry ∈ after, entry ∈ operations ∨ entry.1 ∉ operations.map Prod.fst ∧ ∃ field,
      fields.find? (fun field => HttpMethod.ofName? field.1 = some entry.1) = some field ∧
        Operation.shape.ofJson field.2 = .ok entry.2 := by
  induction fields generalizing operations with
  | nil =>
    cases h
    exact fun entry mem => .inl mem
  | cons field fields ih =>
    rw [List.foldlM_cons] at h
    obtain ⟨middle, first, rest⟩ := bind_ok h
    intro entry mem
    rcases addField_cases first with ⟨unnamed, rfl⟩ | ⟨method, operation, named, read, step⟩
    · rcases ih rest entry mem with before | ⟨fresh, there⟩
      · exact .inl before
      · refine .inr ⟨fresh, ?_⟩
        rw [List.find?_cons_of_neg (by simp [unnamed])]
        exact there
    · rcases step with ⟨there, rfl⟩ | ⟨fresh, rfl⟩
      · rcases ih rest entry mem with before | ⟨other, found⟩
        · exact .inl before
        · have ne : method ≠ entry.1 := fun same => other (same ▸ there)
          refine .inr ⟨other, ?_⟩
          rw [List.find?_cons_of_neg (by simp [named, ne])]
          exact found
      · rcases ih rest entry mem with before | ⟨other, found⟩
        · rcases List.mem_append.mp before with before | here
          · exact .inl before
          · cases List.mem_singleton.mp here
            refine .inr ⟨fresh, field, ?_, read⟩
            exact List.find?_cons_of_pos (by simp [named])
        · simp only [List.map_append, List.mem_append, not_or] at other
          have ne : method ≠ entry.1 := fun same => other.2 (by simp [same])
          refine .inr ⟨other.1, ?_⟩
          rw [List.find?_cons_of_neg (by simp [named, ne])]
          exact found

theorem decoder_order {value : Json} {item : PathItem} (distinct : value.Distinct)
    (h : decoder.ofJson value = .ok item) : PathOrder value item := by
  cases distinct with
  | @object fields nodup all =>
    rw [ofJson_object, settleFields_of_nodup nodup] at h
    obtain ⟨operations, added, h⟩ := bind_ok h
    cases h
    constructor
    · have methods := addFields_methods added
      simpa [methodsOf, fieldsOf, Json.asObject?] using methods
    · intro entry mem
      rcases addFields_each added entry mem with before | ⟨_, field, found, read⟩
      · cases before
      · refine ⟨field, found, Operation.ofJson_order ?_ read⟩
        exact all field (List.mem_of_find?_eq_some found)
  | _ => cases h

end PathItem

theorem Components.slots :
    shape.Slot "schemas" (.fields SchemaNode.decoder) Components.schemas
      (fun schemas components => { components with schemas }) ∧
    shape.Slot "parameters" (.fields ParameterNode.decoder) Components.parameters
      (fun parameters components => { components with parameters }) ∧
    shape.Slot "responses" (.fields ResponseNode.decoder) Components.responses
      (fun responses components => { components with responses }) := by
  refine ⟨slot_schemas, ⟨rfl, fun _ _ => rfl, ?_⟩, ⟨rfl, fun _ _ => rfl, ?_⟩⟩
  all_goals
    intro k ne d' known value change read record
    simp only [shape] at known
    split at known <;> cases known <;> obtain ⟨_, _, rfl⟩ := Decoder.map_ok read <;>
      first | rfl | exact absurd rfl ne

theorem Document.ofJson_ok {raw : Json} {document : Document}
    (read : Document.ofJson raw = .ok document) : shape.ofJson raw = .ok document := by
  unfold Document.ofJson at read
  split at read
  · rename_i found
    cases read
    exact found
  · cases read

theorem components_named {raw : Json} {document : Document} (distinct : raw.Distinct)
    (read : Document.ofJson raw = .ok document) {key : String} {d : Decoder α}
    {get : Components → List (String × α)} {set : List (String × α) → Components → Components}
    (slot : Components.shape.Slot key (.fields d) get set) (blank : get {} = [])
    {R : Json → α → Prop} (each : ∀ value a, value.Distinct → d.ofJson value = .ok a → R value a) :
    NamedParts R (fieldsOf (componentsPart? raw key)) (get document.components) := by
  have whole := Document.slots.2.2.2.ofJson_parts (by decide) distinct (Document.ofJson_ok read)
  unfold ReadAt at whole
  unfold componentsPart? Json.part?
  cases found : (raw.parts Document.shape.keys).lookup "components" with
  | none =>
    rw [found] at whole
    rw [whole]
    exact blank ▸ .nil
  | some value =>
    rw [found] at whole
    have inside : value.Distinct := distinct.part found
    have part := slot.ofJson_parts (by decide) inside whole
    have empty : get Components.shape.blank = [] := blank
    rw [empty] at part
    exact readAt_named (fun _ => inside.part) part each

/-- The model of a value is in the order of the value, at every level. -/
theorem Document.ofJson_order {raw : Json} {document : Document} (distinct : raw.Distinct)
    (read : Document.ofJson raw = .ok document) : ModelOrder raw document where
  paths := by
    have part := slots.2.2.1.ofJson_parts (by decide) distinct (ofJson_ok read)
    exact readAt_named (fun _ => distinct.part) part fun _ _ => PathItem.decoder_order
  schemas := components_named distinct read Components.slots.1 rfl fun _ _ inside read =>
    SchemaNode.ofJson_order inside (Decoder.buffered_ok read)
  parameters := components_named distinct read Components.slots.2.1 rfl fun _ _ inside read =>
    ParameterNode.ofJson_order inside (Decoder.buffered_ok read)
  responses := components_named distinct read Components.slots.2.2 rfl fun _ _ inside read =>
    ResponseNode.ofJson_order inside (Decoder.buffered_ok read)

end OpenApiClient
