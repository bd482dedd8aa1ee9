import OpenApiClient.Proofs.DocumentOrder

/-! Path items, read from raw maps.
The keys that name a method have to hold operations, all of them, also those that come too late: the
first key of a method decides what stands under it. Other keys are passed over. -/
namespace OpenApiClient

open Json (bind_ok)

def FieldNames (field : String × Json) (method : HttpMethod) : Prop :=
  method.NamedBy field.1

def NamedFirst (fields : List (String × Json)) (method : HttpMethod) (field : String × Json) : Prop :=
  FieldNames field method ∧ ∃ before after, fields = before ++ field :: after ∧
    ∀ earlier ∈ before, ¬ FieldNames earlier method

/-- A field that may stand in a path item: it names no method, or holds an operation. -/
def FieldFits (field : String × Json) : Prop :=
  NamesMethod field.1 → ∃ operation, Operation.shape.ofJson field.2 = .ok operation

def Entered (fields : List (String × Json)) (field : String × Json)
    (entry : HttpMethod × Operation) : Prop :=
  NamedFirst fields entry.1 field ∧ Operation.shape.ofJson field.2 = .ok entry.2

structure PathItemReading (fields : List (String × Json)) : Prop where
  succeeds : (∃ item, PathItem.ofFields fields = .ok item) ↔ ∀ field ∈ fields, FieldFits field
  /-- The reading ends at the first field that does not fit, with what is wrong there. -/
  refuses : ∀ cause, PathItem.ofFields fields = .error cause ↔ ∃ before field after,
    fields = before ++ field :: after ∧ (∀ earlier ∈ before, FieldFits earlier) ∧
      NamesMethod field.1 ∧ Operation.shape.ofJson field.2 = .error cause
  /-- Some of the fields, in their order, are the first of their methods; each gives an operation. -/
  entries : ∀ item, PathItem.ofFields fields = .ok item → ∃ firsts, firsts.Sublist fields ∧
    List.Forall₂ (Entered fields) firsts item.operations
  methods : ∀ item, PathItem.ofFields fields = .ok item →
    (item.operations.map Prod.fst).Nodup ∧
      ∀ method, method ∈ item.operations.map Prod.fst ↔ ∃ field ∈ fields, FieldNames field method
  others : ∀ fields', fields'.filter (fun field => NamesMethod field.1) =
    fields.filter (fun field => NamesMethod field.1) → PathItem.ofFields fields' = PathItem.ofFields fields
  decoded : (fields.map Prod.fst).Nodup →
    PathItem.decoder.ofJson (.object fields) = PathItem.ofFields fields

theorem fieldNames_iff {field : String × Json} {method : HttpMethod} :
    FieldNames field method ↔ HttpMethod.ofName? field.1 = some method := by
  constructor
  · intro named
    obtain ⟨other, found⟩ := Option.isSome_iff_exists.mp (namesMethod_iff.mp ⟨method, named⟩)
    have same : other.name = HttpMethod.asciiLower field.1 := by
      simpa using List.find?_some found
    have apart : ∀ a b : HttpMethod, a.name = b.name → a = b := by
      intro a b
      cases a <;> cases b <;> decide
    rw [found, apart other method (same.trans (HttpMethod.namedBy_iff.mp named).symm)]
  · intro found
    exact HttpMethod.namedBy_iff.mpr (by simpa using List.find?_some found)

theorem unnamed_iff {field : String × Json} :
    ¬ NamesMethod field.1 ↔ HttpMethod.ofName? field.1 = none := by
  rw [namesMethod_iff, Bool.not_eq_true, Option.isSome_eq_false_iff, Option.isNone_iff_eq_none]

namespace PathItem

variable {operations after : List (HttpMethod × Operation)} {fields : List (String × Json)}
  {field : String × Json} {cause : Mismatch}

theorem addField_unnamed (operations : List (HttpMethod × Operation))
    (h : ¬ NamesMethod field.1) : addField operations field = .ok operations := by
  rw [addField, unnamed_iff.mp h]

theorem addField_error : addField operations field = .error cause ↔
    NamesMethod field.1 ∧ Operation.shape.ofJson field.2 = .error cause := by
  by_cases named : NamesMethod field.1
  · obtain ⟨method, found⟩ := Option.isSome_iff_exists.mp (namesMethod_iff.mp named)
    rw [addField, found]
    cases read : Operation.shape.ofJson field.2 with
    | error other => simp [named, bind, Except.bind]
    | ok operation =>
      simp only [bind, Except.bind, reduceCtorEq, and_false, iff_false]
      split <;> nofun
  · simp [addField_unnamed operations named, named]

theorem addField_fits (h : addField operations field = .ok after) : FieldFits field := by
  intro named
  rcases addField_cases h with ⟨unnamed, _⟩ | ⟨_, operation, _, read, _⟩
  · exact absurd named (unnamed_iff.mpr unnamed)
  · exact ⟨operation, read⟩

theorem addFields_fit (h : fields.foldlM addField operations = .ok after) :
    ∀ field ∈ fields, FieldFits field := by
  induction fields generalizing operations with
  | nil => simp
  | cons field fields ih =>
    rw [List.foldlM_cons] at h
    obtain ⟨_, first, rest⟩ := bind_ok h
    exact List.forall_mem_cons.mpr ⟨addField_fits first, ih rest⟩

theorem fitting_added (fit : ∀ field ∈ fields, FieldFits field)
    (operations : List (HttpMethod × Operation)) :
    ∃ after, fields.foldlM addField operations = .ok after := by
  induction fields generalizing operations with
  | nil => exact ⟨operations, rfl⟩
  | cons field fields ih =>
    obtain ⟨here, others⟩ := List.forall_mem_cons.mp fit
    cases first : addField operations field with
    | ok middle =>
      obtain ⟨after, rest⟩ := ih others middle
      exact ⟨after, by rw [List.foldlM_cons, first]; exact rest⟩
    | error cause =>
      obtain ⟨named, wrong⟩ := addField_error.mp first
      obtain ⟨operation, read⟩ := here named
      cases wrong.symm.trans read

theorem addFields_error : fields.foldlM addField operations = .error cause ↔
    ∃ before field later, fields = before ++ field :: later ∧
      (∀ earlier ∈ before, FieldFits earlier) ∧
      NamesMethod field.1 ∧ Operation.shape.ofJson field.2 = .error cause := by
  constructor
  · intro h
    induction fields generalizing operations with
    | nil => cases h
    | cons field fields ih =>
      rw [List.foldlM_cons] at h
      cases first : addField operations field with
      | error other =>
        rw [first] at h
        cases h
        exact ⟨[], field, fields, rfl, by simp, addField_error.mp first⟩
      | ok middle =>
        rw [first] at h
        obtain ⟨before, wrong, later, rfl, fit, refused⟩ := ih h
        refine ⟨field :: before, wrong, later, rfl, ?_, refused⟩
        exact List.forall_mem_cons.mpr ⟨addField_fits first, fit⟩
  · rintro ⟨before, field, later, rfl, fit, refused⟩
    obtain ⟨middle, added⟩ := fitting_added fit operations
    have wrong : addField middle field = .error cause := addField_error.mpr refused
    rw [List.foldlM_append, added]
    change (field :: later).foldlM addField middle = _
    rw [List.foldlM_cons, wrong]
    rfl

theorem addFields_named (fields : List (String × Json))
    (operations : List (HttpMethod × Operation)) :
    fields.foldlM addField operations =
      (fields.filter fun field => NamesMethod field.1).foldlM addField operations := by
  induction fields generalizing operations with
  | nil => rfl
  | cons field fields ih =>
    by_cases named : NamesMethod field.1
    · rw [List.filter_cons_of_pos (by simpa using named), List.foldlM_cons, List.foldlM_cons]
      exact congrArg _ (funext ih)
    · rw [List.filter_cons_of_neg (by simpa using named), List.foldlM_cons,
        addField_unnamed operations named]
      exact ih operations

theorem entered_behind {first : String × Json} {firsts : List (String × Json)}
    {added : List (HttpMethod × Operation)} (entered : List.Forall₂ (Entered fields) firsts added)
    (other : ∀ entry ∈ added, ¬ FieldNames first entry.1) :
    List.Forall₂ (Entered (first :: fields)) firsts added := by
  induction entered with
  | nil => exact .nil
  | cons here _ ih =>
    obtain ⟨unnamed, others⟩ := List.forall_mem_cons.mp other
    obtain ⟨⟨named, before, later, split, none⟩, read⟩ := here
    refine .cons ⟨⟨named, first :: before, later, ?_, ?_⟩, read⟩ (ih others)
    · rw [split, List.cons_append]
    · exact List.forall_mem_cons.mpr ⟨unnamed, none⟩

/-- What is added stands behind what was there, under methods that were not there, and comes from the
first fields of these methods in their order. -/
theorem addFields_entered (h : fields.foldlM addField operations = .ok after) :
    ∃ firsts added, after = operations ++ added ∧ firsts.Sublist fields ∧
      List.Forall₂ (Entered fields) firsts added ∧
      ∀ entry ∈ added, entry.1 ∉ operations.map Prod.fst := by
  induction fields generalizing operations with
  | nil =>
    cases h
    exact ⟨[], [], by simp, List.nil_sublist _, .nil, by simp⟩
  | cons field fields ih =>
    rw [List.foldlM_cons] at h
    obtain ⟨middle, first, rest⟩ := bind_ok h
    obtain ⟨firsts, added, rfl, order, entered, fresh⟩ := ih rest
    rcases addField_cases first with ⟨unnamed, rfl⟩ | ⟨method, operation, named, read, step⟩
    · refine ⟨firsts, added, rfl, order.cons _, entered_behind entered ?_, fresh⟩
      intro entry _ names
      cases unnamed.symm.trans (fieldNames_iff.mp names)
    · -- No later field is the first of this method, which is there by now.
      have other (there : method ∈ middle.map Prod.fst) :
          ∀ entry ∈ added, ¬ FieldNames field entry.1 := by
        intro entry mem names
        have same : method = entry.1 := Option.some.inj (named.symm.trans (fieldNames_iff.mp names))
        exact fresh entry mem (same ▸ there)
      rcases step with ⟨there, rfl⟩ | ⟨new, rfl⟩
      · exact ⟨firsts, added, rfl, order.cons _, entered_behind entered (other there), fresh⟩
      · have here : Entered (field :: fields) field (method, operation) :=
          ⟨⟨fieldNames_iff.mpr named, [], fields, rfl, by simp⟩, read⟩
        refine ⟨field :: firsts, (method, operation) :: added, by simp, order.cons_cons _,
          .cons here (entered_behind entered (other (by simp))), ?_⟩
        refine List.forall_mem_cons.mpr ⟨new, ?_⟩
        intro entry mem there
        exact fresh entry mem (by simp [there])

end PathItem

/-- The map is read to its end if all its fields fit, and then has each method that is named once,
with the operation under the first key that names it. -/
theorem path_item_reading (fields : List (String × Json)) : PathItemReading fields := by
  have made {item : PathItem} (read : PathItem.ofFields fields = .ok item) :
      fields.foldlM PathItem.addField [] = .ok item.operations := by
    obtain ⟨operations, added, done⟩ := bind_ok read
    cases done
    exact added
  have refused {cause : Mismatch} : PathItem.ofFields fields = .error cause ↔
      fields.foldlM PathItem.addField [] = .error cause := by
    unfold PathItem.ofFields
    cases fields.foldlM PathItem.addField [] with
    | ok operations => exact ⟨nofun, nofun⟩
    | error other =>
      change Except.error other = Except.error cause ↔ Except.error other = Except.error cause
      rw [Except.error.injEq, Except.error.injEq]
  constructor
  · constructor
    · rintro ⟨item, read⟩
      exact PathItem.addFields_fit (made read)
    · intro fit
      obtain ⟨operations, added⟩ := PathItem.fitting_added fit []
      exact ⟨⟨operations⟩, by rw [PathItem.ofFields, added]; rfl⟩
  · intro cause
    rw [refused]
    exact PathItem.addFields_error
  · intro item read
    obtain ⟨firsts, added, whole, order, entered, _⟩ := PathItem.addFields_entered (made read)
    rw [List.nil_append] at whole
    exact ⟨firsts, order, whole ▸ entered⟩
  · intro item read
    have methods := PathItem.addFields_methods (made read)
    simp only [List.map_nil, List.nil_append, List.not_mem_nil, not_false_eq_true, decide_true,
      List.filter_true] at methods
    rw [methods]
    refine ⟨nodup_eraseDups _, fun method => ?_⟩
    simp only [List.mem_eraseDups, methodsNamed, List.mem_filterMap, fieldNames_iff]
  · intro fields' same
    rw [PathItem.ofFields, PathItem.ofFields, PathItem.addFields_named, same,
      ← PathItem.addFields_named]
  · intro distinct
    rw [PathItem.ofJson_object, settleFields_of_nodup distinct]

/-- A field that comes too late for its method has to hold an operation all the same. -/
example : (PathItem.ofFields [("get", .object []), ("x", .null), ("GET", .null)]).isOk = false := rfl

end OpenApiClient
