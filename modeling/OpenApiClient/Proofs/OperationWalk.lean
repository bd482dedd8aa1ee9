import OpenApiClient.Client.Method
import Mathlib.Data.List.Nodup
import Mathlib.Tactic.Common

/-! What becomes of each operation of a document.
`Accounted` tells the contribution of one operation from the operations before it in the walk,
without the identifiers that the walk collects. The collected identifiers are those of the
operations passed, which is the invariant that ties the two together. -/
namespace OpenApiClient

def OccursIn (id : String) (endpoints : List Endpoint) : Prop :=
  ∃ endpoint ∈ endpoints, endpoint.operation.operationId = some id

/-- What an operation contributes after the operations `before` it: one warning and no method
if its identifier is missing, empty or in use, and otherwise its own method with its own warnings. -/
inductive Accounted (components : Components) (before : List Endpoint) (endpoint : Endpoint) :
    Emission → Prop where
  | missing : endpoint.operation.operationId = none ∨ endpoint.operation.operationId = some "" →
      Accounted components before endpoint
        ⟨[], [.missingOperationId endpoint.verb endpoint.path]⟩
  | duplicate {id} : endpoint.operation.operationId = some id → id ≠ "" → OccursIn id before →
      Accounted components before endpoint
        ⟨[], [.duplicateOperationId id endpoint.verb endpoint.path]⟩
  | emitted {id emitted} : endpoint.operation.operationId = some id → id ≠ "" →
      ¬ OccursIn id before →
      endpoint.operation.emit? components endpoint.verb endpoint.path = some emitted →
      Accounted components before endpoint ⟨[emitted], emitted.warnings⟩

theorem identifier_eq_some {operation : Operation} {id : String} :
    operation.identifier? = some id ↔ operation.operationId = some id ∧ id ≠ "" := by
  simp [Operation.identifier?, Option.filter_eq_some_iff]

theorem identifier_eq_none {operation : Operation} :
    operation.identifier? = none ↔
      operation.operationId = none ∨ operation.operationId = some "" := by
  cases h : operation.operationId with
  | none => simp [Operation.identifier?, h]
  | some id => simp [Operation.identifier?, h, Option.filter]

theorem emit_eq_some {operation : Operation} {components : Components} {verb : HttpMethod}
    {path : String} {emitted : EmittedMethod}
    (h : operation.emit? components verb path = some emitted) :
    operation.identifier? = some emitted.method.name := by
  obtain ⟨name, hn, rfl⟩ := Option.map_eq_some_iff.mp h
  exact hn

theorem emit_of_identifier {operation : Operation} (components : Components) (verb : HttpMethod)
    (path : String) {id : String} (h : operation.identifier? = some id) :
    ∃ emitted, operation.emit? components verb path = some emitted ∧ emitted.method.name = id := by
  obtain ⟨emitted, he⟩ : ∃ emitted, operation.emit? components verb path = some emitted := by
    simp [Operation.emit?, h]
  refine ⟨emitted, he, ?_⟩
  exact Option.some.inj ((emit_eq_some he).symm.trans h)

def Collected (used : List String) (before : List Endpoint) : Prop :=
  ∀ id, id ∈ used ↔ id ≠ "" ∧ OccursIn id before

theorem collected_nil : Collected [] [] := by
  intro id
  simp [OccursIn]

theorem occursIn_append {id : String} {before : List Endpoint} {endpoint : Endpoint} :
    OccursIn id (before ++ [endpoint]) ↔
      OccursIn id before ∨ endpoint.operation.operationId = some id := by
  simp [OccursIn, or_and_right, exists_or]

theorem collected_step {used : List String} {before : List Endpoint} (h : Collected used before)
    (endpoint : Endpoint) : Collected (endpoint.usedAfter used) (before ++ [endpoint]) := by
  intro id
  rw [occursIn_append]
  unfold Endpoint.usedAfter
  cases hi : endpoint.operation.identifier? with
  | none =>
    have lacking : id ≠ "" → endpoint.operation.operationId ≠ some id := by
      intro hne he
      rw [identifier_eq_some.mpr ⟨he, hne⟩] at hi
      cases hi
    rw [h id]
    constructor
    · rintro ⟨hne, ho⟩
      exact ⟨hne, .inl ho⟩
    · rintro ⟨hne, ho | ho⟩
      · exact ⟨hne, ho⟩
      · exact (lacking hne ho).elim
  | some name =>
    obtain ⟨hname, hne⟩ := identifier_eq_some.mp hi
    simp only [List.mem_cons, h id, hname, Option.some.injEq]
    constructor
    · rintro (rfl | ⟨hid, ho⟩)
      · exact ⟨hne, .inr rfl⟩
      · exact ⟨hid, .inl ho⟩
    · rintro ⟨hid, ho | rfl⟩
      · exact .inr ⟨hid, ho⟩
      · exact .inl rfl

theorem accounted_step (components : Components) {used : List String} {before : List Endpoint}
    (h : Collected used before) (endpoint : Endpoint) :
    Accounted components before endpoint (endpoint.emission components used) := by
  unfold Endpoint.emission
  cases hi : endpoint.operation.identifier? with
  | none =>
    have none : endpoint.operation.emit? components endpoint.verb endpoint.path = none := by
      simp [Operation.emit?, hi]
    rw [none]
    exact .missing (identifier_eq_none.mp hi)
  | some id =>
    obtain ⟨hid, hne⟩ := identifier_eq_some.mp hi
    obtain ⟨emitted, he, rfl⟩ :=
      emit_of_identifier components endpoint.verb endpoint.path hi
    rw [he]
    by_cases hu : emitted.method.name ∈ used
    · simp only [if_pos hu]
      exact .duplicate hid hne ((h _).mp hu).2
    · simp only [if_neg hu]
      exact .emitted hid hne (fun ho => hu ((h _).mpr ⟨hne, ho⟩)) he

/-- Every operation of a walk is accounted for by a piece of its own, and the walk emits the
pieces one after the other. The induction carries the operations already passed. -/
theorem walk_pieces (components : Components) (rest : List Endpoint) :
    ∀ (before : List Endpoint) (used : List String), Collected used before →
      ∃ pieces : List Emission, pieces.length = rest.length ∧
        (∀ i (hi : i < rest.length) (hp : i < pieces.length),
          Accounted components (before ++ rest.take i) rest[i] pieces[i]) ∧
        (emitFrom components used rest).methods = pieces.flatMap Emission.methods ∧
        (emitFrom components used rest).warnings = pieces.flatMap Emission.warnings := by
  induction rest with
  | nil =>
    intro before used _
    exact ⟨[], rfl, fun i hi => (Nat.not_lt_zero i hi).elim, rfl, rfl⟩
  | cons endpoint rest ih =>
    intro before used hu
    obtain ⟨pieces, length, accounted, methods, warnings⟩ :=
      ih (before ++ [endpoint]) _ (collected_step hu endpoint)
    refine ⟨endpoint.emission components used :: pieces, by simp [length], ?_, ?_, ?_⟩
    · intro i hi hp
      cases i with
      | zero => simpa using accounted_step components hu endpoint
      | succ i => simpa using accounted i (by simpa using hi) (by simpa using hp)
    · simp [emitFrom, Emission.append, methods]
    · simp [emitFrom, Emission.append, warnings]

structure FirstUse (document : Document) (endpoint : Endpoint) (id : String) : Prop where
  nonempty : id ≠ ""
  identified : endpoint.operation.operationId = some id
  first : ∃ before after, document.endpoints = before ++ endpoint :: after ∧ ¬ OccursIn id before

theorem mem_emission {document : Document} {emitted : EmittedMethod} :
    emitted ∈ document.emission.methods ↔ ∃ endpoint,
      FirstUse document endpoint emitted.method.name ∧
        endpoint.operation.emit? document.components endpoint.verb endpoint.path = some emitted := by
  obtain ⟨pieces, length, accounted, methods, -⟩ :=
    walk_pieces document.components document.endpoints [] [] collected_nil
  simp only [List.nil_append] at accounted
  rw [Document.emission, methods, List.mem_flatMap]
  constructor
  · rintro ⟨piece, hp, hm⟩
    obtain ⟨i, hi, rfl⟩ := List.getElem_of_mem hp
    have hi' : i < document.endpoints.length := length ▸ hi
    have split : document.endpoints = document.endpoints.take i ++
        document.endpoints[i] :: document.endpoints.drop (i + 1) := by simp
    generalize hpiece : pieces[i] = piece at hm
    have account := accounted i hi' hi
    rw [hpiece] at account
    cases account with
    | missing h => cases hm
    | duplicate hid hne ho => cases hm
    | emitted hid hne ho he =>
      obtain rfl := List.mem_singleton.mp hm
      have name := emit_eq_some he
      rw [identifier_eq_some.mpr ⟨hid, hne⟩] at name
      obtain rfl := Option.some.inj name
      exact ⟨document.endpoints[i], ⟨hne, hid, _, _, split, ho⟩, he⟩
  · rintro ⟨endpoint, ⟨hne, hid, before, after, split, ho⟩, he⟩
    have hi : before.length < document.endpoints.length := by simp [split]
    have hp : before.length < pieces.length := length ▸ hi
    have account := accounted before.length hi hp
    have here : document.endpoints[before.length] = endpoint := by simp [split]
    have passed : document.endpoints.take before.length = before := by simp [split]
    rw [here, passed] at account
    refine ⟨pieces[before.length], List.getElem_mem hp, ?_⟩
    generalize pieces[before.length] = piece at account
    cases account with
    | missing h =>
      rcases h with h | h <;> rw [hid] at h
      · cases h
      · exact (hne (Option.some.inj h)).elim
    | duplicate hid' hne' ho' =>
      obtain rfl := Option.some.inj (hid.symm.trans hid')
      exact (ho ho').elim
    | emitted hid' hne' ho' he' =>
      obtain rfl := Option.some.inj (he.symm.trans he')
      exact List.mem_singleton_self _

def Endpoint.alone (components : Components) (endpoint : Endpoint) : Option EmittedMethod :=
  endpoint.operation.emit? components endpoint.verb endpoint.path

theorem subset_usedAfter (endpoint : Endpoint) (used : List String) :
    used ⊆ endpoint.usedAfter used := by
  unfold Endpoint.usedAfter
  split
  · exact List.Subset.refl used
  · exact List.subset_cons_self _ _

theorem emission_methods (components : Components) (used : List String) (endpoint : Endpoint) :
    (endpoint.emission components used).methods = [] ∨ ∃ emitted,
      (endpoint.emission components used).methods = [emitted] ∧
        endpoint.alone components = some emitted ∧ emitted.method.name ∉ used ∧
        emitted.method.name ∈ endpoint.usedAfter used := by
  unfold Endpoint.emission
  cases he : endpoint.operation.emit? components endpoint.verb endpoint.path with
  | none => exact .inl rfl
  | some emitted =>
    by_cases hu : emitted.method.name ∈ used
    · exact .inl (by simp [hu])
    · refine .inr ⟨emitted, by simp [hu], he, hu, ?_⟩
      simp [Endpoint.usedAfter, emit_eq_some he]

theorem emitFrom_names (components : Components) (used : List String) (rest : List Endpoint) :
    (∀ emitted ∈ (emitFrom components used rest).methods, emitted.method.name ∉ used) ∧
      ((emitFrom components used rest).methods.map (·.method.name)).Nodup := by
  induction rest generalizing used with
  | nil => simp [emitFrom]
  | cons endpoint rest ih =>
    obtain ⟨fresh, nodup⟩ := ih (endpoint.usedAfter used)
    have later : ∀ emitted ∈ (emitFrom components (endpoint.usedAfter used) rest).methods,
        emitted.method.name ∉ used := fun emitted hm hu =>
      fresh emitted hm (subset_usedAfter endpoint used hu)
    simp only [emitFrom, Emission.append]
    rcases emission_methods components used endpoint with none | ⟨emitted, one, -, hu, ha⟩
    · rw [none, List.nil_append]
      exact ⟨later, nodup⟩
    · rw [one]
      refine ⟨fun other ho => ?_, ?_⟩
      · rcases List.mem_cons.mp ho with rfl | ho
        · exact hu
        · exact later other ho
      · refine List.nodup_cons.mpr ⟨fun hm => ?_, nodup⟩
        obtain ⟨other, ho, name⟩ := List.mem_map.mp hm
        exact fresh other ho (name ▸ ha)

/-- A walk leaves methods out and keeps the order of the others. -/
theorem emitFrom_sublist (components : Components) (used : List String) (rest : List Endpoint) :
    (emitFrom components used rest).methods.Sublist
      (rest.filterMap (Endpoint.alone components)) := by
  induction rest generalizing used with
  | nil => exact List.Sublist.refl []
  | cons endpoint rest ih =>
    simp only [emitFrom, Emission.append]
    rcases emission_methods components used endpoint with none | ⟨emitted, one, he, -, -⟩
    · rw [none, List.nil_append, List.filterMap_cons]
      split
      · exact ih _
      · exact (ih _).cons _
    · rw [one, List.filterMap_cons_some he]
      exact (ih _).cons_cons _

structure WalkAccounted (document : Document) (options : ClientOptions) : Prop where
  order : document.endpoints = document.paths.flatMap fun entry =>
    entry.2.operations.map fun operation => ⟨entry.1, operation.1, operation.2⟩
  /-- Each operation contributes once, in its place of the walk. -/
  pieces : ∃ pieces : List Emission, pieces.length = document.endpoints.length ∧
    (∀ i (hi : i < document.endpoints.length) (hp : i < pieces.length),
      Accounted document.components (document.endpoints.take i) document.endpoints[i] pieces[i]) ∧
    document.emission.methods = pieces.flatMap Emission.methods ∧
    document.emission.warnings = pieces.flatMap Emission.warnings
  nonempty : ∀ emitted ∈ document.emission.methods, emitted.method.name ≠ ""
  distinct : (document.emission.methods.map (·.method.name)).Nodup
  first : ∀ emitted ∈ document.emission.methods, ∃ endpoint,
    FirstUse document endpoint emitted.method.name ∧
      endpoint.alone document.components = some emitted
  complete : ∀ endpoint id, FirstUse document endpoint id → ∃ emitted ∈ document.emission.methods,
    emitted.method.name = id ∧ endpoint.alone document.components = some emitted
  subsequence : document.emission.methods.Sublist
    (document.endpoints.filterMap (Endpoint.alone document.components))
  sources : (document.emission.methods.map (·.method.source options)).Sublist
    (document.endpoints.filterMap fun endpoint =>
      (endpoint.alone document.components).map (·.method.source options))

/-- No operation and no warning is lost, repeated or moved by the walk over a document. -/
theorem document_walk_accounted (document : Document) (options : ClientOptions) :
    WalkAccounted document options where
  order := rfl
  pieces := by
    simpa [Document.emission] using
      walk_pieces document.components document.endpoints [] [] collected_nil
  nonempty := by
    intro emitted hm
    obtain ⟨endpoint, use, -⟩ := mem_emission.mp hm
    exact use.nonempty
  distinct := (emitFrom_names document.components [] document.endpoints).2
  first := fun emitted hm => mem_emission.mp hm
  complete := by
    intro endpoint id use
    obtain ⟨emitted, he, rfl⟩ := emit_of_identifier document.components endpoint.verb
      endpoint.path (identifier_eq_some.mpr ⟨use.identified, use.nonempty⟩)
    exact ⟨emitted, mem_emission.mpr ⟨endpoint, use, he⟩, rfl, he⟩
  subsequence := emitFrom_sublist document.components [] document.endpoints
  sources := by
    have h := (emitFrom_sublist document.components [] document.endpoints).map
      (·.method.source options)
    rwa [List.map_filterMap] at h

end OpenApiClient
