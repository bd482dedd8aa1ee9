import OpenApiClient.Proofs.FormalNames
import Mathlib.Data.List.Nodup

/-! The formals of a method as identifiers.
A name is taken from an endless row of distinct candidates, so that one is always free. What a name in
ASCII asks for is an identifier and no word of the language, and so is every numbered variant of it.
Parameters claim names in turn, those of the path first; what one claims depends on the names of the
parameters before it and on its own, and on nothing else in the operation. -/
namespace OpenApiClient

namespace Script

theorem candidate_injective (base : String) : Function.Injective (candidate base) := by
  -- The base alone is shorter than any numbered variant.
  have longer : ∀ n, base ≠ candidate base (n + 1) := by
    intro n same
    have lengths := congrArg String.length same
    simp only [candidate, String.length_append] at lengths
    have mark : "_".length = 1 := rfl
    omega
  intro n m same
  cases n with
  | zero =>
    cases m with
    | zero => rfl
    | succ m => exact absurd same (longer m)
  | succ n =>
    cases m with
    | zero => exact absurd same.symm (longer n)
    | succ m =>
      have letters := congrArg String.toList same
      simp only [candidate, String.toList_append, List.append_cancel_left_eq, Nat.toString_eq_repr,
        Nat.toList_repr] at letters
      have numbers := congrArg (Nat.ofDigitChars 10 · 0) letters
      simpa using numbers

/-- There is one more candidate than there are names to keep clear of. -/
theorem freshName_free (taken : List String) (base : String) :
    freshName taken base ∉ bodyLocals ++ taken := by
  unfold freshName
  simp only
  generalize bodyLocals ++ taken = blocked
  cases found : ((List.range (blocked.length + 1)).map (candidate base)).find? (· ∉ blocked) with
  | some name => simpa using List.find?_some found
  | none =>
    have all : ((List.range (blocked.length + 1)).map (candidate base)) ⊆ blocked := by
      intro name mem
      simpa using List.find?_eq_none.mp found name mem
    have distinct : ((List.range (blocked.length + 1)).map (candidate base)).Nodup :=
      List.nodup_range.map (candidate_injective base)
    have bound := distinct.length_le_of_subset all
    rw [List.length_map, List.length_range] at bound
    omega

def IsLegal (name : String) : Prop := isIdentifier name = true ∧ name ∉ reservedWords

theorem isIdentifier_append {front : String} (back : String) (h : isIdentifier front = true)
    (inside : ∀ c ∈ back.toList, continuesIdentifier c = true) :
    isIdentifier (front ++ back) = true := by
  unfold isIdentifier at h ⊢
  rw [String.toList_append]
  cases letters : front.toList with
  | nil => simp [letters] at h
  | cons c rest =>
    simp only [letters, List.cons_append, Bool.and_eq_true, List.all_eq_true, List.mem_append] at h ⊢
    refine ⟨h.1, ?_⟩
    rintro d (mem | mem)
    · exact h.2 d mem
    · exact inside d mem

theorem isIdentifier_mark {front : String} (h : isIdentifier front = true) :
    isIdentifier (front ++ "_") = true :=
  isIdentifier_append "_" h (by simp [continuesIdentifier])

theorem marked_not_reserved {name : String} (h : '_' ∈ name.toList) : name ∉ reservedWords := by
  have plain : ∀ word ∈ reservedWords, '_' ∉ word.toList := by decide
  intro reserved
  exact plain name reserved h

theorem candidate_legal {base : String} (h : IsLegal base) (n : ℕ) : IsLegal (candidate base n) := by
  cases n with
  | zero => exact h
  | succ n =>
    have digits : ∀ c ∈ (toString (n + 2)).toList, continuesIdentifier c = true := by
      intro c mem
      rw [Nat.toString_eq_repr, Nat.toList_repr] at mem
      have digit := Nat.isDigit_of_mem_toDigits (by decide) (by decide) mem
      simp [continuesIdentifier, Char.isAlphanum, digit]
    have marked := isIdentifier_mark h.1
    exact ⟨isIdentifier_append _ marked digits, marked_not_reserved (by simp [candidate])⟩

theorem lowerCamel_ascii {name : String} (ascii : name.toList.all (·.toNat < 0x80) = true) :
    ∀ c ∈ (Text.lowerCamel name).toList, c.isAlphanum = true := by
  intro c mem
  obtain ⟨source, here, word, form⟩ := Text.mem_lowerCamel mem
  have low : source.toNat < 0x80 := by simpa using List.all_eq_true.mp ascii source here
  have forms : source.isAlphanum = true →
      source.toLower.isAlphanum = true ∧ source.toUpper.isAlphanum = true := by
    apply Text.of_ascii _ low
    decide +kernel
  rw [Text.isAlphanumeric_of_ascii low] at word
  rcases form.of_ascii low with rfl | rfl
  · exact (forms word).1
  · exact (forms word).2

/-- An identifier that a digit does not begin, and an underscore in front of what one does. -/
theorem identifier_of_parts {base : String}
    (inside : ∀ c ∈ base.toList, continuesIdentifier c = true) :
    isIdentifier (if base.toList.head?.all Char.isDigit then "_" ++ base else base) = true := by
  split
  · rw [isIdentifier, String.toList_append]
    have mark : "_".toList = ['_'] := rfl
    simp only [mark, List.singleton_append, Bool.and_eq_true, List.all_eq_true]
    exact ⟨by decide, inside⟩
  · rename_i begins
    cases letters : base.toList with
    | nil => simp [letters] at begins
    | cons c rest =>
      rw [letters] at inside
      obtain ⟨first, others⟩ := List.forall_mem_cons.mp inside
      simp only [letters, List.head?_cons, Option.all_some, Bool.not_eq_true] at begins
      have starts : startsIdentifier c = true := by
        simpa [startsIdentifier, continuesIdentifier, Char.isAlphanum, begins] using first
      simp only [isIdentifier, letters, starts, Bool.true_and, List.all_eq_true]
      exact others

theorem parameterName_legal {name : String} (ascii : name.toList.all (·.toNat < 0x80) = true) :
    IsLegal (parameterName name) := by
  have inside : ∀ c ∈ (if isIdentifier name then name else Text.lowerCamel name).toList,
      continuesIdentifier c = true := by
    intro c mem
    split at mem
    · rename_i plain
      exact isIdentifier_inside plain c mem
    · simp [continuesIdentifier, lowerCamel_ascii ascii c mem]
  unfold parameterName
  simp only
  generalize (if isIdentifier name then name else Text.lowerCamel name) = base at inside ⊢
  have whole := identifier_of_parts inside
  split
  · rename_i begins
    rw [if_pos begins] at whole
    exact ⟨whole, marked_not_reserved (by simp)⟩
  · rename_i begins
    rw [if_neg begins] at whole
    split
    · exact ⟨isIdentifier_mark whole, marked_not_reserved (by simp)⟩
    · exact ⟨whole, by assumption⟩

end Script

theorem bindParameters_names (taken : List String) (parameters : List Parameter) :
    (bindParameters taken parameters).map Binding.name = parameters.map Parameter.name := by
  induction parameters generalizing taken with
  | nil => rfl
  | cons parameter rest ih => rw [bindParameters, List.map_cons, List.map_cons, ih]

theorem bindParameters_candidate {taken : List String} {parameters : List Parameter}
    {binding : Binding} (h : binding ∈ bindParameters taken parameters) :
    ∃ n, binding.ident = Script.candidate (Script.parameterName binding.name) n := by
  induction parameters generalizing taken with
  | nil => cases h
  | cons parameter rest ih =>
    rw [bindParameters] at h
    rcases List.mem_cons.mp h with rfl | h
    · exact freshName_candidate _ _
    · exact ih h

theorem bindParameters_word {taken : List String} {parameters : List Parameter} {binding : Binding}
    (h : binding ∈ bindParameters taken parameters) : IsWord binding.ident := by
  obtain ⟨n, called⟩ := bindParameters_candidate h
  rw [called]
  exact candidate_word binding.name n

theorem bindParameters_apart (taken : List String) (parameters : List Parameter) :
    ((bindParameters taken parameters).map Binding.ident).Nodup ∧
      ∀ binding ∈ bindParameters taken parameters, binding.ident ∉ Script.bodyLocals ++ taken := by
  induction parameters generalizing taken with
  | nil => simp [bindParameters]
  | cons parameter rest ih =>
    have free := Script.freshName_free taken (Script.parameterName parameter.name)
    rw [bindParameters]
    generalize Script.freshName taken (Script.parameterName parameter.name) = name at free ⊢
    obtain ⟨distinct, apart⟩ := ih (name :: taken)
    simp only [List.mem_append, List.mem_cons, not_or] at apart free ⊢
    constructor
    · refine List.nodup_cons.mpr ⟨?_, distinct⟩
      intro mem
      obtain ⟨other, mem, same⟩ := List.mem_map.mp mem
      exact (apart other mem).2.1 same
    · rintro binding (rfl | mem)
      · exact free
      · exact ⟨(apart binding mem).1, (apart binding mem).2.2⟩

def Method.bindings (method : Method) : List Binding := method.pathBindings ++ method.queryBindings

theorem Method.idents_eq (method : Method) : method.formals.map Formal.ident =
    method.bindings.map Binding.ident ++ if method.hasBody then ["data"] else [] := by
  rw [formals, bindings, List.map_append, List.map_append, List.map_append, List.map_map,
    List.map_map]
  cases method.hasBody with
  | false => rfl
  | true => rfl

theorem bindings_apart (operation : Operation) (components : Components) (verb : HttpMethod)
    (path name : String) : ∀ binding ∈ (operation.method components verb path name).bindings,
      binding.ident ∉ Script.bodyLocals := by
  intro binding mem taken
  rcases List.mem_append.mp mem with mem | mem
  · exact (bindParameters_apart _ _).2 binding mem (List.mem_append_left _ taken)
  · exact (bindParameters_apart _ _).2 binding mem (List.mem_append_left _ taken)

structure FormalsNamed (operation : Operation) (components : Components) (method : Method) :
    Prop where
  idents : method.formals.map Formal.ident = method.bindings.map Binding.ident
    ++ if operation.requestBody.isSome then ["data"] else []
  stand : method.bindings.map Binding.name = (operation.parametersIn components .path
    ++ operation.parametersIn components .query).map Parameter.name
  distinct : (method.formals.map Formal.ident).Nodup
  apart : ∀ binding ∈ method.bindings, binding.ident ∉ ["data", "params", "response"]
  legal : ∀ binding ∈ method.bindings, binding.name.toList.all (·.toNat < 0x80) = true →
    Script.IsLegal binding.ident
  bodyLegal : Script.IsLegal "data"

/-- Whatever the parameters are called, a method tells its formals apart, and names in ASCII become
legal names. -/
theorem formals_named {operation : Operation} {components : Components} {verb : HttpMethod}
    {path : String} {emitted : EmittedMethod}
    (h : operation.emit? components verb path = some emitted) :
    FormalsNamed operation components emitted.method := by
  obtain ⟨name, _, rfl⟩ := Option.map_eq_some_iff.mp h
  have pathApart := bindParameters_apart [] (operation.parametersIn components .path)
  have queryApart := bindParameters_apart
    ((bindParameters [] (operation.parametersIn components .path)).map Binding.ident).reverse
    (operation.parametersIn components .query)
  have apart := bindings_apart operation components verb path name
  have distinct : ((operation.method components verb path name).bindings.map Binding.ident).Nodup := by
    rw [Method.bindings, List.map_append, List.nodup_append']
    refine ⟨pathApart.1, queryApart.1, ?_⟩
    intro ident taken mem
    obtain ⟨binding, bound, rfl⟩ := List.mem_map.mp mem
    exact queryApart.2 binding bound (List.mem_append_right _ (List.mem_reverse.mpr taken))
  constructor
  · exact Method.idents_eq _
  · rw [Method.bindings, List.map_append, List.map_append, ← bindParameters_names [],
      ← bindParameters_names]
    rfl
  · rw [Method.idents_eq, List.nodup_append']
    refine ⟨distinct, by split <;> simp, ?_⟩
    intro ident mem body
    split at body
    · obtain ⟨binding, bound, rfl⟩ := List.mem_map.mp mem
      have called : binding.ident = "data" := List.mem_singleton.mp body
      exact apart binding bound (by simp [called, Script.bodyLocals])
    · cases body
  · exact apart
  · intro binding mem ascii
    have called : ∃ n, binding.ident = Script.candidate (Script.parameterName binding.name) n := by
      rcases List.mem_append.mp mem with mem | mem
      · exact bindParameters_candidate mem
      · exact bindParameters_candidate mem
    obtain ⟨n, called⟩ := called
    rw [called]
    exact Script.candidate_legal (Script.parameterName_legal ascii) n
  · exact ⟨by decide, by decide⟩

def clashingNames : Operation :=
  let parameter (location : ParameterLocation) (name : String) : ParameterNode :=
    .inline { name, location }
  { operationId := some "clash"
    parameters := ["id", "params", "default"].map (parameter .query)
      ++ ["id", "id", "id_2", "user-id", "userId", "data", "class", "", "2fa"].map (parameter .path)
    requestBody := some .null }

theorem clashing_names_told_apart : ∃ emitted,
    clashingNames.emit? {} .post "/clash" = some emitted ∧
    FormalsNamed clashingNames {} emitted.method ∧
    emitted.method.formals.map Formal.ident =
      ["id", "id_2", "id_2_2", "userId", "userId_2", "data_2", "class_", "_", "_2fa",
        "id_3", "params_2", "default_", "data"] := by
  have emitted : clashingNames.emit? {} .post "/clash" =
      some ⟨clashingNames.method {} .post "/clash" "clash", [],
        [.noSuccessResponse "clash" .post "/clash"]⟩ := by rfl
  exact ⟨_, emitted, formals_named emitted, by decide +kernel⟩

/-- The names that parameters with these names claim in turn, where some are taken. -/
def claimNames (taken : List String) : List String → List String
  | [] => []
  | name :: rest =>
    let ident := Script.freshName taken (Script.parameterName name)
    ident :: claimNames (ident :: taken) rest

section Claims

variable (taken : List String)

theorem length_claimNames (names : List String) : (claimNames taken names).length = names.length := by
  induction names generalizing taken with
  | nil => rfl
  | cons name rest ih => rw [claimNames, List.length_cons, List.length_cons, ih]

theorem claimNames_append (names more : List String) : claimNames taken (names ++ more) =
    claimNames taken names ++ claimNames ((claimNames taken names).reverse ++ taken) more := by
  induction names generalizing taken with
  | nil => rfl
  | cons name rest ih =>
    rw [List.cons_append, claimNames, claimNames, ih]
    simp

theorem bindParameters_claims (parameters : List Parameter) :
    (bindParameters taken parameters).map Binding.ident =
      claimNames taken (parameters.map Parameter.name) := by
  induction parameters generalizing taken with
  | nil => rfl
  | cons parameter rest ih =>
    rw [bindParameters, List.map_cons, List.map_cons, claimNames, ih]
    rfl

end Claims

def Operation.claimants (operation : Operation) (components : Components) : List String :=
  (operation.parametersIn components .path ++ operation.parametersIn components .query).map
    Parameter.name

theorem bindings_claim (operation : Operation) (components : Components) (verb : HttpMethod)
    (path name : String) :
    (operation.method components verb path name).bindings.map Binding.ident =
      claimNames [] (operation.claimants components) := by
  rw [Method.bindings, Operation.claimants, List.map_append, List.map_append, claimNames_append,
    ← bindParameters_claims, ← bindParameters_claims, List.append_nil]
  rfl

theorem urlTemplate_congr {bindings others : List Binding}
    (names : bindings.map Binding.name = others.map Binding.name)
    (idents : bindings.map Binding.ident = others.map Binding.ident) (path : String) :
    urlTemplate path bindings = urlTemplate path others := by
  have pairs : bindings.map (fun binding => (binding.name, binding.ident)) =
      others.map fun binding => (binding.name, binding.ident) := by
    rw [← List.zip_map', ← List.zip_map', names, idents]
  have folded : ∀ bindings : List Binding, urlTemplate path bindings =
      (bindings.map fun binding => (binding.name, binding.ident)).foldl
        (fun url pair => Text.replaceAll (placeholder pair.1) (substitution pair.2) url)
        (Script.escapeTemplate path.toList) := by
    intro bindings
    rw [List.foldl_map]
    rfl
  rw [folded, pairs, ← folded]

structure NamesShared (operation other : Operation) (components components' : Components)
    (method method' : Method) : Prop where
  path : method'.pathBindings.map Binding.ident = method.pathBindings.map Binding.ident
  url : method'.path = method.path → method'.call.url = method.call.url
  /-- Query parameters behind those that are there change no name. -/
  appended : ∀ more, (other.parametersIn components' .query).map Parameter.name =
      (operation.parametersIn components .query).map Parameter.name ++ more →
    ∃ kept added, kept.length = (operation.claimants components).length ∧
      added.length = more.length ∧
      method.formals.map Formal.ident =
        kept ++ (if operation.requestBody.isSome then ["data"] else []) ∧
      method'.formals.map Formal.ident =
        kept ++ added ++ if other.requestBody.isSome then ["data"] else []

/-- The formals of the path and the address depend on the names of the path parameters alone, and no
formal depends on the parameters behind its own. -/
theorem formal_names_stable {operation other : Operation} {components components' : Components}
    {verb verb' : HttpMethod} {path path' : String} {emitted emitted' : EmittedMethod}
    (h : operation.emit? components verb path = some emitted)
    (h' : other.emit? components' verb' path' = some emitted')
    (same : (operation.parametersIn components .path).map Parameter.name =
      (other.parametersIn components' .path).map Parameter.name) :
    NamesShared operation other components components' emitted.method emitted'.method := by
  obtain ⟨name, _, rfl⟩ := Option.map_eq_some_iff.mp h
  obtain ⟨name', _, rfl⟩ := Option.map_eq_some_iff.mp h'
  have names : (bindParameters [] (other.parametersIn components' .path)).map Binding.name =
      (bindParameters [] (operation.parametersIn components .path)).map Binding.name := by
    rw [bindParameters_names, bindParameters_names, same]
  have idents : (bindParameters [] (other.parametersIn components' .path)).map Binding.ident =
      (bindParameters [] (operation.parametersIn components .path)).map Binding.ident := by
    rw [bindParameters_claims, bindParameters_claims, same]
  refine ⟨idents, ?_, ?_⟩
  · intro samePath
    have template := urlTemplate_congr names idents path
    simp only [Operation.method] at samePath
    simp only [Method.call, Operation.method, urlLiteral, samePath, template]
  · intro more behind
    have claimants : other.claimants components' = operation.claimants components ++ more := by
      rw [Operation.claimants, Operation.claimants, List.map_append, List.map_append, behind, same,
        List.append_assoc]
    have kept := bindings_claim operation components verb path name
    have both := bindings_claim other components' verb' path' name'
    rw [claimants, claimNames_append, List.append_nil] at both
    refine ⟨_, claimNames (claimNames [] (operation.claimants components)).reverse more,
      length_claimNames [] _, length_claimNames _ more, ?_, ?_⟩
    · rw [Method.idents_eq, kept]
      rfl
    · rw [Method.idents_eq, both]
      rfl

def twinsOperation : Operation where
  operationId := some "twins"
  parameters := [("user-id", .path), ("userId", .path), ("user_id", .query)].map
    fun (name, location) => .inline { name, location }

def mingledOperation : Operation where
  operationId := some "mingled"
  parameters := [.inline { name := "user_id", location := .query },
    .inline { name := "userId", location := .header },
    .inline { name := "user-id", location := .path },
    .reference "#/components/parameters/userId",
    .inline { name := "userId", location := .path },
    .inline { name := "userId", location := .query }]
  requestBody := some .null

theorem mingled_names_shared : ∃ emitted emitted',
    twinsOperation.emit? {} .get "/x" = some emitted ∧
    mingledOperation.emit? {} .put "/x" = some emitted' ∧
    NamesShared twinsOperation mingledOperation {} {} emitted.method emitted'.method ∧
    (emitted.method.formals.map Formal.ident, emitted'.method.formals.map Formal.ident) =
      (["userId", "userId_2", "user_id"], ["userId", "userId_2", "user_id", "userId_3", "data"]) := by
  have emitted : twinsOperation.emit? {} .get "/x" =
      some ⟨twinsOperation.method {} .get "/x" "twins", [], [.noSuccessResponse "twins" .get "/x"]⟩ := by
    rfl
  have emitted' : mingledOperation.emit? {} .put "/x" =
      some ⟨mingledOperation.method {} .put "/x" "mingled", [],
        [.unresolvedParameter "mingled" "#/components/parameters/userId",
          .noSuccessResponse "mingled" .put "/x"]⟩ := by rfl
  exact ⟨_, _, emitted, emitted', formal_names_stable emitted emitted' (by decide), by decide +kernel⟩

end OpenApiClient
