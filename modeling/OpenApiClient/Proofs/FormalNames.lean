import OpenApiClient.Client.Method
import OpenApiClient.Proofs.NameWords

/-! What the formals of a method are called.
A formal is called after its parameter: by the name that the parameter asks for, or by a numbered
variant of it where that is taken. -/
namespace OpenApiClient

/-- A name without a character; the numbers behind a name are made of digits. -/
theorem candidate_free {base : String} {c : Char} (h : c ∉ base.toList) (mark : c ≠ '_')
    (digit : c.isDigit = false) (n : ℕ) : c ∉ (Script.candidate base n).toList := by
  cases n with
  | zero => exact h
  | succ n =>
    have number : c ∉ (toString (n + 2)).toList := by
      intro mem
      rw [Nat.toString_eq_repr, Nat.toList_repr] at mem
      have isDigit := Nat.isDigit_of_mem_toDigits (by decide) (by decide) mem
      cases digit.symm.trans isDigit
    simp only [Script.candidate, String.toList_append, List.mem_append, not_or]
    exact ⟨⟨h, by simpa using mark⟩, number⟩

theorem freshName_candidate (taken : List String) (base : String) :
    ∃ n, Script.freshName taken base = Script.candidate base n := by
  unfold Script.freshName
  simp only
  cases found : ((List.range ((Script.bodyLocals ++ taken).length + 1)).map
      (Script.candidate base)).find? (· ∉ Script.bodyLocals ++ taken) with
  | none => exact ⟨0, rfl⟩
  | some name =>
    obtain ⟨n, _, rfl⟩ := List.mem_map.mp (List.mem_of_find?_eq_some found)
    exact ⟨n, rfl⟩

def Formal.Stands (formal : Formal) (parameter : Parameter) : Prop :=
  (∃ n, formal.ident = Script.candidate (Script.parameterName parameter.name) n) ∧
    formal.type = typeOfSchema parameter.schema

theorem bindParameters_stand {taken : List String} {parameters : List Parameter} {binding : Binding}
    (h : binding ∈ bindParameters taken parameters) :
    ∃ parameter ∈ parameters, binding.formal.Stands parameter := by
  induction parameters generalizing taken with
  | nil => cases h
  | cons parameter rest ih =>
    rw [bindParameters] at h
    rcases List.mem_cons.mp h with rfl | h
    · exact ⟨parameter, List.mem_cons_self, freshName_candidate _ _, rfl⟩
    · obtain ⟨other, mem, stands⟩ := ih h
      exact ⟨other, List.mem_cons_of_mem _ mem, stands⟩

theorem formals_stand {operation : Operation} {components : Components} {verb : HttpMethod}
    {path name : String} {formal : Formal}
    (h : formal ∈ (operation.method components verb path name).formals) :
    formal = .body ∨ ∃ parameter ∈ operation.resolvedParameters components,
      formal.Stands parameter := by
  have resolved : ∀ location, ∀ parameter ∈ operation.parametersIn components location,
      parameter ∈ operation.resolvedParameters components := by
    intro location parameter mem
    exact (List.mem_filter.mp mem).1
  simp only [Method.formals, List.mem_append, List.mem_map] at h
  rcases h with (⟨binding, mem, rfl⟩ | ⟨binding, mem, rfl⟩) | h
  · obtain ⟨parameter, mem, stands⟩ := bindParameters_stand mem
    exact .inr ⟨parameter, resolved _ _ mem, stands⟩
  · obtain ⟨parameter, mem, stands⟩ := bindParameters_stand mem
    exact .inr ⟨parameter, resolved _ _ mem, stands⟩
  · left
    split at h
    · exact List.mem_singleton.mp h
    · cases h

/-- A character of ASCII that is neither the zero character nor allowed inside an identifier. -/
def Foreign (c : Char) : Prop := c.toNat ≠ 0 ∧ c.toNat < 0x80 ∧ Script.continuesIdentifier c = false

instance (c : Char) : Decidable (Foreign c) := inferInstanceAs (Decidable (_ ∧ _))

def IsWord (name : String) : Prop := name.toList ≠ [] ∧ ∀ c ∈ name.toList, ¬ Foreign c

instance (name : String) : Decidable (IsWord name) :=
  decidable_of_iff (name.toList ≠ [] ∧ name.toList.all (¬ Foreign ·) = true) (by simp [IsWord])

theorem caseForm_foreign {c d : Char} (word : Text.isAlphanumeric c = true) (h : Text.CaseForm c d) :
    ¬ Foreign d := by
  rintro ⟨nonzero, low, foreign⟩
  by_cases ascii : c.toNat < 0x80
  · have forms : c.isAlphanum = true → c.toLower.isAlphanum = true ∧ c.toUpper.isAlphanum = true := by
      apply Text.of_ascii _ ascii
      decide +kernel
    have plain : c.isAlphanum = true := by rwa [Text.isAlphanumeric_of_ascii ascii] at word
    rcases h.of_ascii ascii with rfl | rfl
    · simp [Script.continuesIdentifier, (forms plain).1] at foreign
    · simp [Script.continuesIdentifier, (forms plain).2] at foreign
  · rcases h.ascii_letter (by omega) with far | letter
    · omega
    · simp [Script.continuesIdentifier, Char.isAlphanum, letter] at foreign

theorem isIdentifier_inside {name : String} (h : Script.isIdentifier name = true) :
    ∀ c ∈ name.toList, Script.continuesIdentifier c = true := by
  rw [Script.isIdentifier] at h
  split at h
  · cases h
  · rename_i first rest letters
    simp only [Bool.and_eq_true, List.all_eq_true] at h
    rw [letters]
    refine List.forall_mem_cons.mpr ⟨?_, h.2⟩
    have start := h.1
    simp only [Script.startsIdentifier, Script.continuesIdentifier, Char.isAlphanum,
      Bool.or_eq_true] at start ⊢
    tauto

theorem parameterName_foreign {c : Char} (h : Foreign c) (name : String) :
    c ∉ (Script.parameterName name).toList := by
  have foreign := h.2.2
  have base : c ∉ (if Script.isIdentifier name then name else Text.lowerCamel name).toList := by
    split
    · rename_i plain
      intro mem
      simp [isIdentifier_inside plain c mem] at foreign
    · intro mem
      obtain ⟨source, _, word, form⟩ := Text.mem_lowerCamel mem
      exact caseForm_foreign word form h
  have mark : c ≠ '_' := by
    rintro rfl
    exact absurd foreign (by decide)
  unfold Script.parameterName
  simp only
  generalize (if Script.isIdentifier name then name else Text.lowerCamel name) = wanted at base ⊢
  split
  · rw [String.toList_append, List.mem_append, not_or]
    exact ⟨by simpa using mark, base⟩
  · split
    · rw [String.toList_append, List.mem_append, not_or]
      exact ⟨base, by simpa using mark⟩
    · exact base

theorem candidate_foreign {c : Char} (h : Foreign c) (name : String) (n : ℕ) :
    c ∉ (Script.candidate (Script.parameterName name) n).toList := by
  have foreign := h.2.2
  simp only [Script.continuesIdentifier, Char.isAlphanum, Bool.or_eq_false_iff,
    decide_eq_false_iff_not] at foreign
  exact candidate_free (parameterName_foreign h name) foreign.1.2 foreign.1.1.2 n

theorem candidate_nonempty (name : String) (n : ℕ) :
    (Script.candidate (Script.parameterName name) n).toList ≠ [] := by
  have base : (Script.parameterName name).toList ≠ [] := by
    unfold Script.parameterName
    simp only
    generalize (if Script.isIdentifier name then name else Text.lowerCamel name) = wanted
    split
    · simp
    · rename_i begins
      intro none
      split at none
      · simp at none
      · simp [none] at begins
  cases n with
  | zero => exact base
  | succ n => simp [Script.candidate]

theorem candidate_word (name : String) (n : ℕ) :
    IsWord (Script.candidate (Script.parameterName name) n) :=
  ⟨candidate_nonempty name n, fun _ mem foreign => candidate_foreign foreign name n mem⟩

theorem Formal.Stands.word {formal : Formal} {parameter : Parameter} (h : formal.Stands parameter) :
    IsWord formal.ident := by
  obtain ⟨⟨n, called⟩, _⟩ := h
  rw [called]
  exact candidate_word parameter.name n

theorem Formal.Stands.slash {formal : Formal} {parameter : Parameter} (h : formal.Stands parameter) :
    '/' ∉ formal.ident.toList := by
  intro mem
  exact h.word.2 '/' mem (by decide)

end OpenApiClient
