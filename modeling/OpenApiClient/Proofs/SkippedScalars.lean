import OpenApiClient.Json.Decoder
import OpenApiClient.Proofs.SettledValues
import Mathlib.Data.List.TakeWhile

/-! Skipping strings and numbers.
A string or a number that can be read is skipped up to the same place, and takes up input. -/
namespace OpenApiClient.Json

variable {s rest : List Symbol}

theorem length_skipBlanks (s : List Symbol) : (skipBlanks s).length ≤ s.length :=
  (List.dropWhile_suffix _).length_le

theorem skipBlanks_skipBlanks (s : List Symbol) : skipBlanks (skipBlanks s) = skipBlanks s := by
  refine List.dropWhile_eq_self_iff.mpr fun some => ?_
  simpa [skipBlanks] using List.dropWhile_get_zero_not isBlankSymbol s some

theorem readWord_length {word : List Char} (h : readWord word s = .ok rest) :
    rest.length ≤ s.length := by
  induction word generalizing s with
  | nil =>
    cases h
    exact Nat.le_refl _
  | cons c word ih =>
    cases s with
    | nil => cases h
    | cons symbol s =>
      rw [readWord] at h
      by_cases same : symbol = .char c
      · rw [if_pos same] at h
        have := ih h
        simp only [List.length_cons]
        omega
      · rw [if_neg same] at h
        cases h

theorem skipString_stray (byte : UInt8) (s : List Symbol) :
    skipString (.stray byte :: s) = skipString s := by
  rw [skipString.eq_def]

theorem skipString_quote (s : List Symbol) : skipString (.char '"' :: s) = .ok s := by
  rw [skipString.eq_def]
  exact if_pos rfl

theorem skipString_plain {c : Char} (quote : c ≠ '"') (backslash : c ≠ '\\')
    (visible : ¬ c.toNat < 0x20) (s : List Symbol) : skipString (.char c :: s) = skipString s := by
  rw [skipString.eq_def]
  simp only [if_neg quote, if_neg backslash, if_neg visible]

theorem skipString_unicode {n : ℕ} (h : readHex s = .ok n) :
    skipString (.char '\\' :: .char 'u' :: s) = skipString (s.drop 4) := by
  rw [skipString, if_neg (by decide), if_pos rfl]
  simp only [h, bind, Except.bind]

theorem skipString_short {e : Char} (h : e ∈ ['"', '\\', '/', 'b', 'f', 'n', 'r', 't']) :
    skipString (.char '\\' :: .char e :: s) = skipString s := by
  have other : e ≠ 'u' := by
    rintro rfl
    exact absurd h (by decide)
  rw [skipString, if_neg (by decide), if_pos rfl, if_pos h]
  exact other

/-- The second half of a pair is an escape of its own for the skipping. -/
theorem skipString_lowSurrogate {high taken : ℕ} {c : Char}
    (h : readLowSurrogate high s = .ok (c, taken)) : skipString s = skipString (s.drop 6) ∧ taken = 11 := by
  unfold readLowSurrogate at h
  split at h
  · cases h
  · cases h
  · obtain ⟨low, read, h⟩ := bind_ok h
    split at h
    · simp only [pure, Except.pure, Except.ok.injEq, Prod.mk.injEq] at h
      exact ⟨skipString_unicode read, h.2.symm⟩
    · cases h
  · cases h
  · cases h

theorem skipString_escape {c : Char} {taken : ℕ} (h : readEscape s = .ok (c, taken)) :
    skipString (.char '\\' :: s) = skipString (s.drop taken) := by
  unfold readEscape at h
  split at h
  case h_2 digits =>
    obtain ⟨n, read, h⟩ := bind_ok h
    split at h
    · cases h
    · split at h
      · obtain ⟨second, rfl⟩ := skipString_lowSurrogate h
        rw [skipString_unicode read, second, List.drop_drop]
        rfl
      · cases h
        exact skipString_unicode read
  all_goals
    cases h <;> exact skipString_short (by decide)

theorem skipString_of_readChars {sound : Bool} {chars : List Char}
    (h : readChars sound s = .ok (chars, rest)) : skipString s = .ok rest ∧ rest.length < s.length := by
  fun_induction readChars sound s generalizing chars with
  | case1 => cases h
  | case2 sound byte s ih =>
    obtain ⟨skipped, shorter⟩ := ih h
    exact ⟨(skipString_stray byte s).trans skipped, Nat.lt_succ_of_lt shorter⟩
  | case3 s =>
    cases h
    exact ⟨skipString_quote rest, Nat.lt_succ_self _⟩
  | case4 => cases h
  | case5 sound s _ ih =>
    obtain ⟨⟨escaped, taken⟩, first, h⟩ := bind_ok h
    obtain ⟨⟨more, after⟩, read, h⟩ := bind_ok h
    cases h
    obtain ⟨skipped, shorter⟩ := ih taken read
    have dropped : (s.drop taken).length ≤ s.length := by simp
    refine ⟨(skipString_escape first).trans skipped, ?_⟩
    simp only [List.length_cons]
    omega
  | case6 => cases h
  | case7 sound c s quote backslash control ih =>
    obtain ⟨⟨more, after⟩, read, h⟩ := bind_ok h
    cases h
    obtain ⟨skipped, shorter⟩ := ih read
    exact ⟨(skipString_plain quote backslash control s).trans skipped, Nat.lt_succ_of_lt shorter⟩

theorem skipString_of_readString {text : String} (h : readString s = .ok (text, rest)) :
    skipString s = .ok rest ∧ rest.length < s.length := by
  obtain ⟨⟨chars, after⟩, read, h⟩ := bind_ok h
  cases h
  exact skipString_of_readChars read

theorem takeDigits_length {digits : List ℕ} (h : takeDigits s = (digits, rest)) :
    digits.length + rest.length = s.length := by
  cases h
  rw [List.length_map, ← List.length_append, List.takeWhile_append_dropWhile]

theorem skipDigits_of_take {d : ℕ} {digits : List ℕ} (h : takeDigits s = (d :: digits, rest)) :
    skipDigits s = .ok rest ∧ rest.length < s.length := by
  have length := takeDigits_length h
  rw [skipDigits, h]
  simp only [List.length_cons] at length
  exact ⟨rfl, by omega⟩

theorem skipDigits_of_readFraction {digits : List ℕ} (h : readFraction s = .ok (digits, rest)) :
    skipDigits s = .ok rest ∧ rest.length < s.length := by
  unfold readFraction at h
  cases eq : takeDigits s with
  | mk taken after =>
    rw [eq] at h
    cases taken with
    | nil => cases after <;> cases h
    | cons d taken =>
      cases h
      exact skipDigits_of_take eq

theorem skipExponent_of_readExponent {power : Bool × List ℕ}
    (h : readExponent s = .ok (power, rest)) : skipExponent s = .ok rest ∧ rest.length < s.length := by
  have digits {symbol : Symbol} {more : List Symbol} {down : Bool}
      (h : (if isDigit symbol then
          .ok ((down, (takeDigits (symbol :: more)).1), (takeDigits (symbol :: more)).2)
        else .error ⟨.invalidNumber, symbol :: more, 1⟩ : Except Stop _) = .ok (power, rest)) :
      skipDigits (symbol :: more) = .ok rest ∧ rest.length < (symbol :: more).length := by
    by_cases digit : isDigit symbol = true
    · rw [if_pos digit] at h
      cases h
      have taken : takeDigits (symbol :: more) = (digitValue symbol ::
          (more.takeWhile isDigit).map digitValue, more.dropWhile isDigit) := by
        simp [takeDigits, digit]
      rw [taken]
      exact skipDigits_of_take taken
    · rw [if_neg digit] at h
      cases h
  unfold readExponent at h
  unfold skipExponent
  split
  · rename_i more
    cases more with
    | nil => cases h
    | cons symbol more => exact (digits h).imp id Nat.lt_succ_of_lt
  · rename_i more
    cases more with
    | nil => cases h
    | cons symbol more => exact (digits h).imp id Nat.lt_succ_of_lt
  · rename_i plus minus
    split at h
    rename_i eq
    split at eq
    · exact absurd rfl (plus _)
    · exact absurd rfl (minus _)
    · cases eq
      cases s with
      | nil => cases h
      | cons symbol more => exact digits h

theorem readWhole_ok {digits : List ℕ} (h : readWhole s = .ok (digits, rest)) :
    takeDigits s = (digits, rest) ∧ digits ≠ [] ∧ ∀ d more, digits ≠ 0 :: d :: more := by
  unfold readWhole at h
  cases eq : takeDigits s with
  | mk taken after =>
    rw [eq] at h
    match taken with
    | [] => cases after <;> cases h
    | 0 :: d :: more => cases h
    | [d] =>
      cases d <;> cases h <;> exact ⟨rfl, by simp, by simp⟩
    | (d + 1) :: e :: more =>
      cases h
      exact ⟨rfl, by simp, by simp⟩

theorem skipExponent_of_readNumeral {numeral : Numeral} (make : Option (Bool × List ℕ) → Numeral) :
    (match s with
      | .char 'e' :: rest | .char 'E' :: rest => do
        let (power, rest) ← readExponent rest
        pure (make (some power), rest)
      | _ => pure (make none, s) : Except Stop (Numeral × List Symbol)) = .ok (numeral, rest) →
    (match s with
      | .char 'e' :: rest | .char 'E' :: rest => skipExponent rest
      | _ => pure s : Except Halt (List Symbol)) = .ok rest ∧ rest.length ≤ s.length := by
  intro h
  split at h
  · obtain ⟨⟨power, after⟩, read, h⟩ := bind_ok h
    cases h
    obtain ⟨skipped, shorter⟩ := skipExponent_of_readExponent read
    exact ⟨skipped, by simp only [List.length_cons]; omega⟩
  · obtain ⟨⟨power, after⟩, read, h⟩ := bind_ok h
    cases h
    obtain ⟨skipped, shorter⟩ := skipExponent_of_readExponent read
    exact ⟨skipped, by simp only [List.length_cons]; omega⟩
  · cases h
    exact ⟨rfl, Nat.le_refl _⟩

theorem skipNumber_of_readNumeral {negative : Bool} {numeral : Numeral}
    (h : readNumeral negative s = .ok (numeral, rest)) :
    skipNumber s = .ok rest ∧ rest.length < s.length := by
  obtain ⟨⟨whole, after⟩, first, h⟩ := bind_ok h
  obtain ⟨taken, nonempty, zero⟩ := readWhole_ok first
  have shorter := takeDigits_length taken
  have begins : 0 < whole.length := List.length_pos_iff.mpr nonempty
  unfold skipNumber
  rw [taken]
  split
  · rename_i eq
    cases eq
    exact absurd rfl nonempty
  · rename_i eq
    cases eq
    exact absurd rfl (zero _ _)
  · rename_i eq
    cases eq
    simp only [pure_bind]
    by_cases point : ∃ more, after = .char '.' :: more
    · obtain ⟨more, rfl⟩ := point
      obtain ⟨⟨digits, later⟩, second, h⟩ := bind_ok h
      obtain ⟨skipped, fewer⟩ := skipDigits_of_readFraction second
      obtain ⟨ended, last⟩ := skipExponent_of_readNumeral (⟨negative, whole, some digits, ·⟩) h
      simp only [List.length_cons] at shorter last
      simp only [skipped, bind, Except.bind]
      exact ⟨ended, by omega⟩
    · have other (more : List Symbol) : after ≠ .char '.' :: more := fun eq => point ⟨more, eq⟩
      simp only at h ⊢
      obtain ⟨ended, last⟩ := skipExponent_of_readNumeral (⟨negative, whole, none, ·⟩) h
      dsimp only at last
      exact ⟨ended, by omega⟩

theorem skipNumber_of_readNumber {negative : Bool} {n : Number}
    (h : readNumber negative s = .ok (n, rest)) :
    skipNumber s = .ok rest ∧ rest.length < s.length := by
  obtain ⟨⟨numeral, after⟩, read, h⟩ := bind_ok h
  dsimp only at h
  split at h
  · cases h
    exact skipNumber_of_readNumeral read
  · cases h

end OpenApiClient.Json
