import OpenApiClient.Proofs.SkippedScalars

/-! Skipping values.
A value that can be read can be skipped, up to the same place. The walk over open containers takes
at most one step for each symbol, so the steps it is given are enough. -/
namespace OpenApiClient.Json

variable {s rest : List Symbol}

theorem nextItem_none {first : Bool} (h : nextItem first s = .ok none) :
    ∃ after, skipBlanks s = .char ']' :: after := by
  unfold nextItem at h
  split at h
  · cases h
  · exact ⟨_, by assumption⟩
  · split at h
    · cases h
    · split at h <;> cases h
  · split at h <;> cases h

theorem nextItem_begins {next : List Symbol} (h : nextItem true s = .ok (some next)) :
    next = skipBlanks s ∧ next ≠ [] ∧ ∀ after, next ≠ .char ']' :: after := by
  unfold nextItem at h
  split at h
  · cases h
  · cases h
  · rename_i front
    cases h
    exact ⟨front.symm, by simp, by simp⟩
  · rename_i some open_ _
    cases h
    exact ⟨rfl, some, open_⟩

theorem nextItem_goes {next : List Symbol} (h : nextItem false s = .ok (some next)) :
    ∃ after, skipBlanks s = .char ',' :: after ∧ next = skipBlanks after := by
  unfold nextItem at h
  split at h
  · cases h
  · cases h
  · rename_i after front
    rw [if_neg Bool.false_ne_true] at h
    split at h
    · cases h
    · cases h
    · cases h
      exact ⟨after, front, rfl⟩
  · cases h

theorem nextKey_none {first : Bool} (h : nextKey first s = .ok none) :
    ∃ after, skipBlanks s = .char '\x7d' :: after := by
  unfold nextKey at h
  split at h
  · cases h
  · exact ⟨_, by assumption⟩
  · split at h
    · cases h
    · split at h <;> cases h
  · split at h <;> cases h
  · split at h <;> cases h

theorem nextKey_begins {next : List Symbol} (h : nextKey true s = .ok (some next)) :
    skipBlanks s = .char '"' :: next := by
  unfold nextKey at h
  split at h
  · cases h
  · cases h
  · cases h
  · rename_i front
    cases h
    exact front
  · cases h

theorem nextKey_goes {next : List Symbol} (h : nextKey false s = .ok (some next)) :
    ∃ after, skipBlanks s = .char ',' :: after ∧ skipBlanks after = .char '"' :: next := by
  unfold nextKey at h
  split at h
  · cases h
  · cases h
  · rename_i after front
    rw [if_neg Bool.false_ne_true] at h
    split at h
    · cases h
    · rename_i quote
      cases h
      exact ⟨after, front, quote⟩
    · cases h
    · cases h
  · cases h
  · cases h

theorem nextItem_length {first : Bool} {next : List Symbol}
    (h : nextItem first s = .ok (some next)) : next.length ≤ s.length := by
  have blanks := length_skipBlanks s
  cases first with
  | true =>
    obtain ⟨rfl, _, _⟩ := nextItem_begins h
    exact blanks
  | false =>
    obtain ⟨after, front, rfl⟩ := nextItem_goes h
    have inner := length_skipBlanks after
    rw [front, List.length_cons] at blanks
    omega

theorem nextKey_length {first : Bool} {next : List Symbol}
    (h : nextKey first s = .ok (some next)) : next.length < s.length := by
  have blanks := length_skipBlanks s
  cases first with
  | true =>
    rw [nextKey_begins h, List.length_cons] at blanks
    omega
  | false =>
    obtain ⟨after, front, quote⟩ := nextKey_goes h
    have inner := length_skipBlanks after
    rw [front, List.length_cons] at blanks
    rw [quote, List.length_cons] at inner
    omega

theorem readColon_length (h : readColon s = .ok rest) : rest.length < s.length := by
  have blanks := length_skipBlanks s
  unfold readColon at h
  split at h
  · cases h
  · rename_i front
    cases h
    rw [front, List.length_cons] at blanks
    omega
  · cases h

theorem skipKey_quote {text : String} {after : List Symbol} {next : List Symbol}
    (quote : skipBlanks s = .char '"' :: next) (read : readString next = .ok (text, after))
    (colon : readColon after = .ok rest) : skipKey s = .ok rest := by
  unfold skipKey
  rw [quote]
  simp only [(skipString_of_readString read).1, bind, Except.bind]
  exact colon

/-- Skipping goes from one input to another, with fewer steps than symbols. -/
def SkipsTo (s rest : List Symbol) : Prop :=
  ∃ steps, steps + rest.length < s.length ∧ ∀ fuel enclosing,
    skipWithin (fuel + steps + 1) enclosing s = skipAfter fuel enclosing rest

def Leaves (kind : Enclosing) (s rest : List Symbol) : Prop :=
  ∃ steps, steps + rest.length < s.length ∧ ∀ fuel outer,
    skipAfter (fuel + steps + 1) (kind :: outer) s = skipAfter fuel outer rest

theorem SkipsTo.of_blanks (h : SkipsTo (skipBlanks s) rest) : SkipsTo s rest := by
  obtain ⟨steps, fewer, skips⟩ := h
  have blanks := length_skipBlanks s
  refine ⟨steps, by omega, fun fuel enclosing => ?_⟩
  rw [← skips fuel enclosing, skipWithin, skipWithin, skipBlanks_skipBlanks]

theorem SkipsTo.leaves {middle : List Symbol} {kind : Enclosing} (value : SkipsTo s middle)
    (out : Leaves kind middle rest) :
    ∃ steps, steps + rest.length ≤ s.length ∧ ∀ fuel outer,
      skipWithin (fuel + steps) (kind :: outer) s = skipAfter fuel outer rest := by
  obtain ⟨steps, fewer, skips⟩ := value
  obtain ⟨steps', fewer', skips'⟩ := out
  refine ⟨steps' + steps + 2, by omega, fun fuel outer => ?_⟩
  have count : fuel + (steps' + steps + 2) = fuel + steps' + 1 + steps + 1 := by omega
  rw [count, skips, skips']

theorem length_passed {symbol : Symbol} {after : List Symbol}
    (front : skipBlanks s = symbol :: after) : ((skipBlanks s).drop 1).length < s.length := by
  have blanks := length_skipBlanks s
  rw [front, List.length_cons] at blanks
  rw [front, List.drop_one, List.tail_cons]
  exact blanks

section Containers

variable {bound depth : ℕ}
  (each : ∀ {s rest value}, readContent bound depth s = .ok (value, rest) → SkipsTo s rest)

include each

theorem leaves_list {fuel : ℕ} {items : List Json}
    (h : readItems (readContent bound depth) fuel false s = .ok (items, rest)) :
    Leaves .list s rest := by
  -- On the fuel of the reading; the steps of the walk are counted apart from it.
  induction fuel generalizing s items with
  | zero => cases h
  | succ fuel ih =>
    rcases readItems_ok h with ⟨goes, _, rfl⟩ | ⟨next, item, middle, more, goes, first, others, _⟩
    · obtain ⟨after, front⟩ := nextItem_none goes
      refine ⟨0, by simpa using length_passed front, fun fuel outer => ?_⟩
      rw [skipAfter, front]
      rfl
    · obtain ⟨after, front, rfl⟩ := nextItem_goes goes
      obtain ⟨steps, fewer, skips⟩ := (each first).of_blanks.leaves (ih others)
      have blanks := length_skipBlanks s
      rw [front, List.length_cons] at blanks
      refine ⟨steps, by omega, fun fuel outer => ?_⟩
      rw [← skips fuel outer, skipAfter, front]
      rfl

theorem leaves_object {fuel : ℕ} {before pairs : List (String × Json)}
    (h : foldFields (pairField (readContent bound depth)) fuel false before s =
      .ok (pairs, rest)) : Leaves .object s rest := by
  induction fuel generalizing s before with
  | zero => cases h
  | succ fuel ih =>
    rcases foldFields_ok h with
      ⟨goes, _, rfl⟩ | ⟨next, key, afterKey, value, item, middle, goes, named, colon, first, others⟩
    · obtain ⟨after, front⟩ := nextKey_none goes
      refine ⟨0, by simpa using length_passed front, fun fuel outer => ?_⟩
      rw [skipAfter, front]
      rfl
    · obtain ⟨after, front, quote⟩ := nextKey_goes goes
      obtain ⟨steps, fewer, skips⟩ := (each first).leaves (ih others)
      have shorter := nextKey_length goes
      have shorter' := (skipString_of_readString named).2
      have passed := readColon_length colon
      refine ⟨steps, by omega, fun fuel outer => ?_⟩
      rw [← skips fuel outer, skipAfter, front]
      simp only [skipKey_quote quote named colon, bind, Except.bind]

theorem skipsTo_list {fuel : ℕ} {items : List Json}
    (h : readItems (readContent bound depth) fuel true s = .ok (items, rest)) :
    SkipsTo (.char '[' :: s) rest := by
  have bracket : skipBlanks (.char '[' :: s) = .char '[' :: s := rfl
  cases fuel with
  | zero => cases h
  | succ fuel =>
    rcases readItems_ok h with ⟨goes, _, rfl⟩ | ⟨next, item, middle, more, goes, first, others, _⟩
    · obtain ⟨after, front⟩ := nextItem_none goes
      have passed := length_passed front
      refine ⟨0, by rw [List.length_cons]; omega, fun fuel enclosing => ?_⟩
      rw [skipWithin, bracket]
      simp only [front]
      rfl
    · obtain ⟨rfl, some, opens⟩ := nextItem_begins goes
      obtain ⟨steps, fewer, skips⟩ := (each first).leaves (leaves_list each others)
      have blanks := length_skipBlanks s
      refine ⟨steps, by rw [List.length_cons]; omega, fun fuel enclosing => ?_⟩
      rw [← skips fuel enclosing, skipWithin, bracket]
      -- `some` and `opens` leave only the last case of what may follow the bracket.
      simp only

theorem skipsTo_object {fuel : ℕ} {pairs : List (String × Json)}
    (h : foldFields (pairField (readContent bound depth)) fuel true [] s = .ok (pairs, rest)) :
    SkipsTo (.char '\x7b' :: s) rest := by
  have bracket : skipBlanks (.char '\x7b' :: s) = .char '\x7b' :: s := rfl
  cases fuel with
  | zero => cases h
  | succ fuel =>
    rcases foldFields_ok h with
      ⟨goes, _, rfl⟩ | ⟨next, key, afterKey, value, item, middle, goes, named, colon, first, others⟩
    · obtain ⟨after, front⟩ := nextKey_none goes
      have passed := length_passed front
      refine ⟨0, by rw [List.length_cons]; omega, fun fuel enclosing => ?_⟩
      rw [skipWithin, bracket]
      simp only [front]
      rfl
    · have quote := nextKey_begins goes
      have keyed : skipKey (.char '"' :: next) = .ok value := skipKey_quote rfl named colon
      obtain ⟨steps, fewer, skips⟩ := (each first).leaves (leaves_object each others)
      have shorter := nextKey_length goes
      have shorter' := (skipString_of_readString named).2
      have passed := readColon_length colon
      refine ⟨steps, by rw [List.length_cons]; omega, fun fuel enclosing => ?_⟩
      rw [← skips fuel enclosing, skipWithin, bracket]
      simp only [quote]
      change skipKey (.char '"' :: next) >>= _ = _
      rw [keyed]
      rfl

end Containers

theorem skipsTo_word {c : Char} {word : List Char} (read : readWord word s = .ok rest)
    (front : ∀ fuel enclosing, skipWithin (fuel + 1) enclosing (.char c :: s) =
      readWord word s >>= skipAfter fuel enclosing) : SkipsTo (.char c :: s) rest := by
  have shorter := readWord_length read
  refine ⟨0, by rw [List.length_cons]; omega, fun fuel enclosing => ?_⟩
  rw [Nat.add_zero, front, read]
  rfl

theorem skipsTo_number {symbol : Symbol} (digit : isDigit symbol = true)
    (skipped : skipNumber (symbol :: s) = .ok rest) (shorter : rest.length < (symbol :: s).length) :
    SkipsTo (symbol :: s) rest := by
  have starts (c : Char) (no : c.isDigit = false) : symbol ≠ .char c := by
    rintro rfl
    exact absurd (digit.symm.trans no) (by decide)
  have front : skipBlanks (symbol :: s) = symbol :: s := by
    refine List.dropWhile_cons_of_neg ?_
    cases symbol with
    | stray byte => cases digit
    | char c => exact Bool.eq_false_iff.mp (starts_digit digit).1
  refine ⟨0, by omega, fun fuel enclosing => ?_⟩
  rw [skipWithin, front]
  split
  case h_1 => contradiction
  case h_9 =>
    rename_i eq
    cases eq
    rw [if_pos digit, skipped]
    rfl
  all_goals
    rename_i eq
    exact absurd (List.cons.inj eq).1 (starts _ (by decide))

theorem Front.skipsTo {bound depth : ℕ} {value : Json} (front : Front bound depth s value rest)
    (inner : ∀ less, depth = less + 1 → ∀ {s rest value},
      readContent bound less s = .ok (value, rest) → SkipsTo s rest) : SkipsTo s rest := by
  cases front with
  | null read => exact skipsTo_word read fun _ _ => rfl
  | yes read => exact skipsTo_word read fun _ _ => rfl
  | no read => exact skipsTo_word read fun _ _ => rfl
  | @string _ s text _ read =>
    obtain ⟨skipped, shorter⟩ := skipString_of_readString read
    refine ⟨0, by rw [List.length_cons]; omega, fun fuel enclosing => ?_⟩
    change skipString s >>= skipAfter fuel enclosing = _
    rw [skipped]
    rfl
  | @negative _ s n _ read =>
    obtain ⟨skipped, shorter⟩ := skipNumber_of_readNumber read
    refine ⟨0, by rw [List.length_cons]; omega, fun fuel enclosing => ?_⟩
    change skipNumber s >>= skipAfter fuel enclosing = _
    rw [skipped]
    rfl
  | number digit read =>
    obtain ⟨skipped, shorter⟩ := skipNumber_of_readNumber read
    exact skipsTo_number digit skipped shorter
  | @list less _ _ _ read => exact skipsTo_list (inner less rfl) read
  | @object less _ _ _ read => exact skipsTo_object (inner less rfl) read

/-- What is read can be skipped, up to the same place. -/
theorem skipsTo_of_readContent {bound depth : ℕ} {value : Json}
    (h : readContent bound depth s = .ok (value, rest)) : SkipsTo s rest := by
  induction depth using Nat.strongRecOn generalizing s rest value with
  | ind depth ih =>
    refine ((readContent_front h).skipsTo fun less eq => ?_).of_blanks
    exact ih less (by omega)

theorem skipValue_of_readContent {bound depth : ℕ} {value : Json}
    (h : readContent bound depth s = .ok (value, rest)) (short : s.length ≤ bound) :
    skipValue bound s = .ok rest := by
  obtain ⟨steps, fewer, skips⟩ := skipsTo_of_readContent h
  -- There are fewer steps than symbols, so two for each symbol are enough.
  have enough : 2 * bound = 2 * bound - steps - 1 + steps + 1 := by omega
  rw [skipValue, enough, skips, skipAfter]

theorem readContent_length {bound depth : ℕ} {value : Json}
    (h : readContent bound depth s = .ok (value, rest)) : rest.length < s.length := by
  obtain ⟨steps, fewer, _⟩ := skipsTo_of_readContent h
  omega

end OpenApiClient.Json
