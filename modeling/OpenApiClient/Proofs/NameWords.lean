import OpenApiClient.Script
import Mathlib.Tactic.Common

/-! Names in camel case, and the names that a script may bind.
The words of a name hold its letters and digits in order. Each character of its camel case is a case
form of one of them, and the first one is a lowercase form of the first. Which characters beyond ASCII
may stand in a name of a script is for the tables of Unicode to say; an `Alphabet` takes them as they
are there and keeps what they have in common: a letter in another case is a letter. -/
namespace OpenApiClient

namespace Text

theorem stretches_cons (c : Char) (rest : List Char) : ∃ stretch more,
    stretches rest = stretch :: more ∧
      stretches (c :: rest) =
        if isAlphanumeric c then (c :: stretch) :: more else [] :: stretch :: more := by
  have nonempty : ∀ cs, stretches cs ≠ [] := by
    intro cs
    cases cs with
    | nil => simp [stretches]
    | cons c rest =>
      rw [stretches]
      split
      · simp
      · split <;> simp
  obtain ⟨stretch, more, h⟩ := List.exists_cons_of_ne_nil (nonempty rest)
  exact ⟨stretch, more, h, by rw [stretches, h]⟩

theorem stretches_flatten (cs : List Char) : (stretches cs).flatten = cs.filter isAlphanumeric := by
  induction cs with
  | nil => rfl
  | cons c rest ih =>
    obtain ⟨stretch, more, before, after⟩ := stretches_cons c rest
    rw [before, List.flatten_cons] at ih
    rw [after, List.filter_cons]
    by_cases h : isAlphanumeric c = true
    · rw [if_pos h, if_pos h, List.flatten_cons, List.cons_append, ih]
    · rw [if_neg h, if_neg h, List.flatten_cons, List.flatten_cons, List.nil_append, ih]

theorem cutStretch_flatten (run : LetterRun) (word cs : List Char) (h : cs ≠ []) :
    (cutStretch run word cs).flatten = word.reverse ++ cs := by
  fun_induction cutStretch run word cs with
  | case1 => exact absurd rfl h
  | case2 run word c => simp
  | case3 run word c next rest _ ih =>
    rw [List.flatten_cons, ih (by simp)]
    simp
  | case4 run word c next rest _ _ ih =>
    rw [List.flatten_cons, ih (by simp)]
    simp
  | case5 run word c next rest _ _ ih =>
    rw [ih (by simp)]
    simp

/-- A word that is cut off holds something: an uppercase run has a letter already. -/
theorem cutStretch_word (run : LetterRun) (word cs : List Char) (begun : run = .uppercase → word ≠ []) :
    ∀ piece ∈ cutStretch run word cs, piece ≠ [] := by
  fun_induction cutStretch run word cs with
  | case1 => simp
  | case2 run word c => simp
  | case3 run word c next rest _ ih =>
    refine List.forall_mem_cons.mpr ⟨by simp, ih ?_⟩
    intro h
    cases h
  | case4 run word c next rest _ h ih =>
    refine List.forall_mem_cons.mpr ⟨by simpa using begun h.1, ih ?_⟩
    intro _
    simp
  | case5 run word c next rest _ _ ih =>
    apply ih
    intro _
    simp

theorem words_flatten (name : List Char) : (words name).flatten = name.filter isAlphanumeric := by
  have whole : ∀ cs, (cutStretch .fresh [] cs).flatten = cs := by
    intro cs
    cases cs with
    | nil => rfl
    | cons c rest => exact cutStretch_flatten _ _ _ (by simp)
  rw [words, ← stretches_flatten]
  induction stretches name with
  | nil => rfl
  | cons stretch more ih =>
    rw [List.flatMap_cons, List.flatten_append, ih, whole, List.flatten_cons]

theorem words_ne_nil {name word : List Char} (h : word ∈ words name) : word ≠ [] := by
  obtain ⟨stretch, _, mem⟩ := List.mem_flatMap.mp h
  apply cutStretch_word .fresh [] stretch _ word mem
  intro fresh
  cases fresh

/-- What a character may become in a name in camel case. -/
inductive CaseForm (c : Char) : Char → Prop where
  | lower {d} : d ∈ lower c → CaseForm c d
  | upper {d} : d ∈ upper c → CaseForm c d
  | finalSigma : c = 'Σ' → CaseForm c 'ς'

/-- What the first character of a word may begin with in lowercase. -/
inductive LowerStart (c : Char) : Char → Prop where
  | lower {d} : (lower c).head? = some d → LowerStart c d
  | finalSigma : c = 'Σ' → LowerStart c 'ς'

theorem of_ascii {P : Char → Prop} (codes : ∀ n < 0x80, P (Char.ofNat n)) {c : Char}
    (low : c.toNat < 0x80) : P c := by
  have here := codes c.toNat low
  rwa [Char.ofNat_toNat] at here

theorem CaseForm.of_ascii {c d : Char} (low : c.toNat < 0x80) (h : CaseForm c d) :
    d = c.toLower ∨ d = c.toUpper := by
  cases h with
  | lower h =>
    rw [Text.lower, if_pos low] at h
    exact .inl (List.mem_singleton.mp h)
  | upper h =>
    rw [Text.upper, if_pos low] at h
    exact .inr (List.mem_singleton.mp h)
  | finalSigma h =>
    subst h
    exact absurd low (by decide)

theorem LowerStart.of_ascii {c d : Char} (low : c.toNat < 0x80) (h : LowerStart c d) :
    d = c.toLower := by
  cases h with
  | lower h =>
    rw [Text.lower, if_pos low] at h
    exact (Option.some.inj h).symm
  | finalSigma h =>
    subst h
    exact absurd low (by decide)

theorem mem_lowerWord {word : List Char} {d : Char} (h : d ∈ lowerWord word) :
    ∃ c ∈ word, CaseForm c d := by
  fun_induction lowerWord word with
  | case1 => cases h
  | case2 =>
    obtain rfl := List.mem_singleton.mp h
    exact ⟨'Σ', List.mem_singleton_self _, .finalSigma rfl⟩
  | case3 c rest _ ih =>
    rcases List.mem_append.mp h with h | h
    · exact ⟨c, List.mem_cons_self, .lower h⟩
    · obtain ⟨c', mem, form⟩ := ih h
      exact ⟨c', List.mem_cons_of_mem _ mem, form⟩

theorem lower_ne_nil (c : Char) : lower c ≠ [] := by
  have sequences : ∀ entry ∈ lowerSpecials, entry.2 ≠ [] := by decide
  unfold lower
  split
  · simp
  · unfold mapped
    split
    · rename_i numbers found
      obtain ⟨before, after, table, _⟩ := List.lookup_eq_some_iff.mp found
      have entry : (c.toNat, numbers) ∈ lowerSpecials := by simp [table]
      simpa using sequences _ entry
    · split <;> simp

theorem lowerWord_start (c : Char) (word : List Char) :
    ∃ d rest, lowerWord (c :: word) = d :: rest ∧ LowerStart c d := by
  by_cases final : c = 'Σ' ∧ word = []
  · obtain ⟨rfl, rfl⟩ := final
    exact ⟨'ς', [], rfl, .finalSigma rfl⟩
  · obtain ⟨d, rest, h⟩ := List.exists_cons_of_ne_nil (lower_ne_nil c)
    refine ⟨d, rest ++ lowerWord word, ?_, .lower (by rw [h]; rfl)⟩
    rw [lowerWord, h, List.cons_append]
    intro sigma alone
    exact final ⟨sigma, alone⟩

theorem mem_capitalize {word : List Char} {d : Char} (h : d ∈ capitalize word) :
    ∃ c ∈ word, CaseForm c d := by
  cases word with
  | nil => cases h
  | cons c rest =>
    rcases List.mem_append.mp h with h | h
    · exact ⟨c, List.mem_cons_self, .upper h⟩
    · obtain ⟨c', mem, form⟩ := mem_lowerWord h
      exact ⟨c', List.mem_cons_of_mem _ mem, form⟩

theorem mem_lowerCamel {name : String} {d : Char} (h : d ∈ (lowerCamel name).toList) :
    ∃ c ∈ name.toList, isAlphanumeric c = true ∧ CaseForm c d := by
  have source : ∃ word ∈ words name.toList, ∃ c ∈ word, CaseForm c d := by
    unfold lowerCamel at h
    split at h
    · simp at h
    · rename_i first rest cut
      rw [String.toList_ofList] at h
      rcases List.mem_append.mp h with h | h
      · exact ⟨first, by simp [cut], mem_lowerWord h⟩
      · obtain ⟨word, mem, h⟩ := List.mem_flatMap.mp h
        exact ⟨word, by simp [cut, mem], mem_capitalize h⟩
  obtain ⟨word, mem, c, inside, form⟩ := source
  have kept : c ∈ (words name.toList).flatten := List.mem_flatten.mpr ⟨word, mem, inside⟩
  rw [words_flatten, List.mem_filter] at kept
  exact ⟨c, kept.1, kept.2, form⟩

theorem lowerCamel_start (name : String) :
    match name.toList.find? isAlphanumeric with
    | none => lowerCamel name = ""
    | some c => ∃ d rest, (lowerCamel name).toList = d :: rest ∧ LowerStart c d := by
  rw [← List.head?_filter, ← words_flatten]
  unfold lowerCamel
  cases cut : words name.toList with
  | nil => rfl
  | cons first rest =>
    have word : first ∈ words name.toList := by simp [cut]
    have held : first ≠ [] := words_ne_nil word
    obtain ⟨c, more, rfl⟩ := List.exists_cons_of_ne_nil held
    obtain ⟨d, after, starts, form⟩ := lowerWord_start c more
    refine ⟨d, after ++ rest.flatMap capitalize, ?_, form⟩
    rw [String.toList_ofList, starts, List.cons_append]

theorem ofNat_past {low n : Nat} (h : low < n) :
    (Char.ofNat n).toNat = 0 ∨ low < (Char.ofNat n).toNat := by
  by_cases valid : n.isValidChar
  · rw [Char.ofNat, dif_pos valid]
    exact .inr h
  · rw [Char.ofNat, dif_neg valid]
    exact .inl rfl

theorem mapped_bound {specials : List (Nat × List Nat)} {runs : List CaseRun} {low : Nat} {c d : Char}
    (sequences : ∀ entry ∈ specials, ∀ n ∈ entry.2, low < n)
    (shifted : ∀ run ∈ runs, (low : Int) < run.first + run.shift) (past : low < c.toNat)
    (h : d ∈ mapped specials runs c) : d.toNat = 0 ∨ low < d.toNat := by
  unfold mapped at h
  split at h
  · rename_i numbers found
    obtain ⟨before, after, rfl, _⟩ := List.lookup_eq_some_iff.mp found
    obtain ⟨n, mem, rfl⟩ := List.mem_map.mp h
    exact ofNat_past (sequences (c.toNat, numbers) (by simp) n mem)
  · split at h
    · rename_i run found
      obtain rfl := List.mem_singleton.mp h
      have inside := List.find?_some found
      have above := shifted run (List.mem_of_find?_eq_some found)
      simp only [CaseRun.contains, Bool.and_eq_true, decide_eq_true_eq] at inside
      apply ofNat_past
      omega
    · obtain rfl := List.mem_singleton.mp h
      exact .inr past

theorem mapped_ascii {specials : List (Nat × List Nat)} {runs : List CaseRun} {c d : Char}
    (sequences : ∀ entry ∈ specials, ∀ n ∈ entry.2, 0x7F < n ∨ (Char.ofNat n).isAlpha = true)
    (shifted : ∀ run ∈ runs, (0x7F : Int) < run.first + run.shift ∨
      run.first = run.last ∧ (Char.ofNat (run.first + run.shift).toNat).isAlpha = true)
    (past : 0x7F < c.toNat) (h : d ∈ mapped specials runs c) :
    (d.toNat = 0 ∨ 0x7F < d.toNat) ∨ d.isAlpha = true := by
  unfold mapped at h
  split at h
  · rename_i numbers found
    obtain ⟨before, after, rfl, _⟩ := List.lookup_eq_some_iff.mp found
    obtain ⟨n, mem, rfl⟩ := List.mem_map.mp h
    rcases sequences (c.toNat, numbers) (by simp) n mem with above | letter
    · exact .inl (ofNat_past above)
    · exact .inr letter
  · split at h
    · rename_i run found
      obtain rfl := List.mem_singleton.mp h
      have inside := List.find?_some found
      simp only [CaseRun.contains, Bool.and_eq_true, decide_eq_true_eq] at inside
      rcases shifted run (List.mem_of_find?_eq_some found) with above | ⟨single, letter⟩
      · left
        apply ofNat_past
        omega
      · -- The entry is for one character, which is therefore the one at hand.
        have here : c.toNat = run.first := by omega
        rw [here]
        exact .inr letter
    · obtain rfl := List.mem_singleton.mp h
      exact .inl (.inr past)

theorem CaseForm.ascii_letter {c d : Char} (past : 0x7F < c.toNat) (h : CaseForm c d) :
    (d.toNat = 0 ∨ 0x7F < d.toNat) ∨ d.isAlpha = true := by
  cases h with
  | lower h =>
    rw [Text.lower, if_neg (by omega)] at h
    exact mapped_ascii (by decide +kernel) (by decide +kernel) past h
  | upper h =>
    rw [Text.upper, if_neg (by omega)] at h
    exact mapped_ascii (by decide +kernel) (by decide +kernel) past h
  | finalSigma _ => exact .inl (.inr (by decide))

theorem lower_bound {c d : Char} (past : 0x80 ≤ c.toNat) (h : d ∈ lower c) :
    d.toNat = 0 ∨ 0x5A < d.toNat := by
  rw [lower, if_neg (by omega)] at h
  exact mapped_bound (by decide +kernel) (by decide +kernel) (by omega) h

end Text

structure Alphabet where
  starts : Char → Bool
  continues : Char → Bool
  starts_ascii : ∀ c, c.toNat < 0x80 → starts c = Script.startsIdentifier c
  continues_ascii : ∀ c, c.toNat < 0x80 → continues c = Script.continuesIdentifier c
  continues_start : ∀ c, starts c = true → continues c = true
  continues_form : ∀ c d, continues c = true → Text.CaseForm c d → continues d = true
  starts_form : ∀ c d, continues c = true → Text.LowerStart c d → starts d = starts c

namespace Alphabet

/-- A name is written out, without escapes for its characters. -/
def IsName (alphabet : Alphabet) (name : String) : Prop :=
  ∃ c rest, name.toList = c :: rest ∧ alphabet.starts c = true ∧
    ∀ d ∈ rest, alphabet.continues d = true

variable {alphabet : Alphabet}

theorem IsName.continues {name : String} (h : alphabet.IsName name) :
    ∀ c ∈ name.toList, alphabet.continues c = true := by
  obtain ⟨c, rest, letters, start, inside⟩ := h
  rw [letters]
  exact List.forall_mem_cons.mpr ⟨alphabet.continues_start c start, inside⟩

theorem isName_ascii {name : String} (ascii : name.toList.all (·.toNat < 0x80) = true) :
    alphabet.IsName name ↔ Script.isIdentifier name = true := by
  rw [Script.isIdentifier]
  cases letters : name.toList with
  | nil => simp [IsName, letters]
  | cons c rest =>
    simp only [letters, List.all_cons, Bool.and_eq_true, List.all_eq_true, decide_eq_true_eq] at ascii
    obtain ⟨low, lower⟩ := ascii
    rw [Bool.and_eq_true, List.all_eq_true, ← alphabet.starts_ascii c low]
    constructor
    · rintro ⟨first, others, same, start, inside⟩
      obtain ⟨rfl, rfl⟩ := List.cons.inj (letters.symm.trans same)
      refine ⟨start, ?_⟩
      intro d mem
      rw [← alphabet.continues_ascii d (lower d mem)]
      exact inside d mem
    · rintro ⟨start, inside⟩
      refine ⟨c, rest, letters, start, ?_⟩
      intro d mem
      rw [alphabet.continues_ascii d (lower d mem)]
      exact inside d mem

/-- A name in camel case is a name just if the first letter or digit of the name it is made from may
start one. -/
theorem isName_lowerCamel {name : String} (h : alphabet.IsName name) :
    alphabet.IsName (Text.lowerCamel name) ↔
      ∃ c, name.toList.find? Text.isAlphanumeric = some c ∧ alphabet.starts c = true := by
  have begins := Text.lowerCamel_start name
  cases found : name.toList.find? Text.isAlphanumeric with
  | none =>
    rw [found] at begins
    simp [IsName, begins]
  | some c =>
    rw [found] at begins
    obtain ⟨d, rest, letters, form⟩ := begins
    have held : alphabet.continues c = true := h.continues c (List.mem_of_find?_eq_some found)
    have same : alphabet.starts d = alphabet.starts c := alphabet.starts_form c d held form
    constructor
    · rintro ⟨d', rest', letters', start, _⟩
      obtain ⟨rfl, rfl⟩ := List.cons.inj (letters.symm.trans letters')
      exact ⟨c, rfl, same ▸ start⟩
    · rintro ⟨c', here, start⟩
      obtain rfl := Option.some.inj here
      refine ⟨d, rest, letters, same.trans start, ?_⟩
      intro d' mem
      have inside : d' ∈ (Text.lowerCamel name).toList := by
        rw [letters]
        exact List.mem_cons_of_mem d mem
      obtain ⟨c', source, _, form'⟩ := Text.mem_lowerCamel inside
      exact alphabet.continues_form c' d' (h.continues c' source) form'

def ascii : Alphabet where
  starts c := c.toNat < 0x80 && Script.startsIdentifier c
  continues c := c.toNat < 0x80 && Script.continuesIdentifier c
  starts_ascii c low := by simp [low]
  continues_ascii c low := by simp [low]
  continues_start c h := by
    simp only [Bool.and_eq_true, decide_eq_true_eq] at h ⊢
    obtain ⟨low, start⟩ := h
    have wider : Script.startsIdentifier c = true → Script.continuesIdentifier c = true := by
      apply Text.of_ascii _ low
      decide +kernel
    exact ⟨low, wider start⟩
  continues_form c d h form := by
    simp only [Bool.and_eq_true, decide_eq_true_eq] at h ⊢
    obtain ⟨low, held⟩ := h
    have inside : Script.continuesIdentifier c = true →
        (c.toLower.toNat < 0x80 ∧ Script.continuesIdentifier c.toLower = true) ∧
          c.toUpper.toNat < 0x80 ∧ Script.continuesIdentifier c.toUpper = true := by
      apply Text.of_ascii _ low
      decide +kernel
    rcases form.of_ascii low with rfl | rfl
    · exact (inside held).1
    · exact (inside held).2
  starts_form c d h form := by
    simp only [Bool.and_eq_true, decide_eq_true_eq] at h
    have same : c.toLower.toNat < 0x80 ∧
        Script.startsIdentifier c.toLower = Script.startsIdentifier c := by
      apply Text.of_ascii _ h.1
      decide +kernel
    obtain rfl := form.of_ascii h.1
    simp [same, h.1]

end Alphabet

end OpenApiClient
