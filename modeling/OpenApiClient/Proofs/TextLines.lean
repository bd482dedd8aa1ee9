import OpenApiClient.Text.Editing
import Mathlib.Data.List.Basic
import Mathlib.Data.List.Infix
import Mathlib.Data.Nat.Notation
import Mathlib.Tactic.Common

/-! The lines of a text, and a text on one line.
`Lined` tells lines from a text by what ends them, and a text has its lines in one way only. Of the
blanks in a text, its one line keeps those that stand between visible characters of the same line. -/
namespace OpenApiClient.Text

/-- A text with its lines in order. Every line ends at a line feed, of which a carriage return before
it is a part; the last one may have no end, and then it is not empty. -/
inductive Lined : List Char → List (List Char) → Prop where
  | nil : Lined [] []
  | last {line} : line ≠ [] → '\n' ∉ line → Lined line [line]
  | feed {line rest lines} : '\n' ∉ line → line.getLast? ≠ some '\r' → Lined rest lines →
      Lined (line ++ '\n' :: rest) (line :: lines)
  | returned {line rest lines} : '\n' ∉ line → Lined rest lines →
      Lined (line ++ '\r' :: '\n' :: rest) (line :: lines)

theorem feed_induction {motive : List Char → Prop} (last : ∀ line, '\n' ∉ line → motive line)
    (feed : ∀ line rest, '\n' ∉ line → motive rest → motive (line ++ '\n' :: rest))
    (text : List Char) : motive text := by
  induction size : text.length using Nat.strong_induction_on generalizing text with
  | h n ih =>
    by_cases h : '\n' ∈ text
    · obtain ⟨line, rest, rfl, alone⟩ := List.eq_append_cons_of_mem h
      rw [List.length_append, List.length_cons] at size
      exact feed line rest alone (ih rest.length (by omega) rest rfl)
    · exact last text h

theorem splitLineFeeds_ne_nil (text : List Char) : splitLineFeeds text ≠ [] := by
  cases text with
  | nil => simp [splitLineFeeds]
  | cons c rest =>
    rw [splitLineFeeds]
    split
    · simp
    · split <;> simp

theorem splitLineFeeds_last {line : List Char} (h : '\n' ∉ line) : splitLineFeeds line = [line] := by
  induction line with
  | nil => rfl
  | cons c line ih =>
    simp only [List.mem_cons, not_or] at h
    rw [splitLineFeeds, ih h.2]
    simp only [if_neg (Ne.symm h.1)]

theorem splitLineFeeds_feed {line : List Char} (h : '\n' ∉ line) (rest : List Char) :
    splitLineFeeds (line ++ '\n' :: rest) = line :: splitLineFeeds rest := by
  induction line with
  | nil =>
    rw [List.nil_append, splitLineFeeds]
    cases pieces : splitLineFeeds rest with
    | nil => exact absurd pieces (splitLineFeeds_ne_nil rest)
    | cons piece more => simp
  | cons c line ih =>
    simp only [List.mem_cons, not_or] at h
    rw [List.cons_append, splitLineFeeds, ih h.2]
    simp only [if_neg (Ne.symm h.1)]

theorem lines_last {line : List Char} (h : '\n' ∉ line) :
    lines line = if line.isEmpty then [] else [line] := by
  rw [lines, splitLineFeeds_last h, linesOfPieces]

theorem lines_feed {line : List Char} (h : '\n' ∉ line) (rest : List Char) :
    lines (line ++ '\n' :: rest) = dropReturn line :: lines rest := by
  rw [lines, splitLineFeeds_feed h, lines]
  cases pieces : splitLineFeeds rest with
  | nil => exact absurd pieces (splitLineFeeds_ne_nil rest)
  | cons piece more => rw [linesOfPieces]; simp

theorem dropReturn_cases (line : List Char) :
    dropReturn line = line ∧ line.getLast? ≠ some '\r' ∨ line = dropReturn line ++ ['\r'] := by
  rw [dropReturn]
  split
  · rename_i last
    right
    obtain ⟨front, rfl⟩ := List.getLast?_eq_some_iff.mp last
    rw [List.dropLast_concat]
  · rename_i other
    exact .inl ⟨rfl, other⟩

theorem lined_lines (text : List Char) : Lined text (lines text) := by
  induction text using feed_induction with
  | last line h =>
    rw [lines_last h]
    split
    · rename_i empty
      rw [List.isEmpty_iff.mp empty]
      exact .nil
    · rename_i held
      exact .last (by simpa using held) h
  | feed line rest h ih =>
    rw [lines_feed h]
    rcases dropReturn_cases line with ⟨whole, other⟩ | ended
    · rw [whole]
      exact .feed h other ih
    · have text : line ++ '\n' :: rest = dropReturn line ++ '\r' :: '\n' :: rest := by
        conv_lhs => rw [ended]
        simp
      have inside : '\n' ∉ dropReturn line := by
        intro mem
        rw [ended] at h
        exact h (List.mem_append_left _ mem)
      rw [text]
      exact .returned inside ih

/-- A text has its lines in one way only. -/
theorem lined_iff {text : List Char} {parts : List (List Char)} :
    Lined text parts ↔ lines text = parts := by
  constructor
  · intro lined
    induction lined with
    | nil => rfl
    | last nonempty h =>
      rw [lines_last h, if_neg (by simpa using nonempty)]
    | feed h other _ ih =>
      rw [lines_feed h, ih, dropReturn, if_neg other]
    | @returned line rest _ h _ ih =>
      have text : line ++ '\r' :: '\n' :: rest = (line ++ ['\r']) ++ '\n' :: rest := by simp
      have plain : '\n' ∉ line ++ ['\r'] := by simpa using h
      rw [text, lines_feed plain, ih, dropReturn, List.getLast?_concat, if_pos rfl,
        List.dropLast_concat]
  · rintro rfl
    exact lined_lines text

theorem Lined.plain {text line : List Char} {parts : List (List Char)} (lined : Lined text parts)
    (h : line ∈ parts) : '\n' ∉ line := by
  induction lined with
  | nil => cases h
  | last _ plain =>
    rw [List.mem_singleton] at h
    rwa [h]
  | feed plain _ _ ih | returned plain _ ih =>
    rcases List.mem_cons.mp h with rfl | h
    · exact plain
    · exact ih h

def Enclosed (c : Char) (text : List Char) : Prop :=
  ∃ left right, left ++ c :: right <:+: text ∧ '\n' ∉ left ++ right ∧
    (∃ d ∈ left, isBlank d = false) ∧ ∃ d ∈ right, isBlank d = false

theorem Enclosed.mem {c : Char} {text : List Char} (h : Enclosed c text) : c ∈ text := by
  obtain ⟨left, right, inside, _⟩ := h
  exact inside.subset (by simp)

theorem enclosed_reverse {c : Char} (text : List Char) :
    Enclosed c text.reverse ↔ Enclosed c text := by
  have turned : ∀ {text : List Char}, Enclosed c text → Enclosed c text.reverse := by
    rintro text ⟨left, right, inside, plain, before, behind⟩
    refine ⟨right.reverse, left.reverse, ?_, ?_, ?_, ?_⟩
    · have whole := List.reverse_infix.mpr inside
      simpa using whole
    · simpa [or_comm] using plain
    · simpa using behind
    · simpa using before
  constructor
  · intro h
    have back := turned h
    rwa [List.reverse_reverse] at back
  · exact turned

theorem enclosed_cons {c d : Char} {text : List Char} (blank : isBlank d = true) :
    Enclosed c (d :: text) ↔ Enclosed c text := by
  constructor
  · rintro ⟨left, right, inside, plain, ⟨e, mem, visible⟩, behind⟩
    rcases List.infix_cons_iff.mp inside with front | inside
    · cases left with
      | nil => cases mem
      | cons first left =>
        rw [List.cons_append, List.cons_prefix_cons] at front
        obtain ⟨rfl, front⟩ := front
        have other : e ≠ first := by
          rintro rfl
          rw [blank] at visible
          cases visible
        refine ⟨left, right, front.isInfix, ?_, ⟨e, ?_, visible⟩, behind⟩
        · simp only [List.cons_append, List.mem_cons, not_or] at plain
          exact plain.2
        · exact (List.mem_cons.mp mem).resolve_left other
    · exact ⟨left, right, inside, plain, ⟨e, mem, visible⟩, behind⟩
  · rintro ⟨left, right, inside, rest⟩
    exact ⟨left, right, inside.trans (List.suffix_cons d text).isInfix, rest⟩

theorem enclosed_dropWhile {c : Char} (text : List Char) :
    Enclosed c (text.dropWhile isBlank) ↔ Enclosed c text := by
  induction text with
  | nil => rfl
  | cons d text ih =>
    rw [List.dropWhile_cons]
    split
    · rename_i blank
      rw [ih, enclosed_cons blank]
    · rfl

theorem enclosed_trim {c : Char} (text : List Char) : Enclosed c (trim text) ↔ Enclosed c text := by
  rw [trim, dropEnd, enclosed_reverse, enclosed_dropWhile, enclosed_reverse, enclosed_dropWhile]

theorem enclosed_dropReturn {c : Char} (line : List Char) :
    Enclosed c (dropReturn line) ↔ Enclosed c line := by
  rcases dropReturn_cases line with ⟨whole, _⟩ | ended
  · rw [whole]
  · have blank : isBlank '\r' = true := by decide
    conv_rhs => rw [ended]
    rw [← enclosed_reverse (dropReturn line ++ ['\r']), List.reverse_concat,
      enclosed_cons blank, enclosed_reverse]

theorem infix_feed {part line rest : List Char} (h : '\n' ∉ part) :
    part <:+: line ++ '\n' :: rest ↔ part <:+: line ∨ part <:+: rest := by
  have empty : ∀ {front}, '\n' ∉ front → front <+: '\n' :: rest → front = [] := by
    intro front plain begins
    rcases List.prefix_cons_iff.mp begins with none | ⟨more, rfl, _⟩
    · exact none
    · exact absurd List.mem_cons_self plain
  rw [List.infix_append_iff, List.infix_cons_iff]
  constructor
  · rintro (inside | (begins | inside) | ⟨front, back, rfl, ends, begins⟩)
    · exact .inl inside
    · rw [empty h begins]
      exact .inl List.nil_infix
    · exact .inr inside
    · rw [List.mem_append, not_or] at h
      rw [empty h.2 begins, List.append_nil]
      exact .inl ends.isInfix
  · rintro (inside | inside)
    · exact .inl inside
    · exact .inr (.inl (.inr inside))

theorem enclosed_feed {c : Char} (other : c ≠ '\n') (line rest : List Char) :
    Enclosed c (line ++ '\n' :: rest) ↔ Enclosed c line ∨ Enclosed c rest := by
  have plain : ∀ {left right : List Char}, '\n' ∉ left ++ right → '\n' ∉ left ++ c :: right := by
    intro left right h
    simp only [List.mem_append, List.mem_cons, not_or] at h ⊢
    exact ⟨h.1, Ne.symm other, h.2⟩
  constructor
  · rintro ⟨left, right, inside, alone, visible⟩
    rcases (infix_feed (plain alone)).mp inside with inside | inside
    · exact .inl ⟨left, right, inside, alone, visible⟩
    · exact .inr ⟨left, right, inside, alone, visible⟩
  · rintro (⟨left, right, inside, alone, visible⟩ | ⟨left, right, inside, alone, visible⟩)
    · exact ⟨left, right, (infix_feed (plain alone)).mpr (.inl inside), alone, visible⟩
    · exact ⟨left, right, (infix_feed (plain alone)).mpr (.inr inside), alone, visible⟩

theorem head_dropWhile (text : List Char) {c : Char}
    (h : (text.dropWhile isBlank).head? = some c) : isBlank c = false := by
  have kept := List.head?_dropWhile_not isBlank text
  rw [h] at kept
  simpa using kept

theorem trim_ends (text : List Char) (c : Char) :
    ((trim text).head? = some c → isBlank c = false) ∧
      ((trim text).getLast? = some c → isBlank c = false) := by
  constructor
  · intro h
    have front : trim text <+: text.dropWhile isBlank := by
      have tail := List.dropWhile_suffix isBlank (l := (text.dropWhile isBlank).reverse)
      simpa [trim, dropEnd] using List.reverse_prefix.mpr tail
    obtain ⟨more, same⟩ := front
    apply head_dropWhile text
    rw [← same, List.head?_append, h]
    rfl
  · intro h
    rw [trim, dropEnd, List.getLast?_reverse] at h
    exact head_dropWhile _ h

theorem trim_subset (text : List Char) : trim text ⊆ text := by
  intro c mem
  rw [trim, dropEnd, List.mem_reverse] at mem
  have kept := (List.dropWhile_suffix isBlank).subset mem
  rw [List.mem_reverse] at kept
  exact (List.dropWhile_suffix isBlank).subset kept

theorem mem_trim {c : Char} {line : List Char} (blank : isBlank c = true) (plain : '\n' ∉ line) :
    c ∈ trim line ↔ Enclosed c line := by
  constructor
  · intro mem
    obtain ⟨left, right, whole⟩ := List.append_of_mem mem
    have ends := trim_ends line
    rw [whole] at ends
    have before : ∃ d ∈ left, isBlank d = false := by
      cases left with
      | nil => simpa [blank] using (ends c).1
      | cons d left => exact ⟨d, List.mem_cons_self, (ends d).1 rfl⟩
    have behind : ∃ d ∈ right, isBlank d = false := by
      rcases List.eq_nil_or_concat' right with rfl | ⟨front, d, rfl⟩
      · simpa [blank] using (ends c).2
      · have last : left ++ c :: (front ++ [d]) = (left ++ c :: front) ++ [d] := by simp
        exact ⟨d, by simp, (ends d).2 (by rw [last, List.getLast?_concat])⟩
    rw [← enclosed_trim, whole]
    refine ⟨left, right, List.infix_rfl, ?_, before, behind⟩
    intro feed
    apply plain
    apply trim_subset line
    rw [whole]
    simp only [List.mem_append, List.mem_cons] at feed ⊢
    tauto
  · intro h
    exact ((enclosed_trim line).mpr h).mem

theorem mem_lines_trim {c : Char} (blank : isBlank c = true) (other : c ≠ '\n') (text : List Char) :
    (∃ line ∈ lines text, c ∈ trim line) ↔ Enclosed c text := by
  induction text using feed_induction with
  | last line h =>
    rw [lines_last h]
    split
    · rename_i empty
      rw [List.isEmpty_iff.mp empty]
      constructor
      · simp
      · intro held
        cases held.mem
    · simp [mem_trim blank h]
  | feed line rest h ih =>
    have plain : '\n' ∉ dropReturn line := by
      have first : dropReturn line ∈ lines (line ++ '\n' :: rest) := by simp [lines_feed h]
      exact (lined_lines _).plain first
    rw [lines_feed h, List.exists_mem_cons_iff, ih, mem_trim blank plain, enclosed_dropReturn,
      enclosed_feed other]

theorem mem_intercalate {c : Char} {separator : List Char} (h : c ∉ separator)
    (parts : List (List Char)) : c ∈ separator.intercalate parts ↔ ∃ part ∈ parts, c ∈ part := by
  induction parts with
  | nil => simp
  | cons part parts ih =>
    cases parts with
    | nil => simp
    | cons next parts =>
      rw [List.intercalate_cons_cons, List.mem_append, List.mem_append, or_iff_left h, ih]
      simp

/-- A text on one line keeps the blanks between visible characters, and has spaces for line feeds. -/
theorem mem_singleLine {c : Char} (blank : isBlank c = true) (feed : c ≠ '\n') (space : c ≠ ' ')
    (text : List Char) : c ∈ singleLine text ↔ Enclosed c text := by
  have separated : c ∉ [' '] := by simpa using space
  rw [singleLine, mem_intercalate separated, ← enclosed_trim, ← mem_lines_trim blank feed]
  simp only [List.mem_map, exists_exists_and_eq_and]

theorem feed_singleLine (text : List Char) : '\n' ∉ singleLine text := by
  rw [singleLine, mem_intercalate (by decide)]
  rintro ⟨part, mem, feed⟩
  obtain ⟨line, held, rfl⟩ := List.mem_map.mp mem
  exact (lined_lines _).plain held (trim_subset line feed)

end OpenApiClient.Text
