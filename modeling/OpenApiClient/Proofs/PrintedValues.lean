import OpenApiClient.Proofs.ReadingScalars

/-! Reading indented values.
What the printer lays out, the reader takes in again: line by line, each item and field from where
the one before it ended. -/
namespace OpenApiClient.Json

inductive Nests : ℕ → Json → Prop where
  | null {depth} : Nests depth .null
  | bool {depth value} : Nests depth (.bool value)
  | number {depth value} : Nests depth (.number value)
  | string {depth value} : Nests depth (.string value)
  | array {depth items} : (∀ item ∈ items, Nests depth item) → Nests (depth + 1) (.array items)
  | object {depth} {fields : List (String × Json)} : (∀ field ∈ fields, Nests depth field.2) →
      Nests (depth + 1) (.object fields)

inductive Integral : Json → Prop where
  | null : Integral .null
  | bool {value} : Integral (.bool value)
  | number {value : Number} : value.Integral → Integral (.number value)
  | string {value} : Integral (.string value)
  | array {items} : (∀ item ∈ items, Integral item) → Integral (.array items)
  | object {fields : List (String × Json)} : (∀ field ∈ fields, Integral field.2) →
      Integral (.object fields)

/-- A character that a reader cannot take for a blank or for the end of an item. -/
def Starts (c : Char) : Prop := isBlankSymbol (.char c) = false ∧ c ≠ ']' ∧ c ≠ ','

instance (c : Char) : Decidable (Starts c) := inferInstanceAs (Decidable (_ ∧ _ ∧ _))

theorem starts_digit {c : Char} (h : c.isDigit = true) : Starts c := by
  refine ⟨?_, ?_, ?_⟩
  · cases blank : isBlankSymbol (.char c) with
    | false => rfl
    | true =>
      simp only [isBlankSymbol, decide_eq_true_eq] at blank
      rcases blank with rfl | rfl | rfl | rfl <;> exact absurd h (by decide)
  · rintro rfl
    exact absurd h (by decide)
  · rintro rfl
    exact absurd h (by decide)

theorem indentedText_head (depth : ℕ) {value : Json} (h : Integral value) :
    ∃ c text, value.indentedText depth = c :: text ∧ Starts c := by
  cases h with
  | null => exact ⟨'n', _, rfl, by decide⟩
  | @bool value =>
    cases value with
    | true => exact ⟨'t', _, rfl, by decide⟩
    | false => exact ⟨'f', _, rfl, by decide⟩
  | @number value h =>
    rcases readNumber_text h with ⟨m, _, rfl, text⟩ | ⟨text, eq, _⟩
    · obtain ⟨c, digits, cons⟩ := List.exists_cons_of_ne_nil (Nat.toDigits_ne_nil (n := m) (b := 10))
      have digit : c.isDigit = true := isDigit_toDigits (n := m) (by rw [cons]; exact .head _)
      exact ⟨c, digits, text.trans cons, starts_digit digit⟩
    · exact ⟨'-', text, eq, by decide⟩
  | string => exact ⟨'"', _, rfl, by decide⟩
  | @array items _ =>
    cases items with
    | nil => exact ⟨'[', _, rfl, by decide⟩
    | cons item items => exact ⟨'[', _, rfl, by decide⟩
  | @object fields _ =>
    cases fields with
    | nil => exact ⟨'\x7b', _, rfl, by decide⟩
    | cons field fields => exact ⟨'\x7b', _, rfl, by decide⟩

theorem skipBlanks_of_starts {c : Char} (h : Starts c) (rest : List Symbol) :
    skipBlanks (.char c :: rest) = .char c :: rest := by
  simp [skipBlanks, h.1]

theorem skipBlanks_newLine (depth : ℕ) (rest : List Symbol) :
    skipBlanks ((newLine depth).map .char ++ rest) = skipBlanks rest := by
  have blank : ∀ symbol ∈ (newLine depth).map Symbol.char, isBlankSymbol symbol = true := by
    intro symbol mem
    obtain ⟨c, inside, rfl⟩ := List.mem_map.mp mem
    rcases List.mem_cons.mp inside with rfl | inside
    · decide
    · cases List.eq_of_mem_replicate inside
      decide
  exact List.dropWhile_append_of_pos blank

theorem readWith_digit {list object : Reader Json} {c : Char} (h : c.isDigit = true)
    (rest : List Symbol) :
    readWith list object (.char c :: rest) =
      (liftStop (readNumber false (.char c :: rest))).map fun (n, rest) => (.number n, rest) := by
  have other {d : Char} (no : d.isDigit = false) : c ≠ d := by
    rintro rfl
    exact absurd (h.symm.trans no) (by decide)
  unfold readWith
  rw [skipBlanks_of_starts (starts_digit h)]
  split
  case h_1 => contradiction
  case h_9 =>
    rename_i eq
    cases eq
    rw [if_pos (show isDigit (.char c) = true from h)]
    cases liftStop (readNumber false (.char c :: rest)) <;> rfl
  all_goals
    rename_i eq
    exact absurd (Symbol.char.inj (List.cons.inj eq).1) (other (by decide))

theorem nextItem_first {c : Char} (h : Starts c) (depth : ℕ) (rest : List Symbol) :
    nextItem true ((newLine depth).map .char ++ .char c :: rest) =
      .ok (some (.char c :: rest)) := by
  unfold nextItem
  rw [skipBlanks_newLine, skipBlanks_of_starts h]
  split
  · contradiction
  · rename_i eq
    cases eq
    exact absurd rfl h.2.1
  · rename_i eq
    cases eq
    exact absurd rfl h.2.2
  · rfl

theorem nextItem_comma {c : Char} (h : Starts c) (depth : ℕ) (rest : List Symbol) :
    nextItem false ((',' :: newLine depth).map .char ++ .char c :: rest) =
      .ok (some (.char c :: rest)) := by
  have comma : skipBlanks ((',' :: newLine depth).map .char ++ .char c :: rest) =
      .char ',' :: ((newLine depth).map .char ++ .char c :: rest) := rfl
  simp only [nextItem, comma, skipBlanks_newLine, skipBlanks_of_starts h]
  rw [if_neg Bool.false_ne_true]
  split
  · contradiction
  · rename_i eq
    cases eq
    exact absurd rfl h.2.1
  · rfl

theorem nextItem_end (first : Bool) (depth : ℕ) (rest : List Symbol) :
    nextItem first ((newLine depth ++ [']']).map .char ++ rest) = .ok none := by
  unfold nextItem
  rw [List.map_append, List.append_assoc, skipBlanks_newLine]
  rfl

theorem nextKey_first (depth : ℕ) (rest : List Symbol) :
    nextKey true ((newLine depth ++ ['"']).map .char ++ rest) = .ok (some rest) := by
  unfold nextKey
  rw [List.map_append, List.append_assoc, skipBlanks_newLine]
  rfl

theorem nextKey_comma (depth : ℕ) (rest : List Symbol) :
    nextKey false ((',' :: newLine depth ++ ['"']).map .char ++ rest) = .ok (some rest) := by
  have comma : skipBlanks ((',' :: newLine depth ++ ['"']).map .char ++ rest) =
      .char ',' :: ((newLine depth).map .char ++ .char '"' :: rest) := by
    simp [skipBlanks, isBlankSymbol]
  have quote : skipBlanks (.char '"' :: rest) = .char '"' :: rest := rfl
  simp only [nextKey, comma, skipBlanks_newLine, quote]
  rfl

theorem nextKey_end (first : Bool) (depth : ℕ) (rest : List Symbol) :
    nextKey first ((newLine depth ++ ['\x7d']).map .char ++ rest) = .ok none := by
  unfold nextKey
  rw [List.map_append, List.append_assoc, skipBlanks_newLine]
  rfl

section Containers

variable {value : Reader Json} {depth outer : ℕ}

theorem ends_items (depth outer : ℕ) (items : List Json) (rest : List Symbol) :
    Ends ((indentedItems depth items ++ newLine outer ++ [']']).map .char ++ rest) := by
  intro symbol head
  cases items with
  | nil =>
    cases head
    decide
  | cons item items =>
    cases head
    decide

theorem readItems_item {fuel : ℕ} {first : Bool} {s next rest : List Symbol} {item : Json}
    (goes : nextItem first s = .ok (some next)) (reads : value next = .ok (item, rest)) :
    readItems value (fuel + 1) first s =
      (readItems value fuel false rest).map fun (items, rest) => (item :: items, rest) := by
  rw [readItems]
  simp only [goes, reads, bind, Except.bind]
  cases readItems value fuel false rest <;> rfl

theorem readItems_end {fuel : ℕ} (first : Bool) (rest : List Symbol) :
    readItems value (fuel + 1) first ((newLine outer ++ [']']).map .char ++ rest) =
      .ok ([], rest) := by
  unfold readItems
  simp only [nextItem_end, bind, Except.bind]
  rw [List.map_append, List.append_assoc, skipBlanks_newLine]
  rfl

theorem nextItem_indented (first : Bool) {item : Json} (integral : Integral item)
    (s : List Symbol) :
    nextItem first ((if first then newLine depth else ',' :: newLine depth).map .char ++
      ((item.indentedText depth).map .char ++ s)) =
      .ok (some ((item.indentedText depth).map .char ++ s)) := by
  obtain ⟨c, text, cons, starts⟩ := indentedText_head depth integral
  rw [cons]
  cases first with
  | true => exact nextItem_first starts _ _
  | false => exact nextItem_comma starts _ _

theorem readItems_rest {fuel : ℕ} {items : List Json} (rest : List Symbol)
    (integral : ∀ item ∈ items, Integral item)
    (reads : ∀ item ∈ items, ∀ rest, Ends rest →
      value ((item.indentedText depth).map .char ++ rest) = .ok (item, rest))
    (enough : items.length < fuel) :
    readItems value fuel false
        ((indentedItems depth items ++ newLine outer ++ [']']).map .char ++ rest) =
      .ok (items, rest) := by
  induction items generalizing fuel with
  | nil =>
    obtain ⟨fuel, rfl⟩ := Nat.exists_eq_succ_of_ne_zero (Nat.ne_zero_of_lt enough)
    exact readItems_end false rest
  | cons item items ih =>
    obtain ⟨fuel, rfl⟩ := Nat.exists_eq_succ_of_ne_zero (Nat.ne_zero_of_lt enough)
    have lines : (indentedItems depth (item :: items) ++ newLine outer ++ [']']).map .char ++ rest =
        (',' :: newLine depth).map .char ++ ((item.indentedText depth).map .char ++
          ((indentedItems depth items ++ newLine outer ++ [']']).map .char ++ rest)) := by
      simp [indentedItems]
    have here := reads item (.head _) _ (ends_items depth outer items rest)
    have more := ih (fun item mem => integral item (.tail _ mem))
      (fun item mem => reads item (.tail _ mem)) (by simpa using enough)
    rw [lines]
    refine (readItems_item (nextItem_indented false (integral item (.head _)) _) here).trans ?_
    rw [more]
    rfl

theorem readItems_all {fuel : ℕ} {item : Json} {items : List Json} (rest : List Symbol)
    (integral : ∀ other ∈ item :: items, Integral other)
    (reads : ∀ other ∈ item :: items, ∀ rest, Ends rest →
      value ((other.indentedText depth).map .char ++ rest) = .ok (other, rest))
    (enough : items.length + 1 < fuel) :
    readItems value fuel true ((newLine depth ++ item.indentedText depth ++
        indentedItems depth items ++ newLine outer ++ [']']).map .char ++ rest) =
      .ok (item :: items, rest) := by
  obtain ⟨fuel, rfl⟩ := Nat.exists_eq_succ_of_ne_zero (Nat.ne_zero_of_lt enough)
  have lines : (newLine depth ++ item.indentedText depth ++ indentedItems depth items ++
      newLine outer ++ [']']).map .char ++ rest =
        (newLine depth).map .char ++ ((item.indentedText depth).map .char ++
          ((indentedItems depth items ++ newLine outer ++ [']']).map .char ++ rest)) := by
    simp
  have here := reads item (.head _) _ (ends_items depth outer items rest)
  rw [lines]
  refine (readItems_item (nextItem_indented true (integral item (.head _)) _) here).trans ?_
  rw [readItems_rest rest (fun item mem => integral item (.tail _ mem))
    (fun item mem => reads item (.tail _ mem)) (Nat.lt_of_succ_lt_succ enough)]
  rfl

def pairField (value : Reader α) (pairs : List (String × α)) (key : String) :
    Except Halt (Reader (List (String × α))) :=
  .ok fun s => do
    let (a, rest) ← value s
    pure ((key, a) :: pairs, rest)

theorem ends_fields (depth outer : ℕ) (fields : List (String × Json)) (rest : List Symbol) :
    Ends ((indentedFields depth fields ++ newLine outer ++ ['\x7d']).map .char ++ rest) := by
  intro symbol head
  cases fields with
  | nil =>
    cases head
    decide
  | cons field fields =>
    cases head
    decide

variable {pairs : List (String × Json)}

theorem foldFields_field {fuel : ℕ} {first : Bool} {s next rest : List Symbol} {key : String}
    {item : Json} (goes : nextKey first s = .ok (some ((key.toList.flatMap escapeChar ++ ['"']).map
      .char ++ .char ':' :: next))) (reads : value next = .ok (item, rest)) :
    foldFields (pairField value) (fuel + 1) first pairs s =
      foldFields (pairField value) fuel false ((key, item) :: pairs) rest := by
  have colon : readColon (.char ':' :: next) = .ok next := rfl
  rw [foldFields]
  simp only [goes, bind, Except.bind, readString_quoted, pairField, colon, reads, pure, Except.pure]

theorem foldFields_end {fuel : ℕ} (first : Bool) (rest : List Symbol) :
    foldFields (pairField value) (fuel + 1) first pairs
        ((newLine outer ++ ['\x7d']).map .char ++ rest) = .ok (pairs, rest) := by
  unfold foldFields
  simp only [nextKey_end, bind, Except.bind]
  rw [List.map_append, List.append_assoc, skipBlanks_newLine]
  rfl

theorem foldFields_rest {fuel : ℕ} {fields : List (String × Json)} (rest : List Symbol)
    (blank : ∀ s, value (.char ' ' :: s) = value s)
    (reads : ∀ field ∈ fields, ∀ rest, Ends rest →
      value ((field.2.indentedText depth).map .char ++ rest) = .ok (field.2, rest))
    (enough : fields.length < fuel) :
    foldFields (pairField value) fuel false pairs
        ((indentedFields depth fields ++ newLine outer ++ ['\x7d']).map .char ++ rest) =
      .ok (fields.reverse ++ pairs, rest) := by
  induction fields generalizing fuel pairs with
  | nil =>
    obtain ⟨fuel, rfl⟩ := Nat.exists_eq_succ_of_ne_zero (Nat.ne_zero_of_lt enough)
    exact foldFields_end false rest
  | cons field fields ih =>
    obtain ⟨fuel, rfl⟩ := Nat.exists_eq_succ_of_ne_zero (Nat.ne_zero_of_lt enough)
    obtain ⟨key, item⟩ := field
    have lines : (indentedFields depth ((key, item) :: fields) ++ newLine outer ++
        ['\x7d']).map .char ++ rest =
          (',' :: newLine depth ++ ['"']).map .char ++
            ((key.toList.flatMap escapeChar ++ ['"']).map .char ++ .char ':' :: .char ' ' ::
              ((item.indentedText depth).map .char ++
                ((indentedFields depth fields ++ newLine outer ++ ['\x7d']).map .char ++ rest))) := by
      simp [indentedFields, quoted]
    have here := reads (key, item) (.head _) _ (ends_fields depth outer fields rest)
    rw [← blank] at here
    rw [lines]
    refine (foldFields_field (nextKey_comma depth _) here).trans ?_
    rw [ih (fun field mem => reads field (.tail _ mem)) (by simpa using enough)]
    simp

theorem foldFields_all {fuel : ℕ} {key : String} {item : Json} {fields : List (String × Json)}
    (rest : List Symbol) (blank : ∀ s, value (.char ' ' :: s) = value s)
    (reads : ∀ field ∈ (key, item) :: fields, ∀ rest, Ends rest →
      value ((field.2.indentedText depth).map .char ++ rest) = .ok (field.2, rest))
    (enough : fields.length + 1 < fuel) :
    foldFields (pairField value) fuel true [] ((newLine depth ++ quoted key ++ ':' :: ' ' ::
        item.indentedText depth ++ indentedFields depth fields ++ newLine outer ++
          ['\x7d']).map .char ++ rest) =
      .ok (((key, item) :: fields).reverse, rest) := by
  obtain ⟨fuel, rfl⟩ := Nat.exists_eq_succ_of_ne_zero (Nat.ne_zero_of_lt enough)
  have lines : (newLine depth ++ quoted key ++ ':' :: ' ' :: item.indentedText depth ++
      indentedFields depth fields ++ newLine outer ++ ['\x7d']).map .char ++ rest =
        (newLine depth ++ ['"']).map .char ++
          ((key.toList.flatMap escapeChar ++ ['"']).map .char ++ .char ':' :: .char ' ' ::
            ((item.indentedText depth).map .char ++
              ((indentedFields depth fields ++ newLine outer ++ ['\x7d']).map .char ++ rest))) := by
    simp [quoted]
  have here := reads (key, item) (.head _) _ (ends_fields depth outer fields rest)
  rw [← blank] at here
  rw [lines]
  refine (foldFields_field (nextKey_first depth _) here).trans ?_
  rw [foldFields_rest rest blank (fun field mem => reads field (.tail _ mem))
    (Nat.lt_of_succ_lt_succ enough)]
  simp

end Containers

theorem length_indentedItems (depth : ℕ) (items : List Json) :
    items.length ≤ (indentedItems depth items).length := by
  induction items with
  | nil => exact Nat.le_refl 0
  | cons item items ih =>
    simp only [indentedItems, List.length_cons, List.length_append]
    omega

theorem length_item (depth : ℕ) {items : List Json} {item : Json} (mem : item ∈ items) :
    (item.indentedText depth).length ≤ (indentedItems depth items).length := by
  induction items with
  | nil => cases mem
  | cons first items ih =>
    simp only [indentedItems, List.length_cons, List.length_append]
    rcases List.mem_cons.mp mem with rfl | mem
    · omega
    · have := ih mem
      omega

theorem length_indentedFields (depth : ℕ) (fields : List (String × Json)) :
    fields.length ≤ (indentedFields depth fields).length := by
  induction fields with
  | nil => exact Nat.le_refl 0
  | cons field fields ih =>
    simp only [indentedFields, List.length_cons, List.length_append]
    omega

theorem length_field (depth : ℕ) {fields : List (String × Json)} {field : String × Json}
    (mem : field ∈ fields) :
    (field.2.indentedText depth).length ≤ (indentedFields depth fields).length := by
  induction fields with
  | nil => cases mem
  | cons first fields ih =>
    simp only [indentedFields, List.length_cons, List.length_append]
    rcases List.mem_cons.mp mem with rfl | mem
    · omega
    · have := ih mem
      omega

theorem readContent_scalar (bound depth : ℕ) :
    ∃ list object, readContent bound depth = readWith list object := by
  cases depth <;> exact ⟨_, _, rfl⟩

theorem readContent_blank (bound depth : ℕ) (s : List Symbol) :
    readContent bound depth (.char ' ' :: s) = readContent bound depth s := by
  cases depth <;> rfl

theorem readContent_list (bound depth : ℕ) (s : List Symbol) :
    readContent bound (depth + 1) (.char '[' :: s) =
      (readItems (readContent bound depth) bound true s).map
        fun (items, rest) => (.array items, rest) := by
  change (readItems (readContent bound depth) bound true s >>= fun read =>
    pure (array read.1, read.2)) = _
  cases readItems (readContent bound depth) bound true s <;> rfl

theorem readContent_object (bound depth : ℕ) (s : List Symbol) :
    readContent bound (depth + 1) (.char '\x7b' :: s) =
      (foldFields (pairField (readContent bound depth)) bound true [] s).map
        fun (pairs, rest) => (.object pairs.reverse, rest) := by
  change ((foldFields (pairField (readContent bound depth)) bound true [] s >>=
    fun read => pure (read.1.reverse, read.2)) >>= fun read =>
      pure (object read.1, read.2)) = _
  cases foldFields (pairField (readContent bound depth)) bound true [] s <;> rfl

theorem readWith_string (list object : Reader Json) (text : String) (rest : List Symbol) :
    readWith list object ((quoted text).map .char ++ rest) = .ok (.string text, rest) := by
  change (readString ((text.toList.flatMap escapeChar ++ ['"']).map .char ++ rest) >>=
    fun read => pure (string read.1, read.2)) = _
  rw [readString_quoted]
  rfl

theorem readWith_number (list object : Reader Json) {n : Number} (integral : n.Integral)
    {rest : List Symbol} (ends : Ends rest) :
    readWith list object (n.text.toList.map .char ++ rest) = .ok (.number n, rest) := by
  rcases readNumber_text integral with ⟨m, small, rfl, text⟩ | ⟨text, eq, reads⟩
  · obtain ⟨c, digits, cons⟩ := List.exists_cons_of_ne_nil (Nat.toDigits_ne_nil (n := m) (b := 10))
    have digit : c.isDigit = true := isDigit_toDigits (n := m) (by rw [cons]; exact .head _)
    have reads := readNumber_natural small ends
    rw [cons, List.map_cons, List.cons_append] at reads
    rw [text, cons, List.map_cons, List.cons_append, readWith_digit digit, reads]
    rfl
  · rw [eq]
    change (liftStop (readNumber true (text.map .char ++ rest)) >>= fun read =>
      pure (number read.1, read.2)) = _
    rw [reads rest ends]
    rfl

/-- Reading what was printed gives the value back, within the depth and the bound of the reader. -/
theorem readContent_indented {bound depth : ℕ} {value : Json} (nests : Nests depth value)
    (integral : Integral value) (indent : ℕ) (short : (value.indentedText indent).length ≤ bound)
    (rest : List Symbol) (ends : Ends rest) :
    readContent bound depth ((value.indentedText indent).map .char ++ rest) = .ok (value, rest) := by
  -- On the nesting, which is what the reader's depth counts down; the bound stays the same.
  induction nests generalizing indent rest with
  | @null depth => cases depth <;> rfl
  | @bool depth value => cases depth <;> cases value <;> rfl
  | @number depth value =>
    obtain ⟨list, object, eq⟩ := readContent_scalar bound depth
    cases integral with
    | number integral =>
      rw [eq]
      exact readWith_number list object integral ends
  | @string depth value =>
    obtain ⟨list, object, eq⟩ := readContent_scalar bound depth
    rw [eq]
    exact readWith_string list object value rest
  | @array depth items _ ih =>
    cases integral with
    | array integral =>
      cases items with
      | nil =>
        obtain ⟨bound, rfl⟩ : ∃ more, bound = more + 1 := ⟨bound - 1, by
          simp [indentedText] at short
          omega⟩
        rfl
      | cons item items =>
        have lines : ((array (item :: items)).indentedText indent).map .char ++ rest =
            .char '[' :: ((newLine (indent + 1) ++ item.indentedText (indent + 1) ++
              indentedItems (indent + 1) items ++ newLine indent ++ [']']).map .char ++ rest) := by
          simp [indentedText]
        simp only [indentedText, List.length_append, List.length_cons] at short
        have count := length_indentedItems (indent + 1) items
        rw [lines, readContent_list, readItems_all rest integral]
        · rfl
        · intro other mem rest ends
          refine ih other mem (integral other mem) (indent + 1) ?_ rest ends
          rcases List.mem_cons.mp mem with rfl | mem
          · omega
          · have := length_item (indent + 1) mem
            omega
        · omega
  | @object depth fields _ ih =>
    cases integral with
    | object integral =>
      cases fields with
      | nil =>
        obtain ⟨bound, rfl⟩ : ∃ more, bound = more + 1 := ⟨bound - 1, by
          simp [indentedText] at short
          omega⟩
        rfl
      | cons field fields =>
        obtain ⟨key, item⟩ := field
        have lines : ((object ((key, item) :: fields)).indentedText indent).map .char ++ rest =
            .char '\x7b' :: ((newLine (indent + 1) ++ quoted key ++ ':' :: ' ' ::
              item.indentedText (indent + 1) ++ indentedFields (indent + 1) fields ++
                newLine indent ++ ['\x7d']).map .char ++ rest) := by
          simp [indentedText]
        simp only [indentedText, List.length_append, List.length_cons] at short
        have count := length_indentedFields (indent + 1) fields
        rw [lines, readContent_object, foldFields_all rest (readContent_blank bound depth)]
        · change Except.ok (object (((key, item) :: fields).reverse.reverse), rest) = _
          rw [List.reverse_reverse]
        · intro other mem rest ends
          refine ih other mem (integral other mem) (indent + 1) ?_ rest ends
          rcases List.mem_cons.mp mem with rfl | mem
          · dsimp only
            omega
          · have := length_field (indent + 1) mem
            omega
        · omega

end OpenApiClient.Json
