import OpenApiClient.Proofs.PrintedValues

/-! What the reader makes.
A value that was read nests as deep as the reader goes, and its objects name no key twice. So it can
be read again from its indented text. -/
namespace OpenApiClient

theorem mem_putField {key : String} {value : α} {fields : List (String × α)} {field : String × α}
    (h : field ∈ putField key value fields) : field = (key, value) ∨ field ∈ fields := by
  induction fields with
  | nil => exact .inl (by simpa [putField] using h)
  | cons first fields ih =>
    unfold putField at h
    split at h
    · rename_i same
      rcases List.mem_cons.mp h with rfl | mem
      · exact .inl (by rw [same])
      · exact .inr (.tail _ mem)
    · rcases List.mem_cons.mp h with rfl | mem
      · exact .inr (.head _)
      · exact (ih mem).imp id (.tail _)

theorem nodup_putField {key : String} {value : α} {fields : List (String × α)}
    (h : (fields.map Prod.fst).Nodup) : ((putField key value fields).map Prod.fst).Nodup := by
  induction fields with
  | nil => simp [putField]
  | cons first fields ih =>
    obtain ⟨fresh, rest⟩ := List.nodup_cons.mp h
    unfold putField
    split
    · exact h
    · rename_i other
      refine List.nodup_cons.mpr ⟨fun mem => ?_, ih rest⟩
      obtain ⟨field, mem, eq⟩ := List.mem_map.mp mem
      rcases mem_putField mem with rfl | mem
      · exact other eq.symm
      · exact fresh (List.mem_map.mpr ⟨field, mem, eq⟩)

theorem putField_of_not_mem {key : String} {value : α} {fields : List (String × α)}
    (h : key ∉ fields.map Prod.fst) : putField key value fields = fields ++ [(key, value)] := by
  induction fields with
  | nil => rfl
  | cons first fields ih =>
    simp only [List.map_cons, List.mem_cons, not_or] at h
    rw [putField, if_neg (Ne.symm h.1), ih h.2]
    rfl

def settleAfter (settled fields : List (String × α)) : List (String × α) :=
  fields.foldl (fun settled (key, value) => putField key value settled) settled

theorem mem_settleAfter {settled fields : List (String × α)} {field : String × α}
    (h : field ∈ settleAfter settled fields) : field ∈ settled ∨ field ∈ fields := by
  induction fields generalizing settled with
  | nil => exact .inl h
  | cons first fields ih =>
    rcases ih h with mem | mem
    · rcases mem_putField mem with rfl | mem
      · exact .inr (.head _)
      · exact .inl mem
    · exact .inr (.tail _ mem)

theorem nodup_settleAfter {settled : List (String × α)} (fields : List (String × α))
    (h : (settled.map Prod.fst).Nodup) : ((settleAfter settled fields).map Prod.fst).Nodup := by
  induction fields generalizing settled with
  | nil => exact h
  | cons first fields ih => exact ih (nodup_putField h)

theorem settleAfter_of_nodup {settled fields : List (String × α)}
    (h : ((settled ++ fields).map Prod.fst).Nodup) :
    settleAfter settled fields = settled ++ fields := by
  induction fields generalizing settled with
  | nil => exact (List.append_nil settled).symm
  | cons first fields ih =>
    have next : settleAfter settled (first :: fields) =
        settleAfter (putField first.1 first.2 settled) fields := rfl
    have fresh : first.1 ∉ settled.map Prod.fst := by
      rw [List.map_append, List.nodup_append] at h
      exact fun mem => h.2.2 _ mem _ (.head _) rfl
    have moved : settled ++ first :: fields = settled ++ [first] ++ fields := by simp
    rw [moved] at h ⊢
    rw [next, putField_of_not_mem fresh, ih h]

namespace Json

inductive Distinct : Json → Prop where
  | null : Distinct .null
  | bool {value} : Distinct (.bool value)
  | number {value} : Distinct (.number value)
  | string {value} : Distinct (.string value)
  | array {items} : (∀ item ∈ items, Distinct item) → Distinct (.array items)
  | object {fields : List (String × Json)} : (fields.map Prod.fst).Nodup →
      (∀ field ∈ fields, Distinct field.2) → Distinct (.object fields)

theorem settledItems_eq (items : List Json) : settledItems items = items.map settled := by
  induction items with
  | nil => rfl
  | cons item items ih => rw [settledItems, ih, List.map_cons]

theorem settledFields_eq (fields : List (String × Json)) :
    settledFields fields = fields.map fun field => (field.1, field.2.settled) := by
  induction fields with
  | nil => rfl
  | cons field fields ih => rw [settledFields, ih, List.map_cons]

theorem settled_of_distinct {value : Json} (h : Distinct value) : value.settled = value := by
  induction h with
  | null | bool | number | string => rfl
  | @array items _ ih =>
    rw [settled, settledItems_eq, List.map_congr_left ih, List.map_id']
  | @object fields nodup _ ih =>
    have same : fields.map (fun field => (field.1, field.2.settled)) = fields := by
      refine (List.map_congr_left fun field mem => ?_).trans (List.map_id' fields)
      rw [ih field mem]
    rw [settled, settledFields_eq, same]
    exact congrArg _ (settleAfter_of_nodup nodup)

/-- Settling a value keeps its depth and leaves no key twice. -/
theorem settled_sound {depth : ℕ} {value : Json} (h : Nests depth value) :
    Nests depth value.settled ∧ Distinct value.settled := by
  induction h with
  | null => exact ⟨.null, .null⟩
  | bool => exact ⟨.bool, .bool⟩
  | number => exact ⟨.number, .number⟩
  | string => exact ⟨.string, .string⟩
  | @array depth items _ ih =>
    rw [settled, settledItems_eq]
    have all : ∀ item ∈ items.map settled, Nests depth item ∧ Distinct item := by
      intro item mem
      obtain ⟨before, inside, rfl⟩ := List.mem_map.mp mem
      exact ih before inside
    exact ⟨.array fun item mem => (all item mem).1, .array fun item mem => (all item mem).2⟩
  | @object depth fields _ ih =>
    rw [settled, settledFields_eq]
    have all : ∀ field ∈ settleFields (fields.map fun field => (field.1, field.2.settled)),
        Nests depth field.2 ∧ Distinct field.2 := by
      intro field mem
      rcases mem_settleAfter mem with mem | mem
      · cases mem
      · obtain ⟨before, inside, rfl⟩ := List.mem_map.mp mem
        exact ih before inside
    exact ⟨.object fun field mem => (all field mem).1,
      .object (nodup_settleAfter _ List.nodup_nil) fun field mem => (all field mem).2⟩

theorem bind_ok {x : Except ε α} {f : α → Except ε β} {b : β} (h : x >>= f = .ok b) :
    ∃ a, x = .ok a ∧ f a = .ok b := by
  cases x with
  | error e => cases h
  | ok a => exact ⟨a, rfl, h⟩

theorem readItems_ok {item : Reader α} {fuel : ℕ} {first : Bool} {s rest : List Symbol}
    {items : List α} (h : readItems item (fuel + 1) first s = .ok (items, rest)) :
    (nextItem first s = .ok none ∧ items = [] ∧ rest = (skipBlanks s).drop 1) ∨
      ∃ next a middle more, nextItem first s = .ok (some next) ∧ item next = .ok (a, middle) ∧
        readItems item fuel false middle = .ok (more, rest) ∧ items = a :: more := by
  rw [readItems] at h
  obtain ⟨_ | next, goes, h⟩ := bind_ok h
  · cases h
    exact .inl ⟨goes, rfl, rfl⟩
  · obtain ⟨⟨a, middle⟩, read, h⟩ := bind_ok h
    obtain ⟨⟨more, after⟩, others, h⟩ := bind_ok h
    cases h
    exact .inr ⟨next, a, middle, more, goes, read, others, rfl⟩

theorem foldFields_ok {value : Reader α} {fuel : ℕ} {first : Bool} {s rest : List Symbol}
    {pairs fields : List (String × α)}
    (h : foldFields (pairField value) (fuel + 1) first pairs s = .ok (fields, rest)) :
    (nextKey first s = .ok none ∧ fields = pairs ∧ rest = (skipBlanks s).drop 1) ∨
      ∃ next key afterKey afterColon a middle, nextKey first s = .ok (some next) ∧
        readString next = .ok (key, afterKey) ∧ readColon afterKey = .ok afterColon ∧
          value afterColon = .ok (a, middle) ∧
            foldFields (pairField value) fuel false ((key, a) :: pairs) middle =
              .ok (fields, rest) := by
  rw [foldFields] at h
  obtain ⟨_ | next, goes, h⟩ := bind_ok h
  · cases h
    exact .inl ⟨goes, rfl, rfl⟩
  · obtain ⟨⟨key, afterKey⟩, named, h⟩ := bind_ok h
    obtain ⟨reader, field, h⟩ := bind_ok h
    cases field
    obtain ⟨afterColon, colon, h⟩ := bind_ok h
    obtain ⟨⟨state, middle⟩, step, others⟩ := bind_ok h
    obtain ⟨⟨a, middle⟩, read, eq⟩ := bind_ok step
    cases eq
    exact .inr ⟨next, key, afterKey, afterColon, a, middle, goes, named, colon, read, others⟩

theorem liftStop_ok {x : Except Stop α} {a : α} (h : liftStop x = .ok a) : x = .ok a := by
  cases x with
  | error stop => cases h
  | ok b =>
    cases h
    rfl

/-- What is read from an input that has no blank in front. -/
inductive Front (bound : ℕ) : ℕ → List Symbol → Json → List Symbol → Prop where
  | null {depth s rest} : readWord ['u', 'l', 'l'] s = .ok rest →
      Front bound depth (.char 'n' :: s) .null rest
  | yes {depth s rest} : readWord ['r', 'u', 'e'] s = .ok rest →
      Front bound depth (.char 't' :: s) (.bool true) rest
  | no {depth s rest} : readWord ['a', 'l', 's', 'e'] s = .ok rest →
      Front bound depth (.char 'f' :: s) (.bool false) rest
  | string {depth s text rest} : readString s = .ok (text, rest) →
      Front bound depth (.char '"' :: s) (.string text) rest
  | negative {depth s n rest} : readNumber true s = .ok (n, rest) →
      Front bound depth (.char '-' :: s) (.number n) rest
  | number {depth symbol s n rest} : isDigit symbol = true →
      readNumber false (symbol :: s) = .ok (n, rest) →
      Front bound depth (symbol :: s) (.number n) rest
  | list {depth s items rest} :
      readItems (readContent bound depth) bound true s = .ok (items, rest) →
      Front bound (depth + 1) (.char '[' :: s) (.array items) rest
  | object {depth s pairs rest} :
      foldFields (pairField (readContent bound depth)) bound true [] s = .ok (pairs, rest) →
      Front bound (depth + 1) (.char '\x7b' :: s) (.object pairs.reverse) rest

theorem front_of_readWith {bound depth : ℕ} {s rest : List Symbol} {value : Json}
    {list object : Reader Json} (h : readWith list object s = .ok (value, rest))
    (inList : ∀ s, list s = .ok (value, rest) → Front bound depth (.char '[' :: s) value rest)
    (inObject : ∀ s, object s = .ok (value, rest) →
      Front bound depth (.char '\x7b' :: s) value rest) :
    Front bound depth (skipBlanks s) value rest := by
  unfold readWith at h
  generalize skipBlanks s = symbols at h ⊢
  split at h
  · cases h
  · obtain ⟨after, read, h⟩ := bind_ok h
    cases h
    exact .null read
  · obtain ⟨after, read, h⟩ := bind_ok h
    cases h
    exact .yes read
  · obtain ⟨after, read, h⟩ := bind_ok h
    cases h
    exact .no read
  · obtain ⟨⟨text, after⟩, read, h⟩ := bind_ok h
    cases h
    exact .string read
  · exact inList _ h
  · exact inObject _ h
  · obtain ⟨⟨n, after⟩, read, h⟩ := bind_ok h
    cases h
    exact .negative (liftStop_ok read)
  · split at h
    · rename_i digit
      obtain ⟨⟨n, after⟩, read, h⟩ := bind_ok h
      cases h
      exact .number digit (liftStop_ok read)
    · cases h

theorem readContent_front {bound depth : ℕ} {s rest : List Symbol} {value : Json}
    (h : readContent bound depth s = .ok (value, rest)) :
    Front bound depth (skipBlanks s) value rest := by
  cases depth with
  | zero =>
    refine front_of_readWith h ?_ ?_
    · intro s deep
      cases deep
    · intro s deep
      cases deep
  | succ depth =>
    refine front_of_readWith h ?_ ?_
    · intro s h
      obtain ⟨⟨items, after⟩, read, h⟩ := bind_ok h
      cases h
      exact .list read
    · intro s h
      obtain ⟨⟨fields, after⟩, read, h⟩ := bind_ok h
      obtain ⟨⟨pairs, later⟩, read, eq⟩ := bind_ok read
      cases eq
      cases h
      exact .object read

theorem readItems_forall {P : α → Prop} {item : Reader α}
    (each : ∀ s a rest, item s = .ok (a, rest) → P a) {fuel : ℕ} {first : Bool}
    {s rest : List Symbol} {items : List α}
    (h : readItems item fuel first s = .ok (items, rest)) : ∀ a ∈ items, P a := by
  induction fuel generalizing first s rest items with
  | zero => cases h
  | succ fuel ih =>
    rcases readItems_ok h with ⟨_, rfl, _⟩ | ⟨next, a, middle, more, _, read, others, rfl⟩
    · simp
    · exact List.forall_mem_cons.mpr ⟨each _ _ _ read, ih others⟩

theorem foldFields_forall {P : α → Prop} {value : Reader α}
    (each : ∀ s a rest, value s = .ok (a, rest) → P a) {fuel : ℕ} {first : Bool}
    {s rest : List Symbol} {pairs fields : List (String × α)} (before : ∀ field ∈ pairs, P field.2)
    (h : foldFields (pairField value) fuel first pairs s = .ok (fields, rest)) :
    ∀ field ∈ fields, P field.2 := by
  induction fuel generalizing first s rest pairs with
  | zero => cases h
  | succ fuel ih =>
    rcases foldFields_ok h with ⟨_, rfl, _⟩ | ⟨_, key, _, _, a, middle, _, _, _, read, others⟩
    · exact before
    · exact ih (List.forall_mem_cons.mpr ⟨each _ _ _ read, before⟩) others

theorem Front.nests {bound depth : ℕ} {s rest : List Symbol} {value : Json}
    (front : Front bound depth s value rest)
    (inner : ∀ less, depth = less + 1 → ∀ s value rest,
      readContent bound less s = .ok (value, rest) → Nests less value) : Nests depth value := by
  cases front with
  | null => exact .null
  | yes => exact .bool
  | no => exact .bool
  | string => exact .string
  | negative => exact .number
  | number => exact .number
  | @list less _ _ _ read => exact .array (readItems_forall (inner less rfl) read)
  | @object less _ _ _ read =>
    have all := foldFields_forall (P := Nests less) (inner less rfl) (by simp) read
    exact .object fun field mem => all field (List.mem_reverse.mp mem)

theorem readContent_nests {bound depth : ℕ} {s rest : List Symbol} {value : Json}
    (h : readContent bound depth s = .ok (value, rest)) : Nests depth value := by
  induction depth using Nat.strongRecOn generalizing s rest value with
  | ind depth ih =>
    refine (readContent_front h).nests fun less eq _ _ _ read => ?_
    exact ih less (by omega) read

theorem parse_sound {text : List Symbol} {value : Json} (h : parse text = .ok value) :
    Nests maxDepth value ∧ Distinct value := by
  unfold parse runReader at h
  dsimp only at h
  split at h
  · rename_i outcome
    cases h
    obtain ⟨⟨value, rest⟩, read, ended⟩ := bind_ok outcome
    obtain ⟨⟨content, after⟩, read, eq⟩ := bind_ok read
    obtain ⟨_, _, same⟩ := bind_ok ended
    cases eq
    cases same
    exact settled_sound (readContent_nests read)
  · cases h
  · cases h

theorem symbols_printed (value : Json) :
    Symbol.ofBytes value.indented.toUTF8 = (value.indentedText 0).map .char := by
  rw [Symbol.ofBytes_toUTF8, Symbol.ofString, indented, String.toList_ofList]

theorem readContent_printed {value : Json} (nests : Nests maxDepth value)
    (integral : Integral value) :
    readContent (boundOf (Symbol.ofBytes value.indented.toUTF8)) maxDepth
      (Symbol.ofBytes value.indented.toUTF8) = .ok (value, []) := by
  have short : (value.indentedText 0).length ≤ boundOf ((value.indentedText 0).map .char) := by
    simp [boundOf]
  have nothing : Ends [] := fun _ head => by cases head
  rw [symbols_printed]
  simpa using readContent_indented nests integral 0 short [] nothing

theorem parse_printed {value : Json} (nests : Nests maxDepth value) (distinct : Distinct value)
    (integral : Integral value) : parse (Symbol.ofBytes value.indented.toUTF8) = .ok value := by
  have content := readContent_printed nests integral
  generalize Symbol.ofBytes value.indented.toUTF8 = text at content ⊢
  have reads : readValue (boundOf text) maxDepth text = .ok (value, []) := by
    unfold readValue
    rw [content]
    change Except.ok (value.settled, []) = _
    rw [settled_of_distinct distinct]
  unfold parse runReader
  simp only [reads]
  rfl

theorem parse_indented {text : List Symbol} {value : Json} (h : parse text = .ok value)
    (integral : Integral value) : parse (Symbol.ofBytes value.indented.toUTF8) = .ok value :=
  parse_printed (parse_sound h).1 (parse_sound h).2 integral

end Json

end OpenApiClient
