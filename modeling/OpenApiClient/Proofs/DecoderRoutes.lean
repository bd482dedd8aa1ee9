import OpenApiClient.Proofs.RecordFields
import OpenApiClient.Proofs.SkippedValues

/-! Reading from a text and from a raw value.
A decoder agrees with itself if its two routes succeed on the same values and give the same; each
combinator keeps this, whatever else stands in the text. -/
namespace OpenApiClient

open Json (Front bind_ok nextItem nextKey readContent readItems foldFields readString readColon
  pairField skipBlanks skipValue closeList readWord tooDeep isDigit)

variable {bound depth : ℕ} {s rest : List Symbol} {value : Json}

theorem toOption_bind (x : Except ε α) (f : α → Except ε β) :
    (x >>= f).toOption = x.toOption.bind fun a => (f a).toOption := by
  cases x <;> rfl

theorem toOption_map (x : Except ε α) (f : α → β) : (x.map f).toOption = x.toOption.map f := by
  cases x <;> rfl

theorem toOption_eq_some {x : Except ε α} {a : α} : x.toOption = some a ↔ x = .ok a := by
  cases x <;> simp [Except.toOption]

theorem toOption_mapM_cons (f : α → Except ε β) (a : α) (more : List α) :
    ((a :: more).mapM f).toOption =
      (f a).toOption.bind fun b => (more.mapM f).toOption.map (b :: ·) := by
  rw [List.mapM_cons]
  cases f a with
  | error e => rfl
  | ok b => cases more.mapM f <;> rfl

theorem toOption_foldlM_cons (f : σ → α → Except ε σ) (state : σ) (a : α) (more : List α) :
    ((a :: more).foldlM f state).toOption =
      (f state a).toOption.bind fun state => (more.foldlM f state).toOption := by
  rw [List.foldlM_cons, toOption_bind]

theorem toOption_refuseNext (expected : String) (s : List Symbol) :
    (Json.refuseNext expected s : Except Json.Halt (α × List Symbol)).toOption = none := by
  rw [Json.refuseNext, toOption_bind]
  simp only [Json.mismatch, Except.toOption, Option.bind_fun_none]

theorem toOption_liftMismatch (x : Except Mismatch α) :
    (Json.liftMismatch x).toOption = x.toOption := by
  cases x <;> rfl

/-- A value with each key once that is read within a bound. -/
structure Reads (bound depth : ℕ) (s : List Symbol) (value : Json) (rest : List Symbol) : Prop where
  read : readContent bound depth s = .ok (value, rest)
  distinct : value.Distinct
  short : s.length ≤ bound

theorem Reads.front (reads : Reads bound depth s value rest) :
    Front bound depth (skipBlanks s) value rest := Json.readContent_front reads.read

theorem readContent_skipBlanks (bound depth : ℕ) (s : List Symbol) :
    readContent bound depth (skipBlanks s) = readContent bound depth s := by
  cases depth <;> simp only [readContent, Json.readWith, Json.skipBlanks_skipBlanks]

theorem Reads.blanks (reads : Reads bound depth s value rest) :
    Reads bound depth (skipBlanks s) value rest where
  read := (readContent_skipBlanks bound depth s).trans reads.read
  distinct := reads.distinct
  short := (Json.length_skipBlanks s).trans reads.short

namespace Json

theorem digit_ne {symbol : Symbol} (digit : isDigit symbol = true) {c : Char}
    (other : c.isDigit = false) : symbol ≠ .char c := by
  rintro rfl
  exact absurd (digit.symm.trans other) (by decide)

theorem Front.null_or (front : Front bound depth s value rest) :
    (value = .null ∧ ∃ after, s = .char 'n' :: after ∧ readWord ['u', 'l', 'l'] after = .ok rest) ∨
      (value ≠ .null ∧ ∀ after, s ≠ .char 'n' :: after) := by
  cases front with
  | null read => exact .inl ⟨rfl, _, rfl, read⟩
  | number digit read =>
    refine .inr ⟨by simp, fun after eq => ?_⟩
    exact digit_ne digit (by decide) (List.cons.inj eq).1
  | _ => exact .inr ⟨by simp, by simp⟩

theorem Front.string_or (front : Front bound depth s value rest) :
    (∃ text after, value = .string text ∧ s = .char '"' :: after ∧
      readString after = .ok (text, rest)) ∨
      ((∀ text, value ≠ .string text) ∧ ∀ after, s ≠ .char '"' :: after) := by
  cases front with
  | string read => exact .inl ⟨_, _, rfl, rfl, read⟩
  | number digit read =>
    refine .inr ⟨by simp, fun after eq => ?_⟩
    exact digit_ne digit (by decide) (List.cons.inj eq).1
  | _ => exact .inr ⟨by simp, by simp⟩

theorem Front.container_or (front : Front bound depth s value rest) :
    (∃ inner items after, depth = inner + 1 ∧ value = .array items ∧ s = .char '[' :: after ∧
      readItems (readContent bound inner) bound true after = .ok (items, rest)) ∨
    (∃ inner pairs after, depth = inner + 1 ∧ value = .object pairs.reverse ∧
      s = .char '\x7b' :: after ∧
      foldFields (pairField (readContent bound inner)) bound true [] after = .ok (pairs, rest)) ∨
    ((∀ items, value ≠ .array items) ∧ (∀ fields, value ≠ .object fields) ∧
      (∀ after, s ≠ .char '[' :: after) ∧ ∀ after, s ≠ .char '\x7b' :: after) := by
  cases front with
  | list read => exact .inl ⟨_, _, _, rfl, rfl, rfl, read⟩
  | object read => exact .inr (.inl ⟨_, _, _, rfl, rfl, rfl, read⟩)
  | number digit read =>
    refine .inr (.inr ⟨by simp, by simp, fun after eq => ?_, fun after eq => ?_⟩)
    · exact digit_ne digit (by decide) (List.cons.inj eq).1
    · exact digit_ne digit (by decide) (List.cons.inj eq).1
  | _ => exact .inr (.inr ⟨by simp, by simp, by simp, by simp⟩)

end Json

theorem Reads.container_or (reads : Reads bound depth s value rest) :
    (∃ inner items after, depth = inner + 1 ∧ value = .array items ∧
      skipBlanks s = .char '[' :: after ∧ after.length ≤ bound ∧ (∀ item ∈ items, item.Distinct) ∧
        readItems (readContent bound inner) bound true after = .ok (items, rest)) ∨
    (∃ inner pairs after, depth = inner + 1 ∧ value = .object pairs.reverse ∧
      skipBlanks s = .char '\x7b' :: after ∧ after.length ≤ bound ∧
        (∀ pair ∈ pairs, pair.2.Distinct) ∧
          foldFields (pairField (readContent bound inner)) bound true [] after =
            .ok (pairs, rest)) ∨
    ((∀ items, value ≠ .array items) ∧ (∀ fields, value ≠ .object fields) ∧
      (∀ after, skipBlanks s ≠ .char '[' :: after) ∧
        ∀ after, skipBlanks s ≠ .char '\x7b' :: after) := by
  have blanks := reads.blanks.short
  rcases reads.front.container_or with
    ⟨inner, items, after, rfl, rfl, front, read⟩ | ⟨inner, pairs, after, rfl, rfl, front, read⟩ |
      other
  · rw [front, List.length_cons] at blanks
    cases reads.distinct with
    | array all => exact .inl ⟨inner, items, after, rfl, rfl, front, by omega, all, read⟩
  · rw [front, List.length_cons] at blanks
    cases reads.distinct with
    | object _ all =>
      have each : ∀ pair ∈ pairs, pair.2.Distinct :=
        fun pair mem => all pair (List.mem_reverse.mpr mem)
      exact .inr (.inl ⟨inner, pairs, after, rfl, rfl, front, by omega, each, read⟩)
  · exact .inr (.inr other)

namespace Decoder

/-- What is read from a text is what the raw value gives. -/
structure Agrees (d : Decoder α) : Prop where
  same : ∀ {bound depth s value rest}, Reads bound depth s value rest →
    (d.read bound depth s).toOption = (d.ofJson value).toOption.map fun a => (a, rest)

theorem Agrees.map {d : Decoder α} (agrees : d.Agrees) (f : α → β) : (d.map f).Agrees := by
  refine ⟨fun {bound depth s value rest} reads => ?_⟩
  have same := agrees.same reads
  change (Except.map _ (d.read bound depth s)).toOption =
    ((d.ofJson value).map f).toOption.map _
  rw [toOption_map, toOption_map, same, Option.map_map, Option.map_map]
  rfl

theorem agrees_string : string.Agrees := by
  refine ⟨fun {bound depth s value rest} reads => ?_⟩
  rcases reads.front.string_or with ⟨text, after, rfl, front, read⟩ | ⟨other, front⟩
  · simp only [string, front, read]
    rfl
  · have refused : (string.ofJson value).toOption = none := by
      cases value with
      | string text => exact absurd rfl (other text)
      | _ => rfl
    rw [refused]
    simp only [string]
    exact toOption_refuseNext _ _

theorem Agrees.option {d : Decoder α} (agrees : d.Agrees) : (option d).Agrees := by
  refine ⟨fun {bound depth s value rest} reads => ?_⟩
  rcases reads.front.null_or with ⟨rfl, after, front, read⟩ | ⟨other, front⟩
  · simp only [Decoder.option, front, read]
    rfl
  · have given : (Decoder.option d).ofJson value = (d.ofJson value).map some := by
      cases value with
      | null => exact absurd rfl other
      | _ => rfl
    rw [given, toOption_map]
    simp only [Decoder.option]
    rw [toOption_map, agrees.same reads.blanks, Option.map_map, Option.map_map]
    rfl

theorem agrees_raw : raw.Agrees := by
  refine ⟨fun {bound depth s value rest} reads => ?_⟩
  have settled : value.settled = value := Json.settled_of_distinct reads.distinct
  simp only [raw, Json.readValue, reads.read, bind, Except.bind, settled]
  rfl

theorem Agrees.check {d : Decoder α} (agrees : d.Agrees) (f : α → Except Mismatch β) :
    (d.check f).Agrees := by
  refine ⟨fun {bound depth s value rest} reads => ?_⟩
  have same := agrees.same reads
  simp only [Decoder.check, toOption_bind, same, toOption_liftMismatch]
  cases (d.ofJson value).toOption with
  | none => rfl
  | some a =>
    simp only [Option.map_some, Option.bind_some]
    cases (f a).toOption <;> rfl

theorem agrees_buffered (union : String) (choose : Json → Option α) :
    (buffered union choose).Agrees := by
  refine ⟨fun {bound depth s value rest} reads => ?_⟩
  simp only [buffered, reads.read, bind, Except.bind]
  cases choose value <;> rfl

theorem readItems_agrees {d : Decoder α} (agrees : d.Agrees) {fuel : ℕ} {first : Bool}
    {items : List Json} (h : readItems (readContent bound depth) fuel first s = .ok (items, rest))
    (distinct : ∀ item ∈ items, item.Distinct) (short : s.length ≤ bound) :
    (readItems (d.read bound depth) fuel first s).toOption =
      (items.mapM d.ofJson).toOption.map fun list => (list, rest) := by
  induction fuel generalizing first s items with
  | zero => cases h
  | succ fuel ih =>
    rw [readItems]
    rcases Json.readItems_ok h with
      ⟨goes, rfl, rfl⟩ | ⟨next, item, middle, more, goes, read, others, rfl⟩
    · rw [goes]
      rfl
    · obtain ⟨here, later⟩ := List.forall_mem_cons.mp distinct
      have within := (Json.nextItem_length goes).trans short
      have passed := Json.readContent_length read
      have taken := agrees.same ⟨read, here, within⟩
      have remaining := ih others later (by omega)
      rw [goes, toOption_mapM_cons]
      change (d.read bound depth next >>= fun read =>
        readItems (d.read bound depth) fuel false read.2 >>= fun more =>
          pure (read.1 :: more.1, more.2)).toOption = _
      rw [toOption_bind, taken]
      cases (d.ofJson item).toOption with
      | none => rfl
      | some a =>
        simp only [Option.map_some, Option.bind_some, toOption_bind, remaining]
        cases (more.mapM d.ofJson).toOption <;> rfl

/-- Fields are taken in one after the other as a text is read, and each as its value would be. -/
theorem foldFields_agrees (field : σ → String → Except Json.Halt (Json.Reader σ))
    (step : σ → String × Json → Option σ)
    (each : ∀ {state key value s rest}, Reads bound depth s value rest →
      (field state key >>= fun reader => reader s).toOption =
        (step state (key, value)).map fun state => (state, rest))
    {fuel : ℕ} {first : Bool} {before pairs : List (String × Json)}
    (h : foldFields (pairField (readContent bound depth)) fuel first before s = .ok (pairs, rest))
    (distinct : ∀ pair ∈ pairs, pair.2.Distinct) (short : s.length ≤ bound) :
    ∃ fields : List (String × Json), pairs = fields.reverse ++ before ∧ ∀ state,
      (foldFields field fuel first state s).toOption =
        (fields.foldlM step state).map fun state => (state, rest) := by
  -- On the fuel, which is the same for the pairs of the raw value and for what is made of them.
  induction fuel generalizing first s before with
  | zero => cases h
  | succ fuel ih =>
    rcases Json.foldFields_ok h with ⟨goes, rfl, rfl⟩ |
      ⟨next, key, afterKey, afterColon, item, middle, goes, named, colon, read, others⟩
    · refine ⟨[], rfl, fun state => ?_⟩
      rw [foldFields, goes]
      rfl
    · have within := (Json.nextKey_length goes).trans_le short
      have shorter := (Json.skipString_of_readString named).2
      have passed := Json.readColon_length colon
      have taken := Json.readContent_length read
      obtain ⟨fields, rfl, same⟩ := ih others (by omega)
      have here : item.Distinct := distinct (key, item) (by simp)
      refine ⟨(key, item) :: fields, by simp, fun state => ?_⟩
      have one : (field state key >>= fun reader => reader afterColon).toOption =
          (step state (key, item)).map fun state => (state, middle) := each ⟨read, here, by omega⟩
      rw [foldFields, goes, List.foldlM_cons]
      change (readString next >>= fun read => field state read.1 >>= fun reader =>
        readColon read.2 >>= fun after => reader after >>= fun taken =>
          foldFields field fuel false taken.1 taken.2).toOption = _
      rw [named]
      change (field state key >>= fun reader => readColon afterKey >>= fun after =>
        reader after >>= fun taken => foldFields field fuel false taken.1 taken.2).toOption = _
      rw [colon]
      change (field state key >>= fun reader => reader afterColon >>= fun taken =>
        foldFields field fuel false taken.1 taken.2).toOption = _
      rw [← bind_assoc, toOption_bind, one]
      cases step state (key, item) with
      | none => rfl
      | some state => exact same state

theorem Agrees.list {d : Decoder α} (agrees : d.Agrees) : (list d).Agrees := by
  refine ⟨fun {bound depth s value rest} reads => ?_⟩
  rcases reads.container_or with
    ⟨inner, items, after, rfl, rfl, front, short, distinct, read⟩ |
      ⟨inner, pairs, after, rfl, rfl, front, _⟩ | ⟨other, _, front, _⟩
  · simp only [Decoder.list, front]
    exact readItems_agrees agrees read distinct short
  · simp only [Decoder.list, front]
    exact toOption_refuseNext _ _
  · have refused : ((Decoder.list d).ofJson value).toOption = none := by
      cases value with
      | array items => exact absurd rfl (other items)
      | _ => rfl
    rw [refused]
    simp only [Decoder.list]
    split
    · exact absurd (by assumption) (front _)
    · exact absurd (by assumption) (front _)
    · exact toOption_refuseNext _ _

def pairStep (d : Decoder α) (pairs : List (String × α)) (field : String × Json) :
    Option (List (String × α)) :=
  (d.ofJson field.2).toOption.map fun a => (field.1, a) :: pairs

def readPair (d : Decoder α) (field : String × Json) : Except Mismatch (String × α) :=
  (d.ofJson field.2).map fun a => (field.1, a)

theorem foldlM_pairStep (d : Decoder α) (fields : List (String × Json))
    (pairs : List (String × α)) :
    (fields.foldlM (pairStep d) pairs).map List.reverse =
      (fields.mapM (readPair d)).toOption.map (pairs.reverse ++ ·) := by
  induction fields generalizing pairs with
  | nil => simp [pure, Except.pure, Except.toOption]
  | cons field fields ih =>
    rw [List.foldlM_cons, toOption_mapM_cons, readPair, toOption_map, pairStep]
    cases (d.ofJson field.2).toOption with
    | none => rfl
    | some a =>
      change (fields.foldlM (pairStep d) ((field.1, a) :: pairs)).map List.reverse = _
      rw [ih]
      simp only [Option.map_some, Option.bind_some, Option.map_map]
      congr 1
      funext more
      simp

theorem pairField_agrees {d : Decoder α} (agrees : d.Agrees) {pairs : List (String × α)}
    {key : String} (reads : Reads bound depth s value rest) :
    (pairField (d.read bound depth) pairs key >>= fun reader => reader s).toOption =
      (pairStep d pairs (key, value)).map fun pairs => (pairs, rest) := by
  change (d.read bound depth s >>= fun read => pure ((key, read.1) :: pairs, read.2)).toOption = _
  rw [toOption_bind, agrees.same reads, pairStep]
  cases (d.ofJson value).toOption <;> rfl

theorem Agrees.fields {d : Decoder α} (agrees : d.Agrees) : (fields d).Agrees := by
  refine ⟨fun {bound depth s value rest} reads => ?_⟩
  rcases reads.container_or with
    ⟨inner, items, after, rfl, rfl, front, _⟩ |
      ⟨inner, pairs, after, rfl, rfl, front, short, distinct, read⟩ | ⟨_, other, _, front⟩
  · simp only [Decoder.fields, front]
    exact toOption_refuseNext _ _
  · obtain ⟨fields, rfl, same⟩ := foldFields_agrees (pairField (d.read bound inner)) (pairStep d)
      (pairField_agrees agrees) read distinct short
    have turned := foldlM_pairStep d fields []
    simp only [Decoder.fields, front]
    change ((foldFields (pairField (d.read bound inner)) bound true [] after >>=
      fun read => pure (read.1.reverse, read.2)).map fun read =>
        (settleFields read.1, read.2)).toOption = _
    rw [toOption_map, toOption_bind, same]
    rw [List.append_nil, List.reverse_reverse]
    change _ = (fields.mapM (readPair d) >>= fun pairs =>
      pure (settleFields pairs)).toOption.map fun pairs => (pairs, rest)
    rw [toOption_bind]
    simp only [List.reverse_nil, List.nil_append, Option.map_id'] at turned
    rw [← turned]
    cases fields.foldlM (pairStep d) [] <;> rfl
  · have refused : ((Decoder.fields d).ofJson value).toOption = none := by
      cases value with
      | object fields => exact absurd rfl (other fields)
      | _ => rfl
    rw [refused]
    simp only [Decoder.fields]
    split
    · exact absurd (by assumption) (front _)
    · exact absurd (by assumption) (front _)
    · exact toOption_refuseNext _ _

end Decoder

namespace Shape

variable {shape : Shape α}

def partialStep (shape : Shape α) (state : Partial α) (field : String × Json) :
    Option (Partial α) :=
  match shape.field field.1 with
  | none => some state
  | some d =>
    if field.1 ∈ state.seen then none
    else (d.ofJson field.2).toOption.map fun change =>
      ⟨change state.record, field.1 :: state.seen⟩

theorem readField_agrees (agrees : ∀ key d, shape.field key = some d → d.Agrees)
    {state : Partial α} {key : String} (reads : Reads bound depth s value rest) :
    (shape.readField bound depth state key >>= fun reader => reader s).toOption =
      (shape.partialStep state (key, value)).map fun state => (state, rest) := by
  unfold Shape.readField partialStep
  cases known : shape.field key with
  | none =>
    change (skipValue bound s >>= fun rest => pure (state, rest)).toOption = _
    rw [Json.skipValue_of_readContent reads.read reads.short]
    rfl
  | some d =>
    dsimp only
    by_cases again : key ∈ state.seen
    · rw [if_pos again, if_pos again]
      rfl
    · rw [if_neg again, if_neg again]
      -- The binds written out, so that each reader can be replaced by what it gives.
      change (d.read bound depth s >>= fun read =>
        pure ((⟨read.1 state.record, key :: state.seen⟩ : Partial α), read.2)).toOption = _
      rw [toOption_bind, (agrees key d known).same reads]
      cases (d.ofJson value).toOption <;> rfl

/-- Where no key comes again, the keys met so far do not matter. -/
theorem foldlM_partialStep {fields : List (String × Json)} {state : Partial α}
    (nodup : (fields.map Prod.fst).Nodup) (fresh : ∀ key ∈ fields.map Prod.fst, key ∉ state.seen) :
    (fields.foldlM shape.partialStep state).map Partial.record =
      (fields.foldlM shape.setJson state.record).toOption := by
  induction fields generalizing state with
  | nil => rfl
  | cons field fields ih =>
    obtain ⟨alone, nodup⟩ := List.nodup_cons.mp nodup
    obtain ⟨here, later⟩ := List.forall_mem_cons.mp fresh
    rw [List.foldlM_cons, toOption_foldlM_cons, partialStep, setJson]
    cases shape.field field.1 with
    | none => exact ih nodup later
    | some d =>
      dsimp only
      rw [if_neg here, toOption_bind]
      cases (d.ofJson field.2).toOption with
      | none => rfl
      | some change =>
        refine ih nodup fun key mem => ?_
        rw [List.mem_cons, not_or]
        refine ⟨?_, later key mem⟩
        rintro rfl
        exact alone mem

theorem closeList_end {after : List Symbol} (h : skipBlanks s = .char ']' :: after) :
    closeList s = .ok after := by
  unfold closeList
  rw [h]
  rfl

theorem closeList_more {first : Bool} {next : List Symbol}
    (h : nextItem first s = .ok (some next)) : (closeList s).toOption = none := by
  unfold closeList
  split
  · rfl
  · rename_i close
    cases first with
    | true =>
      obtain ⟨rfl, _, opens⟩ := Json.nextItem_begins h
      exact absurd close (opens _)
    | false =>
      obtain ⟨after, front, _⟩ := Json.nextItem_goes h
      rw [front] at close
      exact absurd (List.cons.inj close).1 (by decide)
  · split <;> rfl
  · rfl

theorem readInOrder_agrees (agrees : ∀ key d, shape.field key = some d → d.Agrees) {fuel : ℕ}
    {first : Bool} {items : List Json} {keys : List String} {record : α}
    (h : readItems (readContent bound depth) fuel first s = .ok (items, rest))
    (distinct : ∀ item ∈ items, item.Distinct) (short : s.length ≤ bound) :
    (shape.readInOrder bound depth keys first record s).toOption =
      ((keys.zip items).foldlM shape.setJson record).toOption.bind fun record =>
        if items.length ≤ keys.length then some (record, rest) else none := by
  induction fuel generalizing first s items keys record with
  | zero => cases h
  | succ fuel ih =>
    rcases Json.readItems_ok h with
      ⟨goes, rfl, rfl⟩ | ⟨next, item, middle, more, goes, read, others, rfl⟩
    · obtain ⟨after, front⟩ := Json.nextItem_none goes
      have closed := closeList_end front
      cases keys with
      | nil =>
        rw [readInOrder, closed, front]
        rfl
      | cons key keys =>
        rw [readInOrder, goes, front]
        change (closeList s >>= fun rest => pure (record, rest)).toOption = _
        rw [closed]
        rfl
    · obtain ⟨here, later⟩ := List.forall_mem_cons.mp distinct
      have within := (Json.nextItem_length goes).trans short
      have passed := Json.readContent_length read
      have reads : Reads bound depth next item middle := ⟨read, here, within⟩
      cases keys with
      | nil =>
        -- No key is left for the item, so the list would have to close here.
        change (closeList s >>= fun rest => pure (record, rest)).toOption = _
        rw [toOption_bind, closeList_more goes]
        rfl
      | cons key keys =>
        have remaining (record : α) :
            (shape.readInOrder bound depth keys false record middle).toOption =
              ((keys.zip more).foldlM shape.setJson record).toOption.bind fun record =>
                if more.length ≤ keys.length then some (record, rest) else none :=
          ih others later (by omega)
        rw [readInOrder, goes, List.zip_cons_cons, toOption_foldlM_cons, setJson]
        cases known : shape.field key with
        | none =>
          change (skipValue bound next >>= fun rest =>
            shape.readInOrder bound depth keys false record rest).toOption = _
          rw [Json.skipValue_of_readContent read within]
          simp only [List.length_cons, Nat.add_le_add_iff_right]
          exact remaining record
        | some d =>
          change (d.read bound depth next >>= fun read =>
            shape.readInOrder bound depth keys false (read.1 record) read.2).toOption = _
          rw [toOption_bind, (agrees key d known).same reads]
          dsimp only
          rw [toOption_bind]
          cases (d.ofJson item).toOption with
          | none => rfl
          | some change =>
            simp only [List.length_cons, Nat.add_le_add_iff_right]
            exact remaining (change record)

theorem agrees (agrees : ∀ key d, shape.field key = some d → d.Agrees) :
    shape.decoder.Agrees := by
  refine ⟨fun {bound depth s value rest} reads => ?_⟩
  change (shape.read bound depth s).toOption = (shape.ofJson value).toOption.map _
  rcases reads.container_or with
    ⟨inner, items, after, rfl, rfl, front, short, distinct, read⟩ |
      ⟨inner, pairs, after, rfl, rfl, front, short, distinct, read⟩ | ⟨list, object, opens, opens'⟩
  · simp only [Shape.read, front]
    change _ = ((shape.keys.zip items).foldlM shape.setJson shape.blank >>= fun record =>
      if items.length ≤ shape.keys.length then pure record
      else .error (.surplusItems items.length)).toOption.map fun a => (a, rest)
    rw [readInOrder_agrees agrees read distinct short, toOption_bind]
    cases ((shape.keys.zip items).foldlM shape.setJson shape.blank).toOption with
    | none => rfl
    | some record =>
      simp only [Option.bind_some]
      split <;> rfl
  · have keys := reads.distinct.keys
    obtain ⟨fields, rfl, same⟩ := Decoder.foldFields_agrees (shape.readField bound inner)
      shape.partialStep (readField_agrees agrees) read distinct short
    rw [List.append_nil, List.reverse_reverse] at keys ⊢
    have settled : (fields.foldlM shape.partialStep ⟨shape.blank, []⟩).map Partial.record =
        (fields.foldlM shape.setJson shape.blank).toOption := foldlM_partialStep keys (by simp)
    simp only [Shape.read, front]
    change (foldFields (shape.readField bound inner) bound true ⟨shape.blank, []⟩ after >>=
      fun read => pure (read.1.record, read.2)).toOption =
        (fields.foldlM shape.setJson shape.blank).toOption.map _
    rw [toOption_bind, same, ← settled]
    cases fields.foldlM shape.partialStep ⟨shape.blank, []⟩ <;> rfl
  · have refused : (shape.ofJson value).toOption = none := by
      cases value with
      | array items => exact absurd rfl (list items)
      | object fields => exact absurd rfl (object fields)
      | _ => rfl
    rw [refused]
    simp only [Shape.read]
    split
    · exact absurd (by assumption) (opens _)
    · exact absurd (by assumption) (opens' _)
    · exact absurd (by assumption) (opens _)
    · exact absurd (by assumption) (opens' _)
    · exact toOption_refuseNext _ _

end Shape

end OpenApiClient
