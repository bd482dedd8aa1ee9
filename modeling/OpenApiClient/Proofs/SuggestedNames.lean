import OpenApiClient.Proofs.DocumentRules
import OpenApiClient.Proofs.NameWords

/-! The names that validation suggests.
A schema name has letters and digits of ASCII only, a letter first. A name in camel case holds the
letters and digits of the name it is made from, of whatever alphabet, in the case that goes with their
place in a word; so it is a schema name only where the words are fit for that. A schema that follows
the suggestion for it is refused again, for the same reason, unless the suggestion is a schema name. -/
namespace OpenApiClient

def Plain (c : Char) : Prop := Letter c ∨ Digit c

/-- The characters beyond ASCII whose uppercase is letters of ASCII. -/
def foreignCapitals : List Char := ['ß', 'ı', 'ſ', 'ﬀ', 'ﬁ', 'ﬂ', 'ﬃ', 'ﬄ', 'ﬅ', 'ﬆ']

/-- The character beyond ASCII whose lowercase is a letter of ASCII: the sign for kelvin. -/
def foreignSmalls : List Char := ['\u212A']

def PlainCapital (c : Char) : Prop := Letter c ∨ c ∈ foreignCapitals

def PlainSmall (c : Char) : Prop := Letter c ∨ c ∈ foreignSmalls

inductive PlainWord : List Char → Prop where
  | intro {c rest} : PlainCapital c ∨ Digit c → (∀ d ∈ rest, PlainSmall d ∨ Digit d) →
      PlainWord (c :: rest)

/-- A name is words that become letters and digits of ASCII, and begins with a letter. -/
def Suggestible (name : String) : Prop :=
  ∃ c rest words, Text.words name.toList = (c :: rest) :: words ∧ PlainCapital c ∧
    ∀ word ∈ Text.words name.toList, PlainWord word

theorem plain_iff {c : Char} : c.isAlphanum = true ↔ Plain c := by
  rw [Char.isAlphanum, Bool.or_eq_true, letter_iff, digit_iff, Plain]

theorem Plain.ascii {c : Char} (h : Plain c) : 0 < c.toNat ∧ c.toNat < 0x80 := by
  have bounds : ∀ low high : Char, low ≤ c → c ≤ high →
      low.toNat ≤ c.toNat ∧ c.toNat ≤ high.toNat := fun low high above below => ⟨above, below⟩
  rcases h with (⟨above, below⟩ | ⟨above, below⟩) | ⟨above, below⟩
  all_goals
    have := bounds _ _ above below
    simp only [Char.reduceToNat] at this
    omega

namespace Text

variable {c : Char} {word : List Char} {name : String}

/-- Of the characters past ASCII only a few are sent into it, if the tables send no others there. -/
theorem mapped_plain {specials : List (Nat × List Nat)} {runs : List CaseRun} {few : List Char}
    (sequences : ∀ entry ∈ specials, (∀ n ∈ entry.2, (Char.ofNat n).isAlphanum = true) →
      entry.1 ∈ few.map Char.toNat)
    (shifted : ∀ run ∈ runs, (0x7F : Int) < run.first + run.shift ∨
      run.first = run.last ∧ run.first ∈ few.map Char.toNat)
    (past : ¬ c.toNat < 0x80) (plain : ∀ d ∈ mapped specials runs c, Plain d) : c ∈ few := by
  have listed : c.toNat ∈ few.map Char.toNat → c ∈ few := by
    rintro mem
    obtain ⟨d, inside, same⟩ := List.mem_map.mp mem
    rwa [← Char.toNat_inj.mp same]
  unfold mapped at plain
  split at plain
  · rename_i numbers found
    obtain ⟨before, after, rfl, _⟩ := List.lookup_eq_some_iff.mp found
    refine listed (sequences (c.toNat, numbers) (by simp) fun n mem => ?_)
    exact plain_iff.mpr (plain _ (List.mem_map_of_mem mem))
  · split at plain
    · rename_i run found
      have inside := List.find?_some found
      have low := (plain _ (List.mem_singleton_self _)).ascii
      simp only [CaseRun.contains, Bool.and_eq_true, decide_eq_true_eq] at inside
      rcases shifted run (List.mem_of_find?_eq_some found) with above | ⟨single, known⟩
      · have far : 0x7F < (c.toNat + run.shift).toNat := by omega
        have := ofNat_past far
        omega
      · have here : c.toNat = run.first := by omega
        exact listed (here ▸ known)
    · have low := (plain _ (List.mem_singleton_self _)).ascii
      omega

theorem form_plain {form : Char → List Char} {few : List Char}
    (inside : c.toNat < 0x80 → ((∀ d ∈ form c, Plain d) ↔ Plain c))
    (outside : ¬ c.toNat < 0x80 → (∀ d ∈ form c, Plain d) → c ∈ few)
    (beyond : few.all fun d => 0x80 ≤ d.toNat)
    (sent : few.all fun d => (form d).all Char.isAlphanum) :
    (∀ d ∈ form c, Plain d) ↔ (Letter c ∨ c ∈ few) ∨ Digit c := by
  simp only [List.all_eq_true, decide_eq_true_eq] at beyond sent
  by_cases ascii : c.toNat < 0x80
  · have foreign : c ∉ few := fun mem => absurd ascii (Nat.not_lt.mpr (beyond c mem))
    rw [inside ascii, or_iff_left foreign, Plain]
  · constructor
    · exact fun plain => .inl (.inr (outside ascii plain))
    · rintro ((letter | mem) | digit)
      · exact absurd (Plain.ascii (.inl letter)).2 ascii
      · exact fun d form => plain_iff.mp (sent c mem d form)
      · exact absurd (Plain.ascii (.inr digit)).2 ascii

theorem upper_plain : (∀ d ∈ upper c, Plain d) ↔ PlainCapital c ∨ Digit c := by
  refine form_plain (fun ascii => ?_) (fun past plain => ?_) (by decide) (by decide +kernel)
  · rw [upper, if_pos ascii, List.forall_mem_singleton, ← plain_iff, ← plain_iff]
    apply of_ascii _ ascii
    decide +kernel
  · rw [upper, if_neg past] at plain
    exact mapped_plain (by decide +kernel) (by decide +kernel) past plain

theorem lower_plain : (∀ d ∈ lower c, Plain d) ↔ PlainSmall c ∨ Digit c := by
  refine form_plain (fun ascii => ?_) (fun past plain => ?_) (by decide) (by decide +kernel)
  · rw [lower, if_pos ascii, List.forall_mem_singleton, ← plain_iff, ← plain_iff]
    apply of_ascii _ ascii
    decide +kernel
  · rw [lower, if_neg past] at plain
    exact mapped_plain (by decide +kernel) (by decide +kernel) past plain

theorem lowerWord_plain :
    (∀ d ∈ lowerWord word, Plain d) ↔ ∀ c ∈ word, PlainSmall c ∨ Digit c := by
  fun_induction lowerWord word with
  | case1 => simp
  | case2 =>
    -- Neither sigma is in ASCII.
    have final : ¬ Plain 'ς' := by rw [← plain_iff]; decide
    have capital : ¬ (PlainSmall 'Σ' ∨ Digit 'Σ') := by
      rw [← lower_plain]
      intro plain
      exact absurd (plain_iff.mpr (plain 'σ' (by decide +kernel))) (by decide)
    simp [final, capital]
  | case3 c rest _ ih => rw [List.forall_mem_append, List.forall_mem_cons, lower_plain, ih]

theorem capitalize_plain {rest : List Char} :
    (∀ d ∈ capitalize (c :: rest), Plain d) ↔ PlainWord (c :: rest) := by
  rw [capitalize, List.forall_mem_append, upper_plain, lowerWord_plain]
  constructor
  · rintro ⟨first, others⟩
    exact .intro first others
  · rintro ⟨first, others⟩
    exact ⟨first, others⟩

theorem capital_start (capital : PlainCapital c) : ∃ d rest, upper c = d :: rest ∧ Letter d := by
  rcases capital with letter | mem
  · have ascii := (Plain.ascii (.inl letter)).2
    have still : c.isAlpha = true → c.toUpper.isAlpha = true := by
      apply of_ascii _ ascii
      decide +kernel
    have same : upper c = [c.toUpper] := by rw [upper, if_pos ascii]
    exact ⟨c.toUpper, [], same, letter_iff.mp (still (letter_iff.mpr letter))⟩
  · have starts : foreignCapitals.all fun d => (upper d).head?.any Char.isAlpha := by
      decide +kernel
    obtain ⟨d, first, letter⟩ := (Option.any_eq_true _ _).mp (List.all_eq_true.mp starts c mem)
    obtain ⟨rest, same⟩ := List.head?_eq_some_iff.mp first
    exact ⟨d, rest, same, letter_iff.mp letter⟩

theorem digit_start (digit : Digit c) : ∃ d, upper c = [d] ∧ ¬ Letter d := by
  have ascii := (Plain.ascii (.inr digit)).2
  have still : c.isDigit = true → c.toUpper.isAlpha = false := by
    apply of_ascii _ ascii
    decide +kernel
  refine ⟨c.toUpper, by rw [upper, if_pos ascii], ?_⟩
  rw [← letter_iff, still (digit_iff.mpr digit)]
  simp

end Text

section CamelCase

open Text (words capitalize isAlphanumeric)

variable {name : String}

theorem schemaName_ofList {cs : List Char} : SchemaName (.ofList cs) ↔
    (∃ first rest, cs = first :: rest ∧ Letter first) ∧ ∀ c ∈ cs, Plain c := by
  unfold SchemaName
  rw [String.toList_ofList]
  constructor
  · rintro ⟨first, rest, rfl, letter, plain⟩
    exact ⟨⟨first, rest, rfl, letter⟩, List.forall_mem_cons.mpr ⟨.inl letter, plain⟩⟩
  · rintro ⟨⟨first, rest, rfl, letter⟩, plain⟩
    exact ⟨first, rest, rfl, letter, (List.forall_mem_cons.mp plain).2⟩

theorem schemaName_upperCamel : SchemaName (Text.upperCamel name) ↔ Suggestible name := by
  rw [Text.upperCamel, schemaName_ofList, List.forall_mem_flatMap]
  unfold Suggestible
  have held : ∀ word ∈ words name.toList, word ≠ [] := fun word => Text.words_ne_nil
  generalize words name.toList = pieces at held
  have plain : (∀ word ∈ pieces, ∀ d ∈ capitalize word, Plain d) ↔
      ∀ word ∈ pieces, PlainWord word := by
    refine forall₂_congr fun word mem => ?_
    obtain ⟨c, rest, rfl⟩ := List.exists_cons_of_ne_nil (held word mem)
    exact Text.capitalize_plain
  rw [plain]
  constructor
  · rintro ⟨⟨first, rest, same, letter⟩, all⟩
    cases pieces with
    | nil => cases same
    | cons word more =>
      cases all word (.head _) with
      | @intro c tail start _ =>
        refine ⟨c, tail, more, rfl, ?_, all⟩
        rcases start with capital | digit
        · exact capital
        · obtain ⟨d, alone, unletter⟩ := Text.digit_start digit
          rw [List.flatMap_cons, capitalize, alone] at same
          obtain ⟨rfl, -⟩ := List.cons.inj same
          exact absurd letter unletter
  · rintro ⟨c, tail, more, rfl, capital, all⟩
    obtain ⟨d, rest, same, letter⟩ := Text.capital_start capital
    refine ⟨⟨d, rest ++ Text.lowerWord tail ++ more.flatMap capitalize, ?_, letter⟩, all⟩
    rw [List.flatMap_cons, capitalize, same]
    simp

theorem suggestible_ascii
    (ascii : ∀ c ∈ name.toList, isAlphanumeric c = true → c.toNat < 0x80) :
    Suggestible name ↔ ∃ c, name.toList.find? isAlphanumeric = some c ∧ Letter c := by
  have plain : ∀ word ∈ words name.toList, ∀ c ∈ word, Plain c := by
    intro word mem c inside
    have kept : c ∈ (words name.toList).flatten := List.mem_flatten.mpr ⟨word, mem, inside⟩
    rw [Text.words_flatten, List.mem_filter] at kept
    rw [← plain_iff, ← Text.isAlphanumeric_of_ascii (ascii c kept.1 kept.2)]
    exact kept.2
  have all : ∀ word ∈ words name.toList, PlainWord word := by
    intro word mem
    obtain ⟨c, rest, rfl⟩ := List.exists_cons_of_ne_nil (Text.words_ne_nil mem)
    obtain ⟨first, others⟩ := List.forall_mem_cons.mp (plain _ mem)
    refine .intro (first.imp .inl id) fun d inside => (others d inside).imp .inl id
  rw [← List.head?_filter, ← Text.words_flatten]
  unfold Suggestible
  cases cut : words name.toList with
  | nil => simp
  | cons word more =>
    have mem : word ∈ words name.toList := by simp [cut]
    obtain ⟨c, rest, rfl⟩ := List.exists_cons_of_ne_nil (Text.words_ne_nil mem)
    have known : PlainCapital c ↔ Letter c := by
      refine or_iff_left fun foreign => ?_
      have beyond : foreignCapitals.all fun d => 0x80 ≤ d.toNat := by decide
      have past := of_decide_eq_true (List.all_eq_true.mp beyond c foreign)
      exact absurd (plain _ mem c (.head _)).ascii.2 (Nat.not_lt.mpr past)
    rw [cut] at all
    constructor
    · rintro ⟨c', rest', more', same, capital, _⟩
      cases same
      exact ⟨c, rfl, known.mp capital⟩
    · rintro ⟨c', first, letter⟩
      cases first
      exact ⟨c, rest, more, rfl, known.mpr letter, all⟩

end CamelCase

section

variable {rules rest : List Rule} {violation : Violation}

theorem FirstBroken.rule (h : FirstBroken rules violation) :
    ∃ rule ∈ rules, rule.violation = violation ∧ ¬ rule.holds := by
  induction h with
  | here broken => exact ⟨_, .head _, rfl, broken⟩
  | later _ _ ih =>
    obtain ⟨rule, mem, same, broken⟩ := ih
    exact ⟨rule, .tail _ mem, same, broken⟩

theorem firstBroken_append : FirstBroken (rules ++ rest) violation ↔
    FirstBroken rules violation ∨ (∀ rule ∈ rules, rule.holds) ∧ FirstBroken rest violation := by
  constructor
  · intro h
    induction rules with
    | nil => exact .inr ⟨by simp, h⟩
    | cons rule rules ih =>
      cases h with
      | here broken => exact .inl (.here broken)
      | later holds h =>
        rcases ih h with first | ⟨all, second⟩
        · exact .inl (.later holds first)
        · exact .inr ⟨List.forall_mem_cons.mpr ⟨holds, all⟩, second⟩
  · rintro (first | ⟨all, second⟩)
    · exact first.append rest
    · exact second.behind all

end

def rulesAhead (document : Json) : List Rule :=
  let openapi := document.get? "openapi"
  let info := document.get? "info"
  textRules openapi "openapi" ++
    ⟨∃ value, info = some value, .missingField "info"⟩ ::
    (textRules (info.bind (·.get? "title")) "info.title" ++
    (textRules (info.bind (·.get? "version")) "info.version" ++
    ⟨Begins "3." (textOf openapi), .unsupportedVersion (textOf openapi)⟩ ::
    pathsRules (document.get? "paths")))

variable {document renamed : Json} {name other suggestion : String} {rule : Rule}

theorem documentRules_eq : documentRules document =
    rulesAhead document ++ (fieldsOf (schemasOf document)).flatMap schemaRules := by
  simp [documentRules, rulesAhead]

theorem rulesAhead_violation (mem : rule ∈ rulesAhead document) :
    rule.violation ≠ .invalidSchemaName name suggestion := by
  simp only [rulesAhead, textRules, pathsRules, pathRules, operationRules, List.mem_append,
    List.mem_cons, List.mem_flatMap, List.not_mem_nil, or_false] at mem
  rcases mem with (rfl | rfl) | rfl | (rfl | rfl) | (rfl | rfl) | rfl | rfl |
    ⟨field, _, rfl | rfl | ⟨entry, _, rfl⟩⟩
  all_goals rintro ⟨⟩

theorem schemaRules_violation {field : String × Json} (mem : rule ∈ schemaRules field)
    (same : rule.violation = .invalidSchemaName name suggestion) :
    field.1 = name ∧ suggestion = Text.upperCamel name ∧ (rule.holds ↔ SchemaName name) := by
  rcases List.mem_cons.mp mem with rfl | mem
  · cases same
    exact ⟨rfl, rfl, .rfl⟩
  · rcases List.mem_cons.mp mem with rfl | mem
    · cases same
    · obtain ⟨property, _, mem⟩ := List.mem_flatMap.mp mem
      cases List.mem_singleton.mp mem
      cases same

/-- The first schema of a name has another name instead, and nothing else is changed. -/
structure Renamed (document renamed : Json) (name other : String) : Prop where
  ahead : ∀ key ≠ "components", renamed.get? key = document.get? key
  schemas : ∃ before schema after, (∀ field ∈ before, field.1 ≠ name) ∧
    fieldsOf (schemasOf document) = before ++ (name, schema) :: after ∧
    fieldsOf (schemasOf renamed) = before ++ (other, schema) :: after

theorem Renamed.ahead_eq (change : Renamed document renamed name other) :
    rulesAhead renamed = rulesAhead document := by
  unfold rulesAhead
  simp only [change.ahead "openapi" (by decide), change.ahead "info" (by decide),
    change.ahead "paths" (by decide)]

theorem refused_name (refused : validate document = .error (.invalidSchemaName name suggestion)) :
    ¬ SchemaName name ∧ suggestion = Text.upperCamel name := by
  obtain ⟨rule, mem, same, broken⟩ := (((validate_obeys document).exact.2 _).mp refused).rule
  rw [documentRules_eq, List.mem_append, List.mem_flatMap] at mem
  rcases mem with ahead | ⟨field, _, mem⟩
  · exact absurd same (rulesAhead_violation ahead)
  · obtain ⟨_, suggested, holds⟩ := schemaRules_violation mem same
    exact ⟨mt holds.mpr broken, suggested⟩

theorem Renamed.before_hold (change : Renamed document renamed name other)
    (refused : validate document = .error (.invalidSchemaName name suggestion)) :
    ∃ before schema after, fieldsOf (schemasOf renamed) = before ++ (other, schema) :: after ∧
      ∀ rule ∈ rulesAhead renamed ++ before.flatMap schemaRules, rule.holds := by
  obtain ⟨before, schema, after, fresh, there, there'⟩ := change.schemas
  refine ⟨before, schema, after, there', ?_⟩
  have broken := ((validate_obeys document).exact.2 _).mp refused
  rw [documentRules_eq, there, List.flatMap_append, ← List.append_assoc,
    firstBroken_append] at broken
  rw [change.ahead_eq]
  rcases broken with early | ⟨all, _⟩
  · obtain ⟨rule, mem, same, _⟩ := early.rule
    rcases List.mem_append.mp mem with ahead | mem
    · exact absurd same (rulesAhead_violation ahead)
    · obtain ⟨field, inside, mem⟩ := List.mem_flatMap.mp mem
      exact absurd (schemaRules_violation mem same).1 (fresh field inside)
  · exact all

theorem Renamed.refused_iff (change : Renamed document renamed name other)
    (refused : validate document = .error (.invalidSchemaName name suggestion)) :
    (∃ next, validate renamed = .error (.invalidSchemaName other next)) ↔ ¬ SchemaName other := by
  constructor
  · rintro ⟨next, again⟩
    exact (refused_name again).1
  · intro unfit
    obtain ⟨before, schema, after, there, hold⟩ := change.before_hold refused
    refine ⟨Text.upperCamel other, ((validate_obeys renamed).exact.2 _).mpr ?_⟩
    rw [documentRules_eq, there, List.flatMap_append, ← List.append_assoc]
    exact .behind hold (.here unfit)

/-- What becomes of a suggestion: whether it is fit for a schema, which can be seen from the refused
name, and what following it leads to. -/
structure Judged (document : Json) (name suggestion : String) : Prop where
  refused : ¬ SchemaName name
  suggested : suggestion = Text.upperCamel name
  fit : SchemaName suggestion ↔ Suggestible name
  fit_ascii : (∀ c ∈ name.toList, Text.isAlphanumeric c = true → c.toNat < 0x80) →
    (SchemaName suggestion ↔ ∃ c, name.toList.find? Text.isAlphanumeric = some c ∧ Letter c)
  followed : ∀ renamed, Renamed document renamed name suggestion →
    ((∃ next, validate renamed = .error (.invalidSchemaName suggestion next)) ↔ ¬ Suggestible name)

/-- A suggestion is fit exactly if the words of the refused name have a form in ASCII and the first
of them begins with a letter; following another one leads to the same violation. -/
theorem suggestions_judged
    (refused : validate document = .error (.invalidSchemaName name suggestion)) :
    Judged document name suggestion := by
  obtain ⟨unfit, suggested⟩ := refused_name refused
  have fit : SchemaName suggestion ↔ Suggestible name := by
    rw [suggested]
    exact schemaName_upperCamel
  constructor
  · exact unfit
  · exact suggested
  · exact fit
  · intro ascii
    rw [fit, suggestible_ascii ascii]
  · intro renamed change
    rw [change.refused_iff refused, fit]

def namedDocument (name : String) : Json :=
  .object [("openapi", .string "3.0.0"),
    ("info", .object [("title", .string "Users"), ("version", .string "1")]),
    ("components", .object [("schemas", .object [(name, .object [("type", .string "object")])])])]

theorem namedDocument_renamed (name other : String) :
    Renamed (namedDocument name) (namedDocument other) name other := by
  constructor
  · intro key ne
    simp only [namedDocument, Json.get?, List.lookup_cons, beq_eq_false_iff_ne.mpr ne]
  · exact ⟨[], .object [("type", .string "object")], [], by simp, rfl, rfl⟩

theorem separated_name_followed :
    validate (namedDocument "user_info") = .error (.invalidSchemaName "user_info" "UserInfo") ∧
      SchemaName "UserInfo" ∧ ¬ ∃ next,
        validate (namedDocument "UserInfo") = .error (.invalidSchemaName "UserInfo" next) := by
  have refused : validate (namedDocument "user_info") =
      .error (.invalidSchemaName "user_info" "UserInfo") := by decide +kernel
  have judged := suggestions_judged refused
  have ascii : "user_info".toList.all fun c => c.toNat < 0x80 := by decide
  have fit : SchemaName "UserInfo" := by
    refine (judged.fit_ascii fun c mem _ => ?_).mpr ⟨'u', by decide +kernel, .inr (by decide)⟩
    exact of_decide_eq_true (List.all_eq_true.mp ascii c mem)
  refine ⟨refused, fit, fun again => ?_⟩
  exact (judged.followed _ (namedDocument_renamed _ _)).mp again (judged.fit.mp fit)

theorem leading_digit_kept :
    validate (namedDocument "2User") = .error (.invalidSchemaName "2User" "2user") ∧
      ¬ SchemaName "2user" := by
  rw [← isSchemaName_iff]
  decide +kernel

end OpenApiClient
