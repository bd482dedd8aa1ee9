import OpenApiClient.Proofs.ReferenceTypes
import OpenApiClient.Proofs.TypeGrammar
import Mathlib.Data.Nat.Notation
import Mathlib.Tactic.Common

/-! What the text of a schema's type is read as.
`Assigned` says which type a schema stands for. Its text is put together from the texts of its parts,
with parentheses inside brackets wherever a bar occurs, be it in a literal. Literals that are no
strings are compact texts, in which there are no control characters. -/
namespace OpenApiClient

def Visible (text : List Char) : Prop := ∀ c ∈ text, 0x20 ≤ c.toNat

instance (text : List Char) : Decidable (Visible text) :=
  List.decidableBAll _ text

@[simp] theorem visible_nil : Visible [] := by
  simp [Visible]

@[simp] theorem visible_cons {c : Char} {text : List Char} :
    Visible (c :: text) ↔ 0x20 ≤ c.toNat ∧ Visible text :=
  List.forall_mem_cons

@[simp] theorem visible_append {text more : List Char} :
    Visible (text ++ more) ↔ Visible text ∧ Visible more :=
  List.forall_mem_append

theorem Visible.subset {text more : List Char} (h : Visible more) (inside : text ⊆ more) :
    Visible text :=
  fun c mem => h c (inside mem)

theorem visible_nat (n : ℕ) : Visible (toString n).toList := by
  intro c mem
  rw [Nat.toString_eq_repr, Nat.toList_repr] at mem
  have digit := Nat.isDigit_of_mem_toDigits (by decide) (by decide) mem
  simp only [Char.isDigit, Bool.and_eq_true, decide_eq_true_eq, UInt32.le_iff_toNat_le] at digit
  exact Nat.le_trans (by decide) digit.1

namespace Decimal

theorem visible_sign (bits : UInt64) : Visible (signText bits).toList := by
  unfold signText
  split <;> decide

theorem visible_zeros (n : ℕ) : Visible (zeros n).toList := by
  intro c mem
  rw [zeros, String.toList_ofList] at mem
  rw [List.eq_of_mem_replicate mem]
  decide

theorem visible_pointed {digits : String} (h : Visible digits.toList) (point : ℕ) :
    Visible (pointed digits point).toList := by
  simp only [pointed, String.toList_append, String.toList_ofList, visible_append]
  exact ⟨⟨h.subset (List.take_subset _ _), by decide⟩, h.subset (List.drop_subset _ _)⟩

theorem visible_positional (d : Scientific) : Visible (positional d).toList := by
  have digits := visible_nat d.digits
  have point : Visible ".0".toList := by decide
  have front : Visible "0.".toList := by decide
  unfold positional
  simp only
  split
  · simp only [String.toList_append, visible_append]
    exact ⟨⟨digits, visible_zeros _⟩, point⟩
  · split
    · exact visible_pointed digits _
    · simp only [String.toList_append, visible_append]
      exact ⟨⟨front, visible_zeros _⟩, digits⟩

theorem visible_exponential (d : Scientific) : Visible (exponential d).toList := by
  have digits := visible_nat d.digits
  have mark : Visible "e".toList := by decide
  unfold exponential
  simp only [String.toList_append, visible_append]
  refine ⟨⟨⟨?_, mark⟩, ?_⟩, visible_nat _⟩
  · split
    · exact digits
    · exact visible_pointed digits 1
  · split <;> decide

theorem visible_dataText (bits : UInt64) : Visible (dataText bits).toList := by
  have zero : Visible "0.0".toList := by decide
  unfold dataText
  split
  · decide
  · rw [String.toList_append, visible_append]
    exact ⟨visible_sign bits, zero⟩
  · simp only [String.toList_append, visible_append]
    refine ⟨visible_sign bits, ?_⟩
    split
    · exact visible_positional _
    · exact visible_exponential _

end Decimal

theorem visible_number (n : Number) : Visible n.text.toList := by
  cases n with
  | natural n => exact visible_nat n
  | negative n =>
    have minus : Visible "-".toList := by decide
    rw [Number.text, String.toList_append, visible_append]
    exact ⟨minus, visible_nat n⟩
  | double bits => exact Decimal.visible_dataText bits

namespace Json

theorem visible_escapeChar (c : Char) : Visible (escapeChar c) := by
  have hex : ∀ n < 16, 0x20 ≤ (hexDigit n).toNat := by decide
  have named : ∀ d ∈ ['"', '\\', 'n', 'r', 't', 'b', 'f'], Visible ['\\', d] := by simp
  by_cases low : c.toNat < 0x20
  · have first := hex (c.toNat / 16) (by omega)
    have second := hex (c.toNat % 16) (by omega)
    unfold escapeChar
    split_ifs <;> simp [named, first, second]
  · unfold escapeChar
    split_ifs <;> simp [named]
    omega

theorem visible_quoted (text : String) : Visible (quoted text) := by
  have inside : Visible (text.toList.flatMap escapeChar) := by
    intro c mem
    obtain ⟨d, _, mem⟩ := List.mem_flatMap.mp mem
    exact visible_escapeChar d c mem
  simp [quoted, inside]

theorem visible_scalar (value : Json) : Visible value.scalarText := by
  cases value with
  | null => decide
  | bool value => cases value <;> decide
  | number n => exact visible_number n
  | string text => exact visible_quoted text
  | array items => exact visible_nil
  | object fields => exact visible_nil

mutual
theorem visible_compactText : (value : Json) → Visible value.compactText
  | null => visible_scalar null
  | bool value => visible_scalar (bool value)
  | number n => visible_scalar (number n)
  | string text => visible_scalar (string text)
  | array items => by simp [compactText, visible_compactItems items]
  | object fields => by simp [compactText, visible_compactFields fields]
theorem visible_compactItems : (items : List Json) → Visible (compactItems items)
  | [] => visible_nil
  | [item] => visible_compactText item
  | item :: next :: rest => by
    simp [compactItems, visible_compactText item, visible_compactItems (next :: rest)]
theorem visible_compactFields : (fields : List (String × Json)) → Visible (compactFields fields)
  | [] => visible_nil
  | [(key, value)] => by simp [compactFields, visible_quoted key, visible_compactText value]
  | (key, value) :: next :: rest => by
    simp [compactFields, visible_quoted key, visible_compactText value,
      visible_compactFields (next :: rest)]
end

end Json

open Script (TypeToken TypeTree Grammar Stops readLine ReadsAs)

def Script.TypeTree.literals (first : String) (more : List String) : TypeTree :=
  more.foldl (fun front text => .union front (.literal text)) (.literal first)

inductive SchemaNode.Assigned : SchemaNode → TypeTree → Prop where
  | reference (path description) :
      Assigned (.reference path description) (.named (referenceName path))
  | literals {schema : Schema} {first more} : schema.primaryType = some .string →
      schema.enumValues = first :: more →
      Assigned (.inline schema) (.literals first.literalText (more.map Json.literalText))
  | string {schema : Schema} : schema.primaryType = some .string → schema.enumValues = [] →
      Assigned (.inline schema) (.named "string")
  | number {schema : Schema} : schema.primaryType = some .number →
      Assigned (.inline schema) (.named "number")
  | integer {schema : Schema} : schema.primaryType = some .integer →
      Assigned (.inline schema) (.named "number")
  | boolean {schema : Schema} : schema.primaryType = some .boolean →
      Assigned (.inline schema) (.named "boolean")
  | record {schema : Schema} : schema.primaryType = some .object → schema.isOpen = true →
      Assigned (.inline schema) (.applied "Record" (.listed (.named "string") (.named "any")))
  | object {schema : Schema} : schema.primaryType = some .object → schema.isOpen = false →
      Assigned (.inline schema) (.named "object")
  | array {schema : Schema} {node item} : schema.primaryType = some .array →
      schema.items = some node → Assigned node item → Assigned (.inline schema) (.array item)
  | itemless {schema : Schema} : schema.primaryType = some .array → schema.items = none →
      Assigned (.inline schema) (.array (.named "any"))
  | null {schema : Schema} : schema.primaryType = some .null →
      Assigned (.inline schema) (.named "any")
  | other {schema : Schema} {name} : schema.primaryType = some (.other name) →
      Assigned (.inline schema) (.named "any")
  | untyped {schema : Schema} : schema.primaryType = none →
      Assigned (.inline schema) (.named "any")

inductive SchemaNode.Gives : SchemaNode → Schema → Prop where
  | here (schema) : Gives (.inline schema) schema
  | items {schema : Schema} {node inner} : schema.primaryType = some .array →
      schema.items = some node → Gives node inner → Gives (.inline schema) inner

/-- References that are names, and string values without carriage returns. -/
structure SchemaNode.Legible (alphabet : Alphabet) (node : SchemaNode) : Prop where
  names : ∀ name ∈ node.referenceNames, alphabet.IsName name
  lines : ∀ schema, node.Gives schema → schema.primaryType = some .string →
    ∀ text, .string text ∈ schema.enumValues → '\r' ∉ text.toList

theorem exists_assigned (node : SchemaNode) : ∃ type, node.Assigned type := by
  induction node using SchemaNode.items_induction with
  | reference path description => exact ⟨_, .reference path description⟩
  | items schema node ht hi ih =>
    obtain ⟨item, assigned⟩ := ih
    exact ⟨_, .array ht hi assigned⟩
  | array schema ht hi => exact ⟨_, .itemless ht hi⟩
  | scalar schema ht =>
    cases declared : schema.primaryType with
    | none => exact ⟨_, .untyped declared⟩
    | some type =>
      cases type with
      | string =>
        cases values : schema.enumValues with
        | nil => exact ⟨_, .string declared values⟩
        | cons first more => exact ⟨_, .literals declared values⟩
      | number => exact ⟨_, .number declared⟩
      | integer => exact ⟨_, .integer declared⟩
      | boolean => exact ⟨_, .boolean declared⟩
      | array => exact absurd declared ht
      | object =>
        cases extra : schema.isOpen with
        | true => exact ⟨_, .record declared extra⟩
        | false => exact ⟨_, .object declared extra⟩
      | null => exact ⟨_, .null declared⟩
      | other name => exact ⟨_, .other declared⟩

/-- A text that is a type wherever a word ends behind it; without a bar, brackets may follow. -/
def Spells (alphabet : Alphabet) (text : String) (type : TypeTree) : Prop :=
  ∃ tokens,
    (∀ rest more behind, Stops alphabet rest → readLine alphabet rest = some (more, behind) →
      readLine alphabet (text.toList ++ rest) = some (tokens ++ more, behind)) ∧
    Grammar .type tokens type ∧ ('|' ∉ text.toList → Grammar .member tokens type)

variable {alphabet : Alphabet}

theorem Spells.reads {text : String} {type : TypeTree} (h : Spells alphabet text type) :
    ReadsAs alphabet text type := by
  obtain ⟨tokens, read, grammar, _⟩ := h
  have feed : Stops alphabet ['\n'] := Script.stops_ascii (by decide) (by decide) []
  have whole := read ['\n'] [] [] feed (Script.readTo_mark [])
  refine ⟨tokens, ?_, grammar⟩
  rw [Script.typeTokens, whole, List.append_nil]

theorem spells_name {name : String} (h : alphabet.IsName name) :
    Spells alphabet name (.named name) := by
  have member : Grammar .member [.word name] (.named name) := .operand (.named name)
  refine ⟨[.word name], ?_, .member member, fun _ => member⟩
  intro rest more behind stops read
  exact Script.readLine_word h stops read

def fixedNames : List String := ["Record", "any", "string", "number", "boolean", "object"]

theorem isName_fixed {name : String} (h : name ∈ fixedNames) : alphabet.IsName name := by
  have plain : ∀ name ∈ fixedNames,
      name.toList.all (·.toNat < 0x80) = true ∧ Script.isIdentifier name = true := by decide
  exact (Alphabet.isName_ascii (plain name h).1).mpr (plain name h).2

theorem spells_fixed (name : String) (h : name ∈ fixedNames) : Spells alphabet name (.named name) :=
  spells_name (isName_fixed h)

theorem spells_record : Spells alphabet "Record<string, any>"
    (.applied "Record" (.listed (.named "string") (.named "any"))) := by
  have entry : ∀ word, Grammar .type [.word word] (.named word) := fun word =>
    .member (.operand (.named word))
  have member : Grammar .member (.word "Record" :: .mark '<' ::
      [.word "string", .mark ',', .word "any"] ++ [.mark '>'])
      (.applied "Record" (.listed (.named "string") (.named "any"))) :=
    .operand (.applied "Record" (.arguments (.argument (entry "string")) (entry "any")))
  refine ⟨_, ?_, .member member, fun _ => member⟩
  intro rest more behind _ read
  have close : Stops alphabet ('>' :: rest) := Script.stops_ascii (by decide) (by decide) _
  have comma : Stops alphabet (',' :: ' ' :: ("any".toList ++ '>' :: rest)) :=
    Script.stops_ascii (by decide) (by decide) _
  have opens : Stops alphabet
      ('<' :: ("string".toList ++ ',' :: ' ' :: ("any".toList ++ '>' :: rest))) :=
    Script.stops_ascii (by decide) (by decide) _
  have last : readLine alphabet ("any".toList ++ '>' :: rest) =
      some (.word "any" :: .mark '>' :: more, behind) :=
    Script.readLine_word (isName_fixed (by decide)) close (Script.readLine_mark (by decide) read)
  have first : readLine alphabet ("string".toList ++ ',' :: ' ' :: ("any".toList ++ '>' :: rest)) =
      some (.word "string" :: .mark ',' :: .word "any" :: .mark '>' :: more, behind) :=
    Script.readLine_word (isName_fixed (by decide)) comma
      (Script.readLine_mark (by decide) (Script.readLine_blank last))
  have record : alphabet.IsName "Record" := isName_fixed (by decide)
  exact Script.readLine_word record opens (Script.readLine_mark (by decide) first)

def literalsText (first : String) (more : List String) : String :=
  " | ".intercalate ((first :: more).map Script.singleQuoted)

def literalTokens (more : List String) : List TypeToken :=
  more.flatMap fun text => [.mark '|', .literal text]

theorem readLine_literals {first : String} {more : List String}
    (lines : ∀ text ∈ first :: more, '\r' ∉ text.toList) {rest behind : List Char}
    {after : List TypeToken} (read : readLine alphabet rest = some (after, behind)) :
    readLine alphabet ((literalsText first more).toList ++ rest) =
      some (.literal first :: literalTokens more ++ after, behind) := by
  induction more generalizing first with
  | nil =>
    obtain ⟨line, _⟩ := List.forall_mem_cons.mp lines
    exact Script.readLine_literal line read
  | cons next more ih =>
    obtain ⟨line, lines⟩ := List.forall_mem_cons.mp lines
    have text : (literalsText first (next :: more)).toList ++ rest =
        (Script.singleQuoted first).toList ++
          (' ' :: '|' :: ' ' :: ((literalsText next more).toList ++ rest)) := by
      simp [literalsText, String.intercalate_cons_cons]
    rw [text]
    exact Script.readLine_literal line (Script.readLine_blank
      (Script.readLine_mark (by decide) (Script.readLine_blank (ih lines))))

theorem grammar_literals {tokens : List TypeToken} {front : TypeTree}
    (h : Grammar .type tokens front) (more : List String) :
    Grammar .type (tokens ++ literalTokens more)
      (more.foldl (fun front text => .union front (.literal text)) front) := by
  induction more generalizing tokens front with
  | nil => simpa [literalTokens] using h
  | cons text more ih =>
    have next := ih (.union h (.operand (.literal text)))
    simpa [literalTokens] using next

theorem spells_literals {first : String} {more : List String}
    (lines : ∀ text ∈ first :: more, '\r' ∉ text.toList) :
    Spells alphabet (literalsText first more) (.literals first more) := by
  have literal : Grammar .member [.literal first] (.literal first) := .operand (.literal first)
  refine ⟨.literal first :: literalTokens more, ?_, grammar_literals (.member literal) more, ?_⟩
  · intro rest after behind _ read
    exact readLine_literals lines read
  · intro bar
    cases more with
    | nil => exact literal
    | cons next more => simp [literalsText, String.intercalate_cons_cons] at bar

/-- Brackets apply to the whole type, with parentheses or without. -/
theorem spells_array {item : TypeExpr} {type : TypeTree} (h : Spells alphabet item.text type) :
    Spells alphabet (TypeExpr.array item).text (.array type) := by
  obtain ⟨tokens, read, grammar, tight⟩ := h
  rw [TypeExpr.text]
  simp only [List.contains_iff_mem]
  by_cases bar : '|' ∈ item.text.toList
  · have member : Grammar .member (.mark '(' :: tokens ++ [.mark ')'] ++ [.mark '[', .mark ']'])
        (.array type) := .array (.operand (.group grammar))
    rw [if_pos bar]
    refine ⟨_, ?_, .member member, fun _ => member⟩
    intro rest more behind _ after
    have close : Stops alphabet (')' :: '[' :: ']' :: rest) :=
      Script.stops_ascii (by decide) (by decide) _
    have inside := read _ _ _ close (Script.readLine_mark (by decide)
      (Script.readLine_mark (by decide) (Script.readLine_mark (by decide) after)))
    have whole := Script.readLine_mark (c := '(') (by decide) inside
    simpa using whole
  · have member : Grammar .member (tokens ++ [.mark '[', .mark ']']) (.array type) :=
      .array (tight bar)
    rw [if_neg bar]
    refine ⟨_, ?_, .member member, fun _ => member⟩
    intro rest more behind _ after
    have brackets : Stops alphabet ('[' :: ']' :: rest) :=
      Script.stops_ascii (by decide) (by decide) _
    have whole := read _ _ _ brackets
      (Script.readLine_mark (by decide) (Script.readLine_mark (by decide) after))
    simpa using whole

theorem literalText_line {value : Json} (h : ∀ text, value = .string text → '\r' ∉ text.toList) :
    '\r' ∉ value.literalText.toList := by
  have printed : '\r' ∉ value.compact.toList := by
    intro mem
    rw [Json.compact, String.toList_ofList] at mem
    exact absurd (Json.visible_compactText value _ mem) (by decide)
  cases value with
  | string text => exact h text rfl
  | _ => exact printed

theorem spells_assigned {node : SchemaNode} {type : TypeTree} (h : node.Assigned type)
    (legible : node.Legible alphabet) : Spells alphabet node.typeExpr.text type := by
  obtain ⟨names, lines⟩ := legible
  induction h with
  | reference path description =>
    have name : alphabet.IsName (referenceName path) := names _ (List.mem_singleton.mpr rfl)
    exact spells_name name
  | @literals schema first more declared values =>
    have text : (SchemaNode.inline schema).typeExpr.text =
        literalsText first.literalText (more.map Json.literalText) := by
      simp [typeExpr_scalar, Schema.scalarType, declared, values, TypeExpr.text, literalsText]
    rw [text]
    apply spells_literals
    intro text mem
    rw [← List.map_cons, ← values] at mem
    obtain ⟨value, entered, rfl⟩ := List.mem_map.mp mem
    apply literalText_line
    rintro text rfl
    exact lines schema (.here schema) declared text entered
  | array declared items _ ih =>
    rw [typeExpr_items declared items]
    apply spells_array
    apply ih
    · rwa [referenceNames_items declared items] at names
    · intro inner gives
      exact lines inner (.items declared items gives)
  | itemless declared items =>
    rw [typeExpr_array declared items]
    have any : Spells alphabet TypeExpr.any.text (.named "any") := spells_fixed "any" (by decide)
    exact spells_array any
  | record declared extra =>
    rw [typeExpr_scalar (by simp [declared]), Schema.scalarType, declared]
    simp only [extra, if_true]
    exact spells_record
  | object declared extra =>
    rw [typeExpr_scalar (by simp [declared]), Schema.scalarType, declared]
    simp only [extra]
    exact spells_fixed "object" (by decide)
  | string declared values =>
    rw [typeExpr_scalar (by simp [declared]), Schema.scalarType, declared, values]
    exact spells_fixed "string" (by decide)
  | number declared | integer declared =>
    rw [typeExpr_scalar (by simp [declared]), Schema.scalarType, declared]
    exact spells_fixed "number" (by decide)
  | boolean declared =>
    rw [typeExpr_scalar (by simp [declared]), Schema.scalarType, declared]
    exact spells_fixed "boolean" (by decide)
  | null declared | other declared | untyped declared =>
    rw [typeExpr_scalar (by simp [declared]), Schema.scalarType, declared]
    exact spells_fixed "any" (by decide)

/-- The text of a schema's type is read as the type that the schema stands for, and as no other. -/
theorem type_text_reads {alphabet : Alphabet} {node : SchemaNode} (legible : node.Legible alphabet) :
    (∃! type, node.Assigned type) ∧
      ∀ type, ReadsAs alphabet node.typeExpr.text type ↔ node.Assigned type := by
  have reads : ∀ {type}, node.Assigned type → ReadsAs alphabet node.typeExpr.text type :=
    fun assigned => (spells_assigned assigned legible).reads
  obtain ⟨type, assigned⟩ := exists_assigned node
  refine ⟨⟨type, assigned, ?_⟩, ?_⟩
  · intro other assigned'
    exact (reads assigned').unique (reads assigned)
  · intro other
    constructor
    · intro read
      rw [read.unique (reads assigned)]
      exact assigned
    · exact reads

def arrayOf (node : SchemaNode) : SchemaNode :=
  .inline { type := some (.single .array), items := some node }

theorem SchemaNode.Legible.arrayOf {node : SchemaNode} (h : node.Legible alphabet) :
    (arrayOf node).Legible alphabet := by
  refine ⟨h.names, ?_⟩
  intro schema gives declared
  cases gives with
  | here => cases declared
  | items _ entered gives =>
    cases entered
    exact h.lines schema gives declared

def oddValues : Schema where
  type := some (.single .string)
  enumValues := [.string "a | b", .string "it's", .string "x]\n[", .string "\\'",
    .number (.natural 1)]

theorem odd_values_read :
    (arrayOf (arrayOf (.inline oddValues))).typeExpr.text =
        "(('a | b' | 'it\\'s' | 'x]\\n[' | '\\\\\\'' | '1')[])[]" ∧
      ReadsAs .ascii (arrayOf (arrayOf (.inline oddValues))).typeExpr.text
        (.array (.array (.literals "a | b" ["it's", "x]\n[", "\\'", "1"]))) ∧
      ReadsAs .ascii (arrayOf (.reference "#/components/schemas/User" none)).typeExpr.text
        (.array (.named "User")) := by
  have values : (SchemaNode.inline oddValues).Legible .ascii := by
    refine ⟨by simp [SchemaNode.referenceNames, oddValues], ?_⟩
    rintro schema (_ | ⟨declared, _, _⟩) _
    · simp [oddValues]
    · cases declared
  have user : (SchemaNode.reference "#/components/schemas/User" none).Legible .ascii := by
    refine ⟨?_, by rintro schema ⟨⟩⟩
    simp only [SchemaNode.referenceNames, List.mem_singleton, forall_eq]
    exact (Alphabet.isName_ascii (by decide +kernel)).mpr (by decide +kernel)
  have entered : oddValues.enumValues = .string "a | b" :: oddValues.enumValues.tail := rfl
  have union : SchemaNode.Assigned (.inline oddValues)
      (.literals "a | b" ["it's", "x]\n[", "\\'", "1"]) := SchemaNode.Assigned.literals rfl entered
  refine ⟨by decide +kernel, ?_, ?_⟩
  · exact ((type_text_reads values.arrayOf.arrayOf).2 _).mpr (.array rfl rfl (.array rfl rfl union))
  · exact ((type_text_reads user.arrayOf).2 _).mpr (.array rfl rfl (.reference _ _))

/-- Without parentheses, brackets apply to the last member alone. -/
example : ReadsAs .ascii "'a' | 'b'[]" (.union (.literal "a") (.array (.literal "b"))) :=
  ⟨[.literal "a", .mark '|', .literal "b", .mark '[', .mark ']'], by decide +kernel,
    .union (.member (.operand (.literal "a"))) (.array (.operand (.literal "b")))⟩

end OpenApiClient
