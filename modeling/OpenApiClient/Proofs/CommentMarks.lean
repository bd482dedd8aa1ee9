import OpenApiClient.Proofs.ClientPieces
import OpenApiClient.Proofs.ReferenceTypes

/-! Where a comment ends.
A comment ends at the first closing mark after its opening, whatever wrote the mark. A mark has two
characters, so a text put together from parts closes a comment in a part, or where two parts meet. -/
namespace OpenApiClient

def Closes (text : List Char) : Prop := ['*', '/'] <:+: text

def readComment : List Char → Option (List Char × List Char)
  | [] => none
  | c :: rest =>
    if c = '*' ∧ rest.head? = some '/' then some ([], rest.tail)
    else (readComment rest).map fun (inside, after) => (c :: inside, after)

@[simp] theorem closes_nil : ¬ Closes [] := by simp [Closes]

@[simp] theorem closes_cons {c : Char} {rest : List Char} :
    Closes (c :: rest) ↔ c = '*' ∧ rest.head? = some '/' ∨ Closes rest := by
  have opens : ['*', '/'] <+: c :: rest ↔ c = '*' ∧ rest.head? = some '/' := by
    cases rest with
    | nil => simp
    | cons next rest => simp [eq_comm]
  rw [Closes, List.infix_cons_iff, opens]
  rfl

instance decidableCloses : (text : List Char) → Decidable (Closes text)
  | [] => .isFalse closes_nil
  | _ :: rest =>
    have := decidableCloses rest
    decidable_of_iff _ closes_cons.symm

theorem closes_append {a b : List Char} : Closes (a ++ b) ↔
    Closes a ∨ Closes b ∨ a.getLast? = some '*' ∧ b.head? = some '/' := by
  induction a with
  | nil => simp
  | cons c a ih =>
    rw [List.cons_append, closes_cons, closes_cons, ih]
    cases a with
    | nil => simp [or_comm]
    | cons next a => simp [or_assoc]

/-- A text between two others that shares no mark with them and has none of its own. -/
def Apart (separator : List Char) : Prop :=
  ¬ Closes separator ∧ separator ≠ [] ∧ separator.head? ≠ some '/' ∧ separator.getLast? ≠ some '*'

instance (separator : List Char) : Decidable (Apart separator) :=
  inferInstanceAs (Decidable (_ ∧ _))

theorem closes_apart {a separator b : List Char} (h : Apart separator) :
    Closes (a ++ (separator ++ b)) ↔ Closes a ∨ Closes b := by
  obtain ⟨unclosed, nonempty, head, last⟩ := h
  have first : (separator ++ b).head? = separator.head? := by
    cases separator with
    | nil => exact absurd rfl nonempty
    | cons c rest => rfl
  simp [closes_append, first, unclosed, head, last]

theorem closes_before {separator b : List Char} (h : Apart separator) :
    Closes (separator ++ b) ↔ Closes b := by
  simpa using closes_apart (a := []) (b := b) h

theorem closes_after {a separator : List Char} (h : Apart separator) :
    Closes (a ++ separator) ↔ Closes a := by
  simpa using closes_apart (a := a) (b := []) h

theorem closes_slash {text : List Char} (h : Closes text) : '/' ∈ text :=
  h.subset (by simp)

theorem readComment_iff {inside after : List Char} :
    readComment (inside ++ '*' :: '/' :: after) = some (inside, after) ↔ ¬ Closes inside := by
  induction inside with
  | nil => simp [readComment]
  | cons c inside ih =>
    have mark : (inside ++ '*' :: '/' :: after).head? = some '/' ↔ inside.head? = some '/' := by
      cases inside <;> simp
    rw [List.cons_append, readComment, closes_cons]
    simp only [mark]
    by_cases early : c = '*' ∧ inside.head? = some '/'
    · simp [early]
    · rw [if_neg early, or_iff_right early, ← ih]
      constructor
      · intro h
        obtain ⟨⟨inner, rest⟩, read, same⟩ := Option.map_eq_some_iff.mp h
        simp only [Prod.mk.injEq, List.cons.injEq, true_and] at same
        obtain ⟨rfl, rfl⟩ := same
        exact read
      · intro h
        rw [h]
        rfl

theorem escaped_head {cs : List Char}
    (h : (Text.replaceFrom ['*', '/'] ['*', '\\', '/'] 0 cs).head? = some '/') :
    cs.head? = some '/' := by
  cases cs with
  | nil => simp [Text.replaceFrom] at h
  | cons c rest =>
    rw [Text.replaceFrom] at h
    split at h
    · simp at h
    · simpa using h

/-- At most the slash of a mark is still to be passed over. -/
theorem escaped_closed (cs : List Char) (skip : ℕ) (few : skip ≤ 1) :
    ¬ Closes (Text.replaceFrom ['*', '/'] ['*', '\\', '/'] skip cs) := by
  induction cs generalizing skip with
  | nil => simp [Text.replaceFrom]
  | cons c rest ih =>
    cases skip with
    | succ skip => exact ih skip (by omega)
    | zero =>
      rw [Text.replaceFrom]
      split
      · have escaped : Apart ['*', '\\', '/'] := by decide
        rw [closes_before escaped]
        exact ih 1 (by omega)
      · rename_i other
        rw [closes_cons]
        rintro (⟨rfl, head⟩ | h)
        · apply other
          have slash := escaped_head head
          cases rest with
          | nil => simp at slash
          | cons next rest => simpa using slash.symm
        · exact ih 0 (by omega) h

theorem escapeComment_closed (text : String) : ¬ Closes (Script.escapeComment text).toList := by
  rw [Script.escapeComment, String.toList_ofList]
  exact escaped_closed text.toList 0 (by omega)

theorem closes_intercalate {separator : String} (h : Apart separator.toList) (parts : List String) :
    Closes (separator.intercalate parts).toList ↔ ∃ part ∈ parts, Closes part.toList := by
  induction parts with
  | nil => simp
  | cons part parts ih =>
    cases parts with
    | nil => simp
    | cons next parts =>
      rw [String.intercalate_cons_cons, String.toList_append, String.toList_append,
        List.append_assoc, closes_apart h, ih]
      simp

theorem closes_joinLines (lines : List String) :
    Closes (joinLines lines).toList ↔ ∃ line ∈ lines, Closes line.toList := by
  induction lines with
  | nil => simp
  | cons line lines ih =>
    have feed : Apart "\n".toList := by decide
    rw [joinLines_cons, String.toList_append, String.toList_append, List.append_assoc,
      closes_apart feed, ih]
    simp

theorem closes_escapedQuoted (cs : List Char) :
    Closes (cs.flatMap Script.escapeQuotedChar) ↔ Closes cs := by
  induction cs with
  | nil => rfl
  | cons c rest ih =>
    have head : (rest.flatMap Script.escapeQuotedChar).head? = some '/' ↔
        rest.head? = some '/' := by
      cases rest with
      | nil => simp
      | cons next rest =>
        simp only [List.flatMap_cons, Script.escapeQuotedChar]
        split_ifs <;> simp_all
    rw [List.flatMap_cons, closes_append, closes_cons, ih, head, Script.escapeQuotedChar]
    split_ifs with backslash quote feed
    · subst backslash
      simp
    · subst quote
      simp
    · subst feed
      simp
    · simp [or_comm]

theorem closes_singleQuoted (text : String) :
    Closes (Script.singleQuoted text).toList ↔ Closes text.toList := by
  have quote : Apart "'".toList := by decide
  rw [Script.singleQuoted, String.toList_append, String.toList_append, closes_after quote,
    closes_before quote, Script.escapeSingleQuoted, String.toList_ofList, closes_escapedQuoted]

def TypeExpr.literalValues : TypeExpr → List String
  | literals values => values
  | array item => item.literalValues
  | _ => []

/-- A type closes a comment by a name in it or by the value of a literal. -/
theorem closes_type (type : TypeExpr) : Closes type.text.toList ↔
    (∃ name ∈ type.names, Closes name.toList) ∨
      ∃ value ∈ type.literalValues, Closes value.toList := by
  have words : ∀ word ∈ ["any", "string", "number", "boolean", "object", "Record<string, any>"],
      ¬ Closes word.toList := by decide
  induction type with
  | any | string | number | boolean | object | anyRecord =>
    simpa [TypeExpr.names, TypeExpr.literalValues] using words _ (by simp [TypeExpr.text])
  | named name => simp [TypeExpr.text, TypeExpr.names, TypeExpr.literalValues]
  | literals values =>
    have bar : Apart " | ".toList := by decide
    rw [TypeExpr.text, closes_intercalate bar]
    simp [TypeExpr.names, TypeExpr.literalValues, closes_singleQuoted]
  | array item ih =>
    have brackets : Apart "[]".toList := by decide
    have parenthesis : Apart "(".toList := by decide
    have ending : Apart ")[]".toList := by decide
    rw [TypeExpr.names, TypeExpr.literalValues, TypeExpr.text]
    refine Iff.trans ?_ ih
    split
    · rw [String.toList_append, String.toList_append, closes_after ending, closes_before parenthesis]
    · rw [String.toList_append, closes_after brackets]

theorem referenceName_closed (reference : String) : ¬ Closes (referenceName reference).toList := by
  intro h
  have slash := closes_slash h
  rw [referenceName, String.toList_ofList, List.mem_reverse] at slash
  have kept := List.all_takeWhile (p := (· != '/')) (l := reference.toList.reverse)
  simpa using List.all_eq_true.mp kept _ slash

theorem closes_typeExpr (node : SchemaNode) : Closes node.typeExpr.text.toList ↔
    ∃ value ∈ node.typeExpr.literalValues, Closes value.toList := by
  rw [closes_type, or_iff_right]
  rintro ⟨name, mem, h⟩
  rw [names_typeExpr] at mem
  obtain ⟨depth, path, _, rfl⟩ := mem_referenceNames.mp mem
  exact referenceName_closed path h

theorem closes_typeOfSchema (schema : Option SchemaNode) :
    Closes (typeOfSchema schema).text.toList ↔
      ∃ value ∈ (typeOfSchema schema).literalValues, Closes value.toList := by
  cases schema with
  | none => simpa [typeOfSchema, TypeExpr.names] using closes_type .any
  | some node => exact closes_typeExpr node

end OpenApiClient
