import OpenApiClient.Proofs.QuotedTexts
import OpenApiClient.Proofs.TextLines

/-! The ends of lines in typed output.
A remark ends with its line, and no string goes over the end of one. Line feeds never get into either,
but a script knows other ends of a line, and these are not looked for: a description keeps them between
visible characters, and a string keeps its carriage returns. -/
namespace OpenApiClient

open Script (KeyFor lineEnds)

/-- What ends a line of a script, but no line of a text. -/
def strayEnds : List Char := ['\r', '\u2028', '\u2029']

def BreaksRemark (text : String) : Prop := ∃ c ∈ text.toList, c ∈ lineEnds

/-- A text between quotes with a character in it that no string goes over. -/
def BreaksString (text : String) : Prop := ∃ c ∈ text.toList, c ∈ ['\n', '\r']

instance (text : String) : Decidable (BreaksRemark text) :=
  List.decidableBEx (· ∈ lineEnds) text.toList

instance (text : String) : Decidable (BreaksString text) :=
  List.decidableBEx (· ∈ ['\n', '\r']) text.toList

def readRemark (text : List Char) : List Char × List Char := text.span (· ∉ lineEnds)

theorem readRemark_iff {text : String} {behind : List Char} :
    readRemark (text.toList ++ '\n' :: behind) = (text.toList, '\n' :: behind) ↔
      ¬ BreaksRemark text := by
  rw [readRemark, List.span_eq_takeWhile_dropWhile]
  constructor
  · rintro read ⟨c, mem, ends⟩
    have taken := congrArg Prod.fst read
    simp only at taken
    rw [← taken] at mem
    have kept := List.all_eq_true.mp List.all_takeWhile c mem
    simp [ends] at kept
  · intro unbroken
    have inside : ∀ c ∈ text.toList, decide (c ∉ lineEnds) = true := by
      intro c mem
      simp only [decide_eq_true_eq]
      exact fun ends => unbroken ⟨c, mem, ends⟩
    have stops : ∀ c, ('\n' :: behind).head? = some c → decide (c ∉ lineEnds) = false := by
      intro c head
      obtain rfl : '\n' = c := by simpa using head
      decide
    have whole := Script.span_stops inside stops
    rw [whole.1, whole.2]

/-- A description on one line breaks it by an end that the description has inside one of its lines. -/
theorem oneLine_breaks (description : String) : BreaksRemark (oneLine description) ↔
    ∃ c ∈ strayEnds, Text.Enclosed c description.toList := by
  have kept : ∀ c ∈ strayEnds, c ∈ Text.singleLine description.toList ↔
      Text.Enclosed c description.toList := by
    have blanks : ∀ c ∈ strayEnds, Text.isBlank c = true ∧ c ≠ '\n' ∧ c ≠ ' ' := by
      simp only [strayEnds, List.forall_mem_cons]
      exact ⟨by decide, by decide, by decide, List.forall_mem_nil _⟩
    intro c mem
    obtain ⟨blank, feed, space⟩ := blanks c mem
    exact Text.mem_singleLine blank feed space description.toList
  rw [BreaksRemark, oneLine, String.toList_ofList]
  constructor
  · rintro ⟨c, mem, ends⟩
    rcases List.mem_cons.mp ends with rfl | stray
    · exact absurd mem (Text.feed_singleLine description.toList)
    · exact ⟨c, stray, (kept c stray).mp mem⟩
  · rintro ⟨c, stray, enclosed⟩
    exact ⟨c, (kept c stray).mpr enclosed, List.mem_cons_of_mem _ stray⟩

theorem breaksString_iff {text : String} (h : '\n' ∉ text.toList) :
    BreaksString text ↔ '\r' ∈ text.toList := by
  constructor
  · rintro ⟨c, mem, ends⟩
    rcases List.mem_cons.mp ends with rfl | ends
    · exact absurd mem h
    · rwa [← List.mem_singleton.mp ends]
  · intro mem
    exact ⟨'\r', mem, by decide⟩

theorem singleQuoted_breaks (text : String) :
    BreaksString (Script.singleQuoted text) ↔ '\r' ∈ text.toList := by
  rw [breaksString_iff (Script.feed_singleQuoted text)]
  exact Script.mem_singleQuoted (by decide) text

def BrokenKey (indentation name line : String) : Prop :=
  ∃ key behind, line = indentation ++ key ++ behind ∧ KeyFor name key ∧
    (BreaksString key ↔ '\r' ∈ name.toList)

theorem KeyLine.breaks {indentation name line : String} (h : KeyLine indentation name line) :
    BrokenKey indentation name line := by
  obtain ⟨key, behind, whole, written, _⟩ := h
  refine ⟨key, behind, whole, written, ?_⟩
  obtain ⟨feed, carriage⟩ := written.lines
  rw [breaksString_iff feed, carriage]

/-- Only a string can bring a carriage return into a literal; other values are printed without one. -/
theorem literalText_breaks (value : Json) :
    '\r' ∈ value.literalText.toList ↔ ∃ text, value = .string text ∧ '\r' ∈ text.toList := by
  constructor
  · intro mem
    by_contra none
    have plain : ∀ text, value = .string text → '\r' ∉ text.toList := by
      intro text same inside
      exact none ⟨text, same, inside⟩
    exact literalText_line plain mem
  · rintro ⟨text, rfl, mem⟩
    exact mem

structure BrokenProperty (name : String) (description : Option String) (line : String) : Prop where
  key : BrokenKey "  " name line
  remark : ∀ text, description = some text → ∃ code, line = code ++ " // " ++ oneLine text ∧
    (BreaksRemark (oneLine text) ↔ ∃ c ∈ strayEnds, Text.Enclosed c text.toList)

structure LinesBroken (document : Document) (options : ClientOptions) (typesModule : String) :
    Prop where
  remarks : ∀ text behind, readRemark (String.toList text ++ '\n' :: behind) =
    (text.toList, '\n' :: behind) ↔ ¬ BreaksRemark text
  properties : ∀ name schema, (name, .inline schema) ∈ document.components.schemas →
    ∃ before lines after, document.typesModule options = before ++ joinLines
        (("export interface " ++ name ++ " \x7b") :: lines ++ ["\x7d"]) ++ after ∧
      List.Forall₂ (fun entry line => BrokenProperty entry.1 (SchemaNode.description entry.2) line)
        schema.properties lines
  query : ∀ (operation : Operation) components verb path emitted,
    operation.emit? components verb path = some emitted → ∃ before lines after,
      emitted.method.source options = before ++ joinLines (recordLines lines) ++ after ∧
      List.Forall₂ (fun parameter line => BrokenKey "      " parameter.name line)
        (operation.parametersIn components .query) lines
  values : ∀ (node : SchemaNode) schema, node.Gives schema → schema.primaryType = some .string →
    schema.enumValues ≠ [] → ∃ depth literals,
      node.typeExpr.text = underBrackets depth (" | ".intercalate literals) ∧
      List.Forall₂ (fun value literal => BreaksString literal ↔
        ∃ text, value = .string text ∧ '\r' ∈ text.toList) schema.enumValues literals
  server : ∃ before literal after, document.clientModule options typesModule =
      before ++ ("  constructor(baseURL" ++ annotation options "string" ++ " = " ++ literal
        ++ ") \x7b") ++ "\n" ++ after ∧
    (BreaksString literal ↔ '\r' ∈ document.baseUrl.toList)

theorem fieldLine_breaks (property : Property) :
    BrokenProperty property.name property.description property.fieldLine where
  key := (fieldLine_key property).breaks
  remark := by
    intro text described
    refine ⟨"  " ++ property.key ++ (if property.required then "" else "?") ++ ": "
      ++ property.type.text ++ ";", ?_, oneLine_breaks text⟩
    rw [Property.fieldLine, described, Option.elim_some, ← String.append_assoc]

/-- In typed output, line feeds are kept out of remarks and strings. A remark is broken by the other
ends of a line that its description has inside its lines, and a string by carriage returns. -/
theorem lines_broken (document : Document) {options : ClientOptions} (typed : options.typed = true)
    (typesModule : String) : LinesBroken document options typesModule where
  remarks _ _ := readRemark_iff
  properties := by
    intro name schema mem
    obtain ⟨before, after, stands⟩ := interface_stands typed mem
    refine ⟨before, _, after, stands, ?_⟩
    rw [List.forall₂_map_right_iff, List.forall₂_same]
    intro entry _
    exact fieldLine_breaks (schema.property entry)
  query := by
    intro operation components verb path emitted made
    obtain ⟨before, after, stands⟩ := record_stands emitted.method options
    refine ⟨before, _, after, stands, ?_⟩
    obtain ⟨name, _, rfl⟩ := Option.map_eq_some_iff.mp made
    apply (entries_keys _ _).imp
    intro parameter line key
    exact key.breaks
  values := by
    intro node schema gives declared held
    obtain ⟨depth, text⟩ := values_stand gives declared held
    refine ⟨depth, _, text, ?_⟩
    rw [List.forall₂_map_right_iff, List.forall₂_same]
    intro value _
    rw [singleQuoted_breaks, literalText_breaks]
  server := by
    obtain ⟨before, after, stands⟩ := server_stands document options typesModule
    exact ⟨before, _, after, stands, singleQuoted_breaks document.baseUrl⟩

def remarkDocument (property description : String) (values : List Json) : Document where
  components := { schemas := [("Remark", .inline {
    type := some (.single .object)
    properties := [(property, .inline { type := some (.single .string), description, enumValues := values })] })] }

theorem told_lines_kept : ({} : ClientOptions).typed = true ∧
    LinesBroken (remarkDocument "a\nb" "\u2028told \r\n\n in lines\r" [.string "x\ny"]) {} "./types" ∧
    (remarkDocument "a\nb" "\u2028told \r\n\n in lines\r" [.string "x\ny"]).typesModule {} =
      "// Auto-generated types from OpenAPI specification\n\nexport interface Remark \x7b\n"
        ++ "  'a\\nb'?: 'x\\ny'; // told  in lines\n\x7d\n" :=
  ⟨rfl, lines_broken _ rfl "./types", by decide +kernel⟩

theorem stray_ends_break : ({} : ClientOptions).typed = true ∧
    (remarkDocument "a\rb" "told\rin lines\u2028of three kinds" [.string "x\ry"]).typesModule {} =
      "// Auto-generated types from OpenAPI specification\n\nexport interface Remark \x7b\n"
        ++ "  " ++ Script.singleQuoted "a\rb" ++ "?: " ++ Script.singleQuoted "x\ry" ++ "; // "
        ++ oneLine "told\rin lines\u2028of three kinds" ++ "\n\x7d\n" ∧
    (readRemark (oneLine "told\rin lines\u2028of three kinds").toList).1 = "told".toList ∧
    BreaksRemark (oneLine "told\rin lines\u2028of three kinds") ∧
    BreaksString (Script.singleQuoted "a\rb") ∧ BreaksString (Script.singleQuoted "x\ry") :=
  ⟨rfl, by decide +kernel, by decide +kernel, by decide +kernel, by decide +kernel, by decide +kernel⟩

end OpenApiClient
