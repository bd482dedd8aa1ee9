import OpenApiClient.Proofs.DecoderRoutes
import OpenApiClient.Proofs.ValidatedDocuments

/-! Documents from texts and from raw values.
Every part of the model agrees in its two routes, so a text in which no object names a key twice
gives the document that its raw value gives, or both give none. -/
namespace OpenApiClient

open Decoder (agrees_string agrees_raw agrees_buffered)

/-- No object in a text names a key twice, as the text stands. -/
def Json.KeysOnce (text : List Symbol) : Prop :=
  ∀ value, runReader readContent text = .ok value → value.Distinct

theorem SchemaNode.decoder_agrees : SchemaNode.decoder.Agrees := agrees_buffered _ _

theorem ParameterNode.decoder_agrees : ParameterNode.decoder.Agrees := agrees_buffered _ _

theorem ResponseNode.decoder_agrees : ResponseNode.decoder.Agrees := agrees_buffered _ _

theorem PathItem.decoder_agrees : PathItem.decoder.Agrees := agrees_raw.fields.check _

theorem Info.shape_agrees : Info.shape.decoder.Agrees := by
  refine Shape.agrees fun key d known => ?_
  simp only [shape] at known
  split at known <;> cases known
  · exact agrees_string.map _
  · exact agrees_string.map _
  · exact agrees_string.option.map _

theorem ServerEntry.shape_agrees : ServerEntry.shape.decoder.Agrees := by
  refine Shape.agrees fun key d known => ?_
  simp only [shape] at known
  split at known <;> cases known
  · exact agrees_string.map _
  · exact agrees_string.option.map _

theorem Components.shape_agrees : Components.shape.decoder.Agrees := by
  refine Shape.agrees fun key d known => ?_
  simp only [shape] at known
  split at known <;> cases known
  · exact SchemaNode.decoder_agrees.fields.map _
  · exact ParameterNode.decoder_agrees.fields.map _
  · exact ResponseNode.decoder_agrees.fields.map _

theorem Document.shape_agrees : Document.shape.decoder.Agrees := by
  refine Shape.agrees fun key d known => ?_
  simp only [shape] at known
  split at known <;> cases known
  · exact agrees_string.map _
  · exact Info.shape_agrees.map _
  · exact ServerEntry.shape_agrees.list.map _
  · exact PathItem.decoder_agrees.fields.map _
  · exact Components.shape_agrees.map _

namespace Json

variable {text : List Symbol}

theorem toOption_runReader (reader : ℕ → ℕ → Reader α) (text : List Symbol) :
    (runReader reader text).toOption = (reader (boundOf text) maxDepth text).toOption.bind
      fun read => (readEnd read.2).toOption.map fun _ => read.1 := by
  rw [runReader]
  cases reader (boundOf text) maxDepth text with
  | error halt => cases halt <;> rfl
  | ok read =>
    obtain ⟨a, rest⟩ := read
    cases ended : readEnd rest with
    | error halt => cases halt <;> simp [ended, bind, Except.bind, Except.toOption]
    | ok => simp [ended, bind, Except.bind, Except.toOption, pure, Except.pure]

theorem runReader_ok {reader : ℕ → ℕ → Reader α} {a : α} :
    runReader reader text = .ok a ↔ ∃ rest, reader (boundOf text) maxDepth text = .ok (a, rest) ∧
      readEnd rest = .ok () := by
  rw [← toOption_eq_some, toOption_runReader, Option.bind_eq_some_iff]
  constructor
  · rintro ⟨⟨b, rest⟩, read, ended⟩
    obtain ⟨_, there, rfl⟩ := Option.map_eq_some_iff.mp ended
    exact ⟨rest, toOption_eq_some.mp read, toOption_eq_some.mp there⟩
  · rintro ⟨rest, read, ended⟩
    rw [read]
    exact ⟨(a, rest), rfl, by rw [ended]; rfl⟩

theorem reads_text {value : Json} (parsed : parse text = .ok value) (once : KeysOnce text) :
    ∃ rest, Reads (boundOf text) maxDepth text value rest ∧ readEnd rest = .ok () := by
  obtain ⟨rest, read, ended⟩ := runReader_ok.mp parsed
  obtain ⟨⟨content, after⟩, read, eq⟩ := bind_ok read
  cases eq
  have distinct := once content (runReader_ok.mpr ⟨rest, read, ended⟩)
  rw [settled_of_distinct distinct]
  exact ⟨rest, ⟨read, distinct, by simp [boundOf]⟩, ended⟩

/-- What a value needs to be read again from its indented text. -/
structure Printable (depth : ℕ) (value : Json) : Prop where
  nests : Nests depth value
  distinct : Distinct value
  integral : Integral value

theorem Printable.array {depth : ℕ} {items : List Json}
    (all : ∀ item ∈ items, Printable depth item) : Printable (depth + 1) (.array items) where
  nests := .array fun item mem => (all item mem).nests
  distinct := .array fun item mem => (all item mem).distinct
  integral := .array fun item mem => (all item mem).integral

theorem Printable.object {depth : ℕ} {fields : List (String × Json)}
    (nodup : (fields.map Prod.fst).Nodup) (all : ∀ field ∈ fields, Printable depth field.2) :
    Printable (depth + 1) (.object fields) where
  nests := .object fun field mem => (all field mem).nests
  distinct := .object nodup fun field mem => (all field mem).distinct
  integral := .object fun field mem => (all field mem).integral

theorem Printable.keysOnce {value : Json} (printable : Printable maxDepth value) :
    KeysOnce (Symbol.ofBytes value.indented.toUTF8) := by
  intro other read
  obtain ⟨rest, read, _⟩ := runReader_ok.mp read
  cases (readContent_printed printable.nests printable.integral).symm.trans read
  exact printable.distinct

end Json

/-- A text and its raw value describe the same document, or neither describes one. -/
theorem text_routes_agree {text : List Symbol} {value : Json} (parsed : Json.parse text = .ok value)
    (once : Json.KeysOnce text) :
    (Document.parse text).toOption = (Document.ofJson value).toOption := by
  obtain ⟨rest, reads, ended⟩ := Json.reads_text parsed once
  have raw : (Document.ofJson value).toOption = (Document.shape.ofJson value).toOption := by
    unfold Document.ofJson
    cases Document.shape.ofJson value <;> rfl
  have same : (Document.shape.read (Json.boundOf text) Json.maxDepth text).toOption =
      (Document.shape.ofJson value).toOption.map fun document => (document, rest) :=
    Document.shape_agrees.same reads
  rw [raw, Document.parse, Json.toOption_runReader, same]
  cases (Document.shape.ofJson value).toOption with
  | none => rfl
  | some document => simp only [Option.map_some, Option.bind_some, ended, Except.toOption]

def notedDocument : Json :=
  .object (("x-note", .array [.null, .object [("openapi", .bool false)]]) ::
    usersDocument.asObject?.getD [])

theorem notedDocument_printable : notedDocument.Printable Json.maxDepth := by
  have null {depth : ℕ} : Json.null.Printable depth := ⟨.null, .null, .null⟩
  have bool {depth : ℕ} : (Json.bool false).Printable depth := ⟨.bool, .bool, .bool⟩
  have string {depth : ℕ} {text : String} : (Json.string text).Printable depth :=
    ⟨.string, .string, .string⟩
  have empty {depth : ℕ} : (Json.object []).Printable (depth + 1) := .object List.nodup_nil (by simp)
  have single {depth : ℕ} {key : String} {value : Json} (h : value.Printable depth) :
      (Json.object [(key, value)]).Printable (depth + 1) := .object (by simp) (by simpa using h)
  have note : (Json.array [.null, .object [("openapi", .bool false)]]).Printable 126 :=
    .array (List.forall_mem_cons.mpr ⟨null, List.forall_mem_singleton.mpr (single bool)⟩)
  have info : (Json.object [("title", .string "Users"), ("version", .string "1")]).Printable 126 :=
    .object (by decide) (by simp [string])
  refine .object (by decide) ?_
  simp only [usersDocument, Json.asObject?, Option.getD_some, List.forall_mem_cons]
  exact ⟨note, string, info, single (single (single empty)), single (single (single string)),
    by simp⟩

def notedText : List Symbol := Symbol.ofBytes notedDocument.indented.toUTF8

theorem noted_document_routes : ∃ document, Json.parse notedText = .ok notedDocument ∧
    Json.KeysOnce notedText ∧ Document.parse notedText = .ok document ∧
      Document.ofJson notedDocument = .ok document := by
  have printable := notedDocument_printable
  obtain ⟨document, read⟩ := usersDocument_read
  have noted : Document.ofJson notedDocument = .ok document := read
  have parsed : Json.parse notedText = .ok notedDocument :=
    Json.parse_printed printable.nests printable.distinct printable.integral
  have once : Json.KeysOnce notedText := printable.keysOnce
  have same := text_routes_agree parsed once
  rw [noted] at same
  exact ⟨document, parsed, once, toOption_eq_some.mp same, noted⟩

end OpenApiClient
