import OpenApiClient.Proofs.ClientPieces
import OpenApiClient.Proofs.DocumentRules
import Mathlib.Data.List.Forall2

/-! The switches of the output.
Typed and plain output differ in what stands before the bodies of methods; giving the data instead
of the response differs in the pieces that speak of the response. -/
namespace OpenApiClient

structure WrittenMethod where
  name : String
  formals : List String
  source : String
  typeNames : List String
  warnings : List Warning

def EmittedMethod.written (options : ClientOptions) (emitted : EmittedMethod) : WrittenMethod where
  name := emitted.method.name
  formals := emitted.method.formals.map Formal.ident
  source := emitted.method.source options
  typeNames := emitted.typeNames
  warnings := emitted.warnings

def Document.written (document : Document) (options : ClientOptions) : List WrittenMethod :=
  document.emission.methods.map (EmittedMethod.written options)

structure SameFacts (a b : WrittenMethod) : Prop where
  name : b.name = a.name
  formals : b.formals = a.formals
  typeNames : b.typeNames = a.typeNames
  warnings : b.warnings = a.warnings

def Annotation (typed : Bool) (text : String) : Prop :=
  if typed then Begins ": " text ∨ Begins "?: " text else text = ""

/-- The text of a method before its body: a comment, the name, and the formals in order, with
annotations after each of them and after their list. -/
def Heading (typed : Bool) (name : String) (formals : List String) (text : String) : Prop :=
  ∃ comment annotations result, text = comment ++ "  async " ++ name ++ "("
      ++ ", ".intercalate (List.zipWith (· ++ ·) formals annotations) ++ ")" ++ result ++ " " ∧
    annotations.length = formals.length ∧ ∀ text ∈ result :: annotations, Annotation typed text

structure SameBody (typed typed' : Bool) (a b : WrittenMethod) : Prop extends SameFacts a b where
  body : ∃ heading heading' body, Heading typed a.name a.formals heading ∧
    Heading typed' b.name b.formals heading' ∧ Begins "\x7b" body ∧
    a.source = heading ++ body ∧ b.source = heading' ++ body

/-- A piece that speaks of the response: its import, the type of a result, or what is returned. In
plain output there is the last of these only. -/
inductive Piece.Answers (typed : Bool) : Piece → Prop where
  | responseImport : typed = true → Answers typed .responseImport
  | resultType {method} : typed = true → Answers typed (.resultType method)
  | returned {method} : Answers typed (.returned method)

theorem Piece.text_unwrap (piece : Piece) (options : ClientOptions) (unwrapResponseData : Bool) :
    piece.text { options with unwrapResponseData } = piece.text options ∨
      piece.Answers options.typed := by
  have typed : ({ options with unwrapResponseData } : ClientOptions).typed = options.typed := rfl
  cases piece with
  | fixed => exact .inl rfl
  | typed => exact .inl rfl
  | plain => exact .inl rfl
  | responseImport =>
    cases there : options.typed with
    | true => exact .inr (.responseImport rfl)
    | false => exact .inl (by simp [text, typed, there])
  | resultType method =>
    cases there : options.typed with
    | true => exact .inr (.resultType rfl)
    | false => exact .inl (by simp [text, typed, there])
  | returned => exact .inr .returned

theorem signature_zip (typed : Bool) (formals : List Formal) :
    signatureText typed formals = ", ".intercalate (List.zipWith (· ++ ·) (formals.map Formal.ident)
      ((markers formals).map fun entry => if typed then annotationOf entry else "")) := by
  rw [signatureText, idents_eq, List.zipWith_map, List.zipWith_self]
  cases typed with
  | true => simp only [if_true, ← typedFormal_eq]
  | false =>
    have blank (entry : Formal × Marker) : entry.1.ident ++ (if false then annotationOf entry else "") =
        entry.1.ident := String.append_empty
    rw [if_neg Bool.false_ne_true]
    simp only [blank]

theorem annotationOf_begins (entry : Formal × Marker) :
    Begins ": " (annotationOf entry) ∨ Begins "?: " (annotationOf entry) := by
  obtain ⟨formal, marker⟩ := entry
  cases marker with
  | plain => exact .inl (by simp [Begins, annotationOf, String.toList_append])
  | orUndefined => exact .inl (by simp [Begins, annotationOf, String.toList_append])
  | optional => exact .inr (by simp [Begins, annotationOf, String.toList_append])

theorem annotation_shown (typed : Bool) {text : String} (h : Begins ": " text ∨ Begins "?: " text) :
    Annotation typed (if typed then text else "") := by
  cases typed with
  | true => exact h
  | false => rfl

theorem Method.fill_heading (method : Method) (options : ClientOptions) :
    fill options method.headingPieces =
      joinLines (["  /**"] ++ method.commentLines options.typed ++ ["   */"]) ++ "  async "
        ++ method.name ++ "(" ++ signatureText options.typed method.formals ++ ")"
        ++ (if options.typed then ": " ++ method.returnType options.unwrapResponseData else "") ++ " " := by
  simp only [headingPieces, fill_append, fill_cons, fill_nil, fill_fixedLines, fill_plainLines,
    fill_signature, joinLines_append, joinLines_comment method options.typed, Piece.text,
    String.append_assoc, String.append_empty]

theorem Method.heading (method : Method) (options : ClientOptions) :
    Heading options.typed method.name (method.formals.map Formal.ident)
      (fill options method.headingPieces) := by
  refine ⟨joinLines (["  /**"] ++ method.commentLines options.typed ++ ["   */"]),
    (markers method.formals).map fun entry => if options.typed then annotationOf entry else "",
    if options.typed then ": " ++ method.returnType options.unwrapResponseData else "", ?_, ?_, ?_⟩
  · rw [← signature_zip, fill_heading]
  · rw [List.length_map, List.length_map, ← List.length_map (f := Prod.fst), markers_fst]
  · intro text mem
    rcases List.mem_cons.mp mem with rfl | mem
    · exact annotation_shown _ (.inl (by simp [Begins, String.toList_append]))
    · obtain ⟨entry, _, rfl⟩ := List.mem_map.mp mem
      exact annotation_shown _ (annotationOf_begins entry)

theorem Method.body_switched (method : Method) (options : ClientOptions) (toJavaScript : Bool) :
    fill { options with toJavaScript } method.bodyPieces = fill options method.bodyPieces := by
  simp only [bodyPieces, fill_append, fill_fixedLines, fill_cons, fill_nil, Piece.text]

theorem Method.fill_body (method : Method) (options : ClientOptions) :
    fill options method.bodyPieces = "\x7b" ++ ("\n" ++ joinLines method.queryLines
      ++ joinLines (method.returnLines options.unwrapResponseData) ++ "  \x7d") := by
  simp only [bodyPieces, fill_append, fill_fixedLines, fill_cons, fill_nil, List.singleton_append,
    joinLines_cons, Piece.text, String.append_assoc, String.append_empty]

theorem Method.body_begins (method : Method) (options : ClientOptions) :
    Begins "\x7b" (fill options method.bodyPieces) := by
  rw [fill_body, Begins, String.toList_append]
  exact List.prefix_append _ _

/-- What the two switches of the output change in what is written. -/
structure OutputModes (document : Document) : Prop where
  facts : ∀ options options', List.Forall₂ SameFacts (document.written options)
    (document.written options')
  bodies : ∀ (options : ClientOptions) (toJavaScript : Bool),
    List.Forall₂ (SameBody options.typed (!toJavaScript)) (document.written options)
      (document.written { options with toJavaScript })
  /-- Only the name that is wanted for the client file may be remarked on differently. -/
  warnings : ∀ (options : ClientOptions) (fileName : Option String), ∃ told, ∀ toJavaScript,
    (generate document { options with toJavaScript } fileName).warnings =
      (({ options with toJavaScript } : ClientOptions).clientFile fileName).2.toList ++ told
  /-- The pieces of the client are the same, and so is all that is not the client. -/
  unwrapped : ∀ (options : ClientOptions) (fileName : Option String),
    ∃ types path index warnings, ∀ unwrapResponseData,
      generate document { options with unwrapResponseData } fileName =
        ⟨[types, ⟨path, fill { options with unwrapResponseData }
          (document.clientPieces options.clientName typesSpecifier)⟩, index], warnings⟩
  pieces : ∀ (options : ClientOptions) (unwrapResponseData : Bool) (piece : Piece),
    piece.text { options with unwrapResponseData } = piece.text options ∨
      piece.Answers options.typed

theorem output_modes (document : Document) : OutputModes document where
  facts := by
    intro options options'
    rw [Document.written, Document.written, List.forall₂_map_left_iff, List.forall₂_map_right_iff,
      List.forall₂_same]
    exact fun emitted _ => ⟨rfl, rfl, rfl, rfl⟩
  bodies := by
    intro options toJavaScript
    rw [Document.written, Document.written, List.forall₂_map_left_iff, List.forall₂_map_right_iff,
      List.forall₂_same]
    intro emitted _
    refine ⟨⟨rfl, rfl, rfl, rfl⟩, _, _, fill options emitted.method.bodyPieces,
      emitted.method.heading options, emitted.method.heading { options with toJavaScript },
      emitted.method.body_begins options, ?_, ?_⟩
    · exact (emitted.method.source_eq_fill options).trans (fill_append ..)
    · refine (emitted.method.source_eq_fill { options with toJavaScript }).trans ?_
      rw [fill_append, Method.body_switched]
  warnings := by
    intro options fileName
    exact ⟨document.emission.warnings, fun toJavaScript => rfl⟩
  unwrapped := by
    intro options fileName
    refine ⟨⟨options.typesFile, document.typesModule options⟩, (options.clientFile fileName).1,
      ⟨options.indexFile, indexModule (moduleSpecifier (options.clientFile fileName).1)
        typesSpecifier⟩,
      (options.clientFile fileName).2.toList ++ document.emission.warnings, ?_⟩
    intro unwrapResponseData
    have client := document.clientModule_eq_fill { options with unwrapResponseData } typesSpecifier
    rw [← client]
    rfl
  pieces := fun options unwrapResponseData piece => piece.text_unwrap options unwrapResponseData

end OpenApiClient
