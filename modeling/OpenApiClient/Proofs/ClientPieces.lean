import OpenApiClient.Client.Generation
import Mathlib.Tactic.Common

/-! The client in pieces.
The text of a client is a sequence of pieces that is the same for all options; the options only say
what stands in some of the pieces. -/
namespace OpenApiClient

inductive Piece
  | fixed (text : String)
  /-- Text of typed output only. -/
  | typed (text : String)
  /-- Text of plain output only. -/
  | plain (text : String)
  | responseImport
  | resultType (method : Method)
  | returned (method : Method)

def Piece.text (options : ClientOptions) : Piece → String
  | fixed text => text
  | typed text => if options.typed then text else ""
  | plain text => if options.typed then "" else text
  | responseImport => if options.typed && !options.unwrapResponseData then ", AxiosResponse" else ""
  | resultType method =>
    if options.typed then ": " ++ method.returnType options.unwrapResponseData else ""
  | returned method => joinLines (method.returnLines options.unwrapResponseData)

def fill (options : ClientOptions) (pieces : List Piece) : String :=
  String.join (pieces.map (Piece.text options))

def fixedLines (lines : List String) : List Piece := lines.map fun line => .fixed (line ++ "\n")

def plainLines (lines : List String) : List Piece := lines.map fun line => .plain (line ++ "\n")

def typedLines (lines : List String) : List Piece := lines.map fun line => .typed (line ++ "\n")

section Filling

variable (options : ClientOptions)

@[simp] theorem fill_nil : fill options [] = "" := rfl

@[simp] theorem fill_cons (piece : Piece) (pieces : List Piece) :
    fill options (piece :: pieces) = piece.text options ++ fill options pieces := by
  rw [fill, List.map_cons, String.join_cons]
  rfl

@[simp] theorem fill_append (pieces rest : List Piece) :
    fill options (pieces ++ rest) = fill options pieces ++ fill options rest := by
  rw [fill, List.map_append, String.join_append]
  rfl

theorem fill_flatMap (items : List α) (piecesOf : α → List Piece) :
    fill options (items.flatMap piecesOf) =
      String.join (items.map fun item => fill options (piecesOf item)) := by
  induction items with
  | nil => rfl
  | cons item items ih =>
    rw [List.flatMap_cons, fill_append, ih, List.map_cons, String.join_cons]

theorem fill_intercalate (separator : String) (parts : List (List Piece)) :
    fill options ([Piece.fixed separator].intercalate parts) =
      separator.intercalate (parts.map (fill options)) := by
  induction parts with
  | nil => rfl
  | cons part parts ih =>
    cases parts with
    | nil => rw [List.intercalate_singleton, List.map_singleton, String.intercalate_singleton]
    | cons next parts =>
      rw [List.intercalate_cons_cons, List.map_cons, List.map_cons, String.intercalate_cons_cons,
        ← List.map_cons, ← ih]
      simp [Piece.text, String.append_assoc]

end Filling

@[simp] theorem joinLines_nil : joinLines [] = "" := rfl

@[simp] theorem joinLines_cons (line : String) (lines : List String) :
    joinLines (line :: lines) = line ++ "\n" ++ joinLines lines := by
  rw [joinLines, List.map_cons, String.join_cons]
  rfl

@[simp] theorem joinLines_append (lines rest : List String) :
    joinLines (lines ++ rest) = joinLines lines ++ joinLines rest := by
  rw [joinLines, List.map_append, String.join_append]
  rfl

theorem joinLines_flatMap (items : List α) (linesOf : α → List String) :
    joinLines (items.flatMap linesOf) = String.join (items.map fun item => joinLines (linesOf item)) := by
  induction items with
  | nil => rfl
  | cons item items ih =>
    rw [List.flatMap_cons, joinLines_append, ih, List.map_cons, String.join_cons]

theorem intercalate_lines (lines : List String) (last : String) :
    "\n".intercalate (lines ++ [last]) = joinLines lines ++ last := by
  induction lines with
  | nil => simp
  | cons line lines ih =>
    have rest : lines ++ [last] ≠ [] := by simp
    rw [List.cons_append, String.intercalate_cons_of_ne_nil rest, ih, joinLines_cons,
      String.append_assoc, String.append_assoc, String.append_assoc]

@[simp] theorem fill_fixedLines (options : ClientOptions) (lines : List String) :
    fill options (fixedLines lines) = joinLines lines := by
  rw [fill, fixedLines, List.map_map]
  rfl

theorem fill_plainLines (options : ClientOptions) (lines : List String) :
    fill options (plainLines lines) = joinLines (if options.typed then [] else lines) := by
  induction lines with
  | nil => simp [plainLines]
  | cons line lines ih =>
    have first : plainLines (line :: lines) = .plain (line ++ "\n") :: plainLines lines := rfl
    rw [first, fill_cons, ih, Piece.text]
    cases options.typed <;> simp

theorem fill_typedLines (options : ClientOptions) (lines : List String) :
    fill options (typedLines lines) = joinLines (if options.typed then lines else []) := by
  induction lines with
  | nil => simp [typedLines]
  | cons line lines ih =>
    have first : typedLines (line :: lines) = .typed (line ++ "\n") :: typedLines lines := rfl
    rw [first, fill_cons, ih, Piece.text]
    cases options.typed <;> simp

/-- What a typed signature says of a formal after its name. -/
def annotationOf : Formal × Marker → String
  | (formal, .plain) => ": " ++ formal.type.text
  | (formal, .orUndefined) => ": " ++ formal.type.text ++ " | undefined"
  | (formal, .optional) => "?: " ++ formal.type.text

theorem typedFormal_eq (entry : Formal × Marker) :
    typedFormal entry = entry.1.ident ++ annotationOf entry := by
  obtain ⟨formal, marker⟩ := entry
  cases marker <;> simp [typedFormal, annotationOf, String.append_assoc]

theorem markers_fst (formals : List Formal) : (markers formals).map Prod.fst = formals := by
  induction formals with
  | nil => rfl
  | cons formal later ih => rw [markers, List.map_cons, ih]

theorem idents_eq (formals : List Formal) :
    formals.map Formal.ident = (markers formals).map fun entry => entry.1.ident := by
  conv_lhs => rw [← markers_fst formals, List.map_map]
  rfl

def formalPieces (entry : Formal × Marker) : List Piece :=
  [.fixed entry.1.ident, .typed (annotationOf entry)]

def signaturePieces (formals : List Formal) : List Piece :=
  [Piece.fixed ", "].intercalate ((markers formals).map formalPieces)

theorem fill_signature (options : ClientOptions) (formals : List Formal) :
    fill options (signaturePieces formals) = signatureText options.typed formals := by
  rw [signaturePieces, fill_intercalate, signatureText, List.map_map]
  congr 1
  cases typed : options.typed with
  | true =>
    refine List.map_congr_left fun entry _ => ?_
    simp [formalPieces, Piece.text, typed, typedFormal_eq]
  | false =>
    rw [if_neg Bool.false_ne_true, idents_eq]
    refine List.map_congr_left fun entry _ => ?_
    simp [formalPieces, Piece.text, typed]

namespace Method

def headingPieces (method : Method) : List Piece :=
  fixedLines (["  /**"] ++ method.commentLines true)
    ++ plainLines (method.formals.map Formal.documentation)
    ++ fixedLines ["   */"]
    ++ [.fixed "  async ", .fixed method.name, .fixed "("]
    ++ signaturePieces method.formals
    ++ [.fixed ")", .resultType method, .fixed " "]

def bodyPieces (method : Method) : List Piece :=
  fixedLines (["\x7b"] ++ method.queryLines) ++ [.returned method, .fixed "  \x7d"]

theorem joinLines_comment (method : Method) (typed : Bool) :
    joinLines (method.commentLines typed) = joinLines (method.commentLines true) ++
      joinLines (if typed then [] else method.formals.map Formal.documentation) := by
  cases typed with
  | true => simp
  | false => simp [commentLines]

theorem source_eq_fill (method : Method) (options : ClientOptions) :
    method.source options = fill options (method.headingPieces ++ method.bodyPieces) := by
  have brace : " \x7b" = " " ++ "\x7b" := rfl
  rw [source, lines, intercalate_lines, headingPieces, bodyPieces]
  simp only [fill_append, fill_cons, fill_nil, fill_fixedLines, fill_plainLines, fill_signature,
    joinLines_append, joinLines_cons, joinLines_nil, Piece.text, headLine, brace,
    joinLines_comment method options.typed, String.append_assoc, String.append_empty]

end Method

namespace Document

variable (document : Document)

def importPieces (typesModule : String) : List Piece :=
  let names := document.emission.importedTypes
  [.plain "import axios from 'axios';", .typed "import axios, \x7b AxiosInstance", .responseImport,
      .typed " \x7d from 'axios';", .fixed "\n"]
    ++ typedLines (if names.isEmpty then []
      else ["import type \x7b " ++ ", ".intercalate names ++ " \x7d from '" ++ typesModule ++ "';"])

def memberPieces : List Piece :=
  typedLines ["  private client: AxiosInstance;", ""]
    ++ [.fixed "  constructor(baseURL", .typed ": string", .fixed " = ",
      .fixed (Script.singleQuoted (document.serverUrl?.getD defaultBaseUrl)), .fixed ") \x7b",
      .fixed "\n"]
    ++ fixedLines
      ["    this.client = axios.create(\x7b",
        "      baseURL,",
        "      headers: \x7b",
        "        'Content-Type': 'application/json',",
        "      \x7d,",
        "    \x7d);",
        "  \x7d",
        ""]
    ++ [.fixed "  setAuthToken(token", .typed ": string", .fixed ")", .typed ": void",
      .fixed " \x7b", .fixed "\n"]
    ++ fixedLines
      ["    this.client.defaults.headers.common['Authorization'] = `Bearer $\x7btoken\x7d`;",
        "  \x7d"]

def clientPieces (clientName typesModule : String) : List Piece :=
  fixedLines ["// Auto-generated API client from OpenAPI specification"]
    ++ document.importPieces typesModule
    ++ fixedLines ["", "export class " ++ clientName ++ " \x7b"]
    ++ document.memberPieces
    ++ document.emission.methods.flatMap (fun emitted =>
      .fixed "\n" :: emitted.method.headingPieces ++ emitted.method.bodyPieces ++ [.fixed "\n"])
    ++ fixedLines ["\x7d", "",
      "export const " ++ Text.lowerCamel clientName ++ " = new " ++ clientName ++ "();"]

theorem fill_importPieces (options : ClientOptions) (typesModule : String) :
    fill options (document.importPieces typesModule) =
      joinLines (importLines document.emission options typesModule) := by
  have response : Piece.responseImport.text options = if options.typed then
      if options.unwrapResponseData then "" else ", AxiosResponse" else "" := by
    rw [Piece.text]
    cases options.typed <;> cases options.unwrapResponseData <;> rfl
  simp only [importPieces, importLines, fill_append, fill_cons, fill_nil, fill_typedLines, response]
  simp only [Piece.text]
  cases options.typed with
  | true => simp only [if_true, joinLines_append, joinLines_cons, joinLines_nil, String.append_assoc,
      String.append_empty, String.empty_append]
  | false => simp

theorem fill_memberPieces (options : ClientOptions) :
    fill options document.memberPieces =
      joinLines (fixedMembers options (document.serverUrl?.getD defaultBaseUrl)) := by
  have string : ": string" = ": " ++ "string" := rfl
  have void : ": void" = ": " ++ "void" := rfl
  unfold memberPieces fixedMembers
  simp only [fill_append, fill_cons, fill_nil, fill_fixedLines, fill_typedLines, Piece.text,
    annotation, joinLines_append, joinLines_cons, joinLines_nil, String.append_assoc,
    String.append_empty, string, void]

theorem clientModule_eq_fill (options : ClientOptions) (typesModule : String) :
    document.clientModule options typesModule =
      fill options (document.clientPieces options.clientName typesModule) := by
  have methods : joinLines (document.emission.methods.flatMap
      fun emitted => ["", emitted.method.source options]) =
      fill options (document.emission.methods.flatMap fun emitted =>
        .fixed "\n" :: emitted.method.headingPieces ++ emitted.method.bodyPieces ++ [.fixed "\n"]) := by
    rw [joinLines_flatMap, fill_flatMap]
    refine congrArg String.join (List.map_congr_left fun emitted _ => ?_)
    simp only [Method.source_eq_fill, Piece.text, fill_append, fill_cons, fill_nil, joinLines_cons,
      joinLines_nil, String.append_assoc, String.append_empty, String.empty_append,
      List.cons_append]
  unfold clientModule clientLines clientPieces
  simp only [joinLines_append, fill_append, fill_fixedLines, fill_importPieces, fill_memberPieces,
    methods, ClientOptions.instanceName]

end Document

end OpenApiClient
