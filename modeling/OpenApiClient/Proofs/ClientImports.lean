import OpenApiClient.Client.Generation
import OpenApiClient.Proofs.OperationWalk
import OpenApiClient.Proofs.ReferenceTypes
import Mathlib.Data.String.Basic

/-! The types that a typed client imports.
The names on the import line are collected from the schemas of operations; the types that the methods
write are built from the same schemas by another recursion. Both sides are compared through what a
node reaches, once as the method writes it and once in the document. The names are sorted by code
points, which in UTF-8 is the order of their bytes: a lead byte tells longer encodings from shorter
ones, and the bytes of one length carry the digits of the code point from the most significant down. -/
namespace OpenApiClient

def bytesOf (text : String) : List UInt8 := text.toUTF8.data.toList

def BytesLt (a b : String) : Prop := bytesOf a < bytesOf b

theorem bytesOf_eq (text : String) : bytesOf text = text.toList.flatMap String.utf8EncodeChar := by
  rw [bytesOf, String.toUTF8_eq_toByteArray, ← String.utf8Encode_toList, List.utf8Encode,
    List.toList_data_toByteArray]

private theorem code_lt (c : Char) : c.val.toNat < 0x110000 := by
  have h := c.valid
  simp only [UInt32.isValidChar, Nat.isValidChar] at h
  show c.val.toNat < _
  omega

private theorem digits_lt {v w : ℕ} (h : v < w) (bound : w < 0x110000) :
    v / 262144 % 8 < w / 262144 % 8 ∨ v / 262144 % 8 = w / 262144 % 8 ∧
      (v / 4096 % 64 < w / 4096 % 64 ∨ v / 4096 % 64 = w / 4096 % 64 ∧
        (v / 64 % 64 < w / 64 % 64 ∨ v / 64 % 64 = w / 64 % 64 ∧ v % 64 < w % 64)) := by
  have hv : v / 262144 % 8 = v / 262144 := Nat.mod_eq_of_lt (by omega)
  have hw : w / 262144 % 8 = w / 262144 := Nat.mod_eq_of_lt (by omega)
  rw [hv, hw]
  omega

private theorem byte_eq {n : ℕ} (h : n < 256) : (UInt8.ofNat n).toNat = n := by
  simp [Nat.mod_eq_of_lt h]

private theorem encoded_lt {c d : Char} (h : c < d) (r s : List UInt8) :
    String.utf8EncodeChar c ++ r < String.utf8EncodeChar d ++ s := by
  have hv : c.val.toNat < d.val.toNat := h
  have bound := code_lt d
  have order := digits_lt hv bound
  unfold String.utf8EncodeChar
  simp only
  split_ifs <;>
    simp (disch := omega) only [List.cons_append, List.nil_append, List.cons_lt_cons_iff,
      UInt8.lt_iff_toNat_lt, ← UInt8.toNat_inj, byte_eq] <;> omega

private theorem append_lt_append_left (p : List UInt8) {r s : List UInt8} (h : r < s) :
    p ++ r < p ++ s := by
  induction p with
  | nil => exact h
  | cons byte p ih => exact List.cons_lt_cons_iff.mpr (.inr ⟨rfl, ih⟩)

theorem bytesLt_of_lt {a b : String} (h : a < b) : BytesLt a b := by
  rw [BytesLt, bytesOf_eq, bytesOf_eq]
  rw [String.lt_iff] at h
  generalize a.toList = s at h
  generalize b.toList = t at h
  induction h with
  | nil =>
    rename_i d t
    obtain ⟨byte, rest, hd⟩ := List.exists_cons_of_ne_nil (String.utf8EncodeChar_ne_nil (c := d))
    simp [List.flatMap_cons, hd]
  | rel h => simpa only [List.flatMap_cons] using encoded_lt h _ _
  | cons _ ih => simpa only [List.flatMap_cons] using append_lt_append_left _ ih

theorem mem_insertName {name : String} {names : List String} {x : String} :
    x ∈ insertName name names ↔ x = name ∨ x ∈ names := by
  induction names with
  | nil => simp [insertName]
  | cons first rest ih =>
    simp only [insertName]
    split_ifs with lt eq
    · simp
    · subst eq; simp
    · simp only [List.mem_cons, ih, or_left_comm]

theorem insertName_pairwise {name : String} {names : List String}
    (h : names.Pairwise (· < ·)) : (insertName name names).Pairwise (· < ·) := by
  induction names with
  | nil => simp [insertName]
  | cons first rest ih =>
    obtain ⟨hfirst, hrest⟩ := List.pairwise_cons.mp h
    simp only [insertName]
    split_ifs with lt eq
    · refine List.pairwise_cons.mpr ⟨fun x hx => ?_, h⟩
      rcases List.mem_cons.mp hx with rfl | hx
      · exact lt
      · exact lt_trans lt (hfirst x hx)
    · exact h
    · refine List.pairwise_cons.mpr ⟨fun x hx => ?_, ih hrest⟩
      rcases mem_insertName.mp hx with rfl | hx
      · exact lt_of_le_of_ne (not_lt.mp lt) (Ne.symm eq)
      · exact hfirst x hx

@[simp] theorem mem_sortedNames {names : List String} {x : String} :
    x ∈ sortedNames names ↔ x ∈ names := by
  induction names with
  | nil => simp [sortedNames]
  | cons name names ih =>
    rw [sortedNames] at ih ⊢
    rw [List.foldr_cons, mem_insertName, ih, List.mem_cons]

theorem sortedNames_pairwise (names : List String) : (sortedNames names).Pairwise (· < ·) := by
  induction names with
  | nil => exact .nil
  | cons name names ih => exact insertName_pairwise ih

theorem sortedNames_bytes (names : List String) : (sortedNames names).Pairwise BytesLt :=
  (sortedNames_pairwise names).imp bytesLt_of_lt

def Method.shownTypes (method : Method) : List TypeExpr :=
  method.formals.map Formal.type ++ [method.result]

/-- A reference that an operation shows: in a path or query parameter that can be found, or in the
body of the response chosen for its result, behind array items only. -/
inductive Operation.Shows (operation : Operation) (components : Components) : String → Prop where
  | parameter {parameter : Parameter} {node depth path} :
      parameter ∈ operation.resolvedParameters components →
      parameter.location = .path ∨ parameter.location = .query →
      parameter.schema = some node → node.Reaches depth path → Shows operation components path
  | result {node depth path} : operation.resultSchema? components = some node →
      node.Reaches depth path → Shows operation components path

theorem mem_parametersIn {operation : Operation} {components : Components}
    {location : ParameterLocation} {parameter : Parameter} :
    parameter ∈ operation.parametersIn components location ↔
      parameter ∈ operation.resolvedParameters components ∧ parameter.location = location := by
  simp [Operation.parametersIn]

theorem mem_shownSchemas {operation : Operation} {components : Components} {node : SchemaNode} :
    node ∈ operation.shownSchemas components ↔
      (∃ parameter ∈ operation.resolvedParameters components,
        (parameter.location = .path ∨ parameter.location = .query) ∧
          parameter.schema = some node) ∨
      operation.resultSchema? components = some node := by
  simp only [Operation.shownSchemas, List.mem_append, List.mem_filterMap, mem_parametersIn,
    Option.mem_toList]
  apply or_congr_left
  constructor
  · rintro ⟨parameter, ⟨hp, hl⟩ | ⟨hp, hl⟩, hs⟩
    · exact ⟨parameter, hp, .inl hl, hs⟩
    · exact ⟨parameter, hp, .inr hl, hs⟩
  · rintro ⟨parameter, hp, hl | hl, hs⟩
    · exact ⟨parameter, .inl ⟨hp, hl⟩, hs⟩
    · exact ⟨parameter, .inr ⟨hp, hl⟩, hs⟩

theorem mem_typeNames {operation : Operation} {components : Components} {verb : HttpMethod}
    {path : String} {emitted : EmittedMethod}
    (h : operation.emit? components verb path = some emitted) {name : String} :
    name ∈ emitted.typeNames ↔
      ∃ reference, operation.Shows components reference ∧ referenceName reference = name := by
  obtain ⟨id, -, rfl⟩ := Option.map_eq_some_iff.mp h
  simp only [mem_sortedNames, List.mem_flatMap, mem_shownSchemas, mem_referenceNames]
  constructor
  · rintro ⟨node, ⟨parameter, hp, hl, hs⟩ | hr, depth, reference, reaches, rfl⟩
    · exact ⟨reference, .parameter hp hl hs reaches, rfl⟩
    · exact ⟨reference, .result hr reaches, rfl⟩
  · rintro ⟨reference, shows, rfl⟩
    cases shows with
    | parameter hp hl hs reaches => exact ⟨_, .inl ⟨_, hp, hl, hs⟩, _, _, reaches, rfl⟩
    | result hr reaches => exact ⟨_, .inr hr, _, _, reaches, rfl⟩

theorem bindParameters_types (taken : List String) (parameters : List Parameter) :
    (bindParameters taken parameters).map (·.formal.type) =
      parameters.map fun parameter => typeOfSchema parameter.schema := by
  induction parameters generalizing taken with
  | nil => rfl
  | cons parameter rest ih => simp [bindParameters, ih]

theorem names_typeOfSchema (schema : Option SchemaNode) :
    (typeOfSchema schema).names = schema.toList.flatMap SchemaNode.referenceNames := by
  cases schema with
  | none => rfl
  | some node => simp [typeOfSchema, names_typeExpr]

theorem names_bindings (taken : List String) (parameters : List Parameter) :
    ((bindParameters taken parameters).map (·.formal.type)).flatMap TypeExpr.names =
      (parameters.filterMap Parameter.schema).flatMap SchemaNode.referenceNames := by
  rw [bindParameters_types]
  induction parameters with
  | nil => rfl
  | cons parameter rest ih =>
    rw [List.map_cons, List.flatMap_cons, ih, names_typeOfSchema, List.filterMap_cons]
    cases parameter.schema with
    | none => rfl
    | some node => simp

theorem names_shownTypes (operation : Operation) (components : Components) (verb : HttpMethod)
    (path id : String) :
    (operation.method components verb path id).shownTypes.flatMap TypeExpr.names =
      (operation.shownSchemas components).flatMap SchemaNode.referenceNames := by
  cases h : operation.requestBody.isSome <;>
    simp [Method.shownTypes, Method.formals, Operation.method, Operation.shownSchemas, h,
      Function.comp_def, names_bindings, names_typeOfSchema, Formal.body, TypeExpr.names]

theorem mem_importedTypes_shown {document : Document} {name : String} :
    name ∈ document.emission.importedTypes ↔ ∃ emitted ∈ document.emission.methods,
      ∃ type ∈ emitted.method.shownTypes, name ∈ type.names := by
  simp only [Emission.importedTypes, mem_sortedNames, List.mem_flatMap]
  apply exists_congr
  intro emitted
  apply and_congr_right
  intro hm
  obtain ⟨endpoint, -, he⟩ := mem_emission.mp hm
  obtain ⟨id, -, rfl⟩ := Option.map_eq_some_iff.mp he
  rw [mem_sortedNames, ← names_shownTypes _ _ endpoint.verb endpoint.path id, List.mem_flatMap]

theorem mem_importedTypes_source {document : Document} {name : String} :
    name ∈ document.emission.importedTypes ↔ ∃ endpoint id reference,
      FirstUse document endpoint id ∧
        endpoint.operation.Shows document.components reference ∧
        referenceName reference = name := by
  simp only [Emission.importedTypes, mem_sortedNames, List.mem_flatMap]
  constructor
  · rintro ⟨emitted, hm, hn⟩
    obtain ⟨endpoint, use, he⟩ := mem_emission.mp hm
    obtain ⟨reference, shows, rfl⟩ := (mem_typeNames he).mp hn
    exact ⟨endpoint, _, reference, use, shows, rfl⟩
  · rintro ⟨endpoint, id, reference, use, shows, rfl⟩
    obtain ⟨emitted, he, rfl⟩ := emit_of_identifier document.components endpoint.verb
      endpoint.path (identifier_eq_some.mpr ⟨use.identified, use.nonempty⟩)
    exact ⟨emitted, mem_emission.mpr ⟨endpoint, use, he⟩,
      (mem_typeNames he).mpr ⟨reference, shows, rfl⟩⟩

def Within (part whole : String) : Prop := ∃ before after, whole = before ++ part ++ after

theorem Within.surround {part whole : String} (h : Within part whole) (before after : String) :
    Within part (before ++ whole ++ after) := by
  obtain ⟨b, a, rfl⟩ := h
  exact ⟨before ++ b, a ++ after, by simp only [String.append_assoc]⟩

theorem within_intercalate {separator part text : String} {texts : List String}
    (hm : text ∈ texts) (h : Within part text) : Within part (separator.intercalate texts) := by
  induction texts with
  | nil => cases hm
  | cons first rest ih =>
    by_cases hr : rest = []
    · subst hr
      obtain rfl := List.mem_singleton.mp hm
      rwa [String.intercalate_singleton]
    · rw [String.intercalate_cons_of_ne_nil hr]
      rcases List.mem_cons.mp hm with rfl | hm
      · simpa [String.append_assoc] using h.surround "" (separator ++ separator.intercalate rest)
      · simpa [String.append_assoc] using (ih hm).surround (first ++ separator) ""

theorem marked_of_mem {formal : Formal} {formals : List Formal} (h : formal ∈ formals) :
    ∃ marker, (formal, marker) ∈ markers formals := by
  induction formals with
  | nil => cases h
  | cons first rest ih =>
    rcases List.mem_cons.mp h with rfl | h
    · exact ⟨_, List.mem_cons_self⟩
    · obtain ⟨marker, hm⟩ := ih h
      exact ⟨marker, List.mem_cons_of_mem _ hm⟩

theorem within_typedFormal (formal : Formal) (marker : Marker) :
    Within (": " ++ formal.type.text) (typedFormal (formal, marker)) := by
  cases marker with
  | plain => exact ⟨formal.ident, "", String.toList_injective (by simp [typedFormal])⟩
  | orUndefined =>
    exact ⟨formal.ident, " | undefined", String.toList_injective (by simp [typedFormal])⟩
  | optional => exact ⟨formal.ident ++ "?", "", String.toList_injective (by simp [typedFormal])⟩

theorem within_returnType (method : Method) (unwrap : Bool) :
    Within ("<" ++ method.result.text ++ ">") (method.returnType unwrap) := by
  cases unwrap with
  | true => exact ⟨"Promise", "", String.toList_injective (by simp [Method.returnType])⟩
  | false =>
    exact ⟨"Promise<AxiosResponse", ">", String.toList_injective (by simp [Method.returnType])⟩

/-- The head of a typed method writes each of its types, after a colon or inside the promise. -/
theorem shown_in_head {method : Method} {options : ClientOptions} (typed : options.typed = true)
    {type : TypeExpr} (h : type ∈ method.shownTypes) :
    Within (": " ++ type.text) (method.headLine options) ∨
      Within ("<" ++ type.text ++ ">") (method.headLine options) := by
  simp only [Method.headLine, typed, if_true]
  rcases List.mem_append.mp h with h | h
  · left
    obtain ⟨formal, hf, rfl⟩ := List.mem_map.mp h
    obtain ⟨marker, hm⟩ := marked_of_mem hf
    have signature : Within (": " ++ formal.type.text) (signatureText true method.formals) :=
      within_intercalate (List.mem_map_of_mem hm) (within_typedFormal formal marker)
    simpa only [String.append_assoc] using signature.surround ("  async " ++ method.name ++ "(")
      (")" ++ (": " ++ method.returnType options.unwrapResponseData) ++ " \x7b")
  · right
    obtain rfl := List.mem_singleton.mp h
    simpa only [String.append_assoc] using
      (within_returnType method options.unwrapResponseData).surround
        ("  async " ++ method.name ++ "(" ++ signatureText true method.formals ++ ")" ++ ": ")
        " \x7b"

/-- What a node refers to, by what it reaches. -/
structure NodeNames (node : SchemaNode) : Prop where
  reaching : ∀ depth path, node.Reaches depth path →
    node.referenceNames = [referenceName path] ∧
      node.typeExpr.text = underBrackets depth (referenceName path)
  otherwise : (∀ depth path, ¬ node.Reaches depth path) → node.referenceNames = [] ∧
    ∃ depth base, BuiltIn base ∧ node.typeExpr.text = underBrackets depth base

def libraryLine (options : ClientOptions) : String :=
  "import axios, \x7b AxiosInstance"
    ++ (if options.unwrapResponseData then "" else ", AxiosResponse") ++ " \x7d from 'axios';"

structure ImportsExact (document : Document) (options : ClientOptions) (typesModule : String) :
    Prop where
  present : document.emission.importedTypes ≠ [] → ∃ rest,
    document.clientLines options typesModule =
      ["// Auto-generated API client from OpenAPI specification", libraryLine options,
        "import type \x7b " ++ ", ".intercalate document.emission.importedTypes ++ " \x7d from '"
          ++ typesModule ++ "';",
        "", "export class " ++ options.clientName ++ " \x7b"] ++ rest
  absent : document.emission.importedTypes = [] → ∃ rest,
    document.clientLines options typesModule =
      ["// Auto-generated API client from OpenAPI specification", libraryLine options,
        "", "export class " ++ options.clientName ++ " \x7b"] ++ rest
  sorted : document.emission.importedTypes.Pairwise BytesLt
  distinct : document.emission.importedTypes.Nodup
  /-- The names are those of the types in the heads of the emitted methods. -/
  shown : ∀ name, name ∈ document.emission.importedTypes ↔
    ∃ emitted ∈ document.emission.methods, ∃ type ∈ emitted.method.shownTypes, name ∈ type.names
  written : ∀ emitted ∈ document.emission.methods, ∀ type ∈ emitted.method.shownTypes,
    Within (": " ++ type.text) (emitted.method.headLine options) ∨
      Within ("<" ++ type.text ++ ">") (emitted.method.headLine options)
  /-- The names are those of the references that operations with a method of their own show. -/
  referred : ∀ name, name ∈ document.emission.importedTypes ↔ ∃ endpoint id reference,
    FirstUse document endpoint id ∧ endpoint.operation.Shows document.components reference ∧
      referenceName reference = name
  nodes : ∀ node, NodeNames node

/-- A typed client imports the named types that its methods mention, and no others. -/
theorem client_imports_exact (document : Document) (options : ClientOptions) (typesModule : String)
    (typed : options.typed = true) : ImportsExact document options typesModule where
  present := by
    intro h
    simp only [Document.clientLines, importLines, typed, if_true, List.isEmpty_iff, if_neg h]
    exact ⟨_, by simp only [List.append_assoc]; rfl⟩
  absent := by
    intro h
    simp only [Document.clientLines, importLines, typed, if_true, List.isEmpty_iff, if_pos h]
    exact ⟨_, by simp only [List.append_assoc]; rfl⟩
  sorted := sortedNames_bytes _
  distinct := (sortedNames_pairwise _).imp ne_of_lt
  shown := fun _ => mem_importedTypes_shown
  written := fun _ _ _ h => shown_in_head typed h
  referred := fun _ => mem_importedTypes_source
  nodes := fun node => ⟨fun _ _ h => reaches_names h, unreaching_names node⟩

/-- Two operations under one identifier. The first returns arrays of arrays of users and has a
header of a further type; the second, which is skipped, would return groups. -/
def sharedIdentifier : Document :=
  let reference (name : String) : SchemaNode := .reference ("#/components/schemas/" ++ name) none
  let arrayOf (node : SchemaNode) : SchemaNode :=
    .inline { type := some (.single .array), items := some node }
  let returning (node : SchemaNode) : List (String × ResponseNode) :=
    [("404", .inline { content := [("application/json", ⟨some (reference "Problem")⟩)] }),
      ("200", .inline { content := [("application/json", ⟨some node⟩)] })]
  let header : Parameter :=
    { name := "trace", location := .header, schema := some (reference "Trace") }
  { paths := [("/users", ⟨[
      (.get, { operationId := some "list", parameters := [.inline header],
               responses := returning (arrayOf (arrayOf (reference "User"))) }),
      (.post, { operationId := some "list", responses := returning (reference "Group") })]⟩)] }

theorem shared_identifier_imports :
    ({} : ClientOptions).typed = true ∧ ImportsExact sharedIdentifier {} "./types" ∧
      sharedIdentifier.emission.importedTypes = ["User"] :=
  ⟨rfl, client_imports_exact sharedIdentifier {} "./types" rfl, by decide⟩

end OpenApiClient
