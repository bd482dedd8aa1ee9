import OpenApiClient.Script
import Mathlib.Data.Nat.Notation

/-! The named type that a schema stands for, and the text of that type.
`Reaches` follows a node through array items only. The names of a node and the text of its type
are two recursions of their own; both are determined by what the node reaches. -/
namespace OpenApiClient

/-- A node that is a reference, or leads to one through a number of array items. -/
inductive SchemaNode.Reaches : SchemaNode → ℕ → String → Prop where
  | reference (path description) : Reaches (.reference path description) 0 path
  | items {schema : Schema} {node depth path} : schema.primaryType = some .array →
      schema.items = some node → Reaches node depth path →
      Reaches (.inline schema) (depth + 1) path

/-- A type under array brackets as a text; what holds a bar stands in parentheses. -/
def underBrackets (depth : ℕ) (text : String) : String :=
  if '|' ∈ text.toList then
    .ofList (List.replicate depth '(' ++ text.toList ++ (List.replicate depth [')', '[', ']']).flatten)
  else .ofList (text.toList ++ (List.replicate depth ['[', ']']).flatten)

inductive BuiltIn : String → Prop where
  | word {text} : text ∈ ["any", "string", "number", "boolean", "object", "Record<string, any>"] →
      BuiltIn text
  | union (values : List Json) : values ≠ [] →
      BuiltIn (" | ".intercalate (values.map fun value => Script.singleQuoted value.literalText))

def TypeExpr.names : TypeExpr → List String
  | named name => [name]
  | array item => item.names
  | _ => []

@[simp] theorem underBrackets_zero (text : String) : underBrackets 0 text = text := by
  simp [underBrackets]

theorem bar_underBrackets (depth : ℕ) (text : String) :
    '|' ∈ (underBrackets depth text).toList ↔ '|' ∈ text.toList := by
  unfold underBrackets
  split <;> rename_i h <;> simp [h]

private theorem flatten_replicate_succ (depth : ℕ) (piece : List Char) :
    (List.replicate (depth + 1) piece).flatten = (List.replicate depth piece).flatten ++ piece := by
  rw [List.replicate_succ', List.flatten_append, List.flatten_singleton]

theorem underBrackets_bar {depth : ℕ} {text : String} (h : '|' ∈ text.toList) :
    underBrackets (depth + 1) text = "(" ++ underBrackets depth text ++ ")[]" := by
  apply String.toList_injective
  simp only [underBrackets, if_pos h, flatten_replicate_succ]
  simp [List.replicate_succ]

theorem underBrackets_plain {depth : ℕ} {text : String} (h : '|' ∉ text.toList) :
    underBrackets (depth + 1) text = underBrackets depth text ++ "[]" := by
  apply String.toList_injective
  simp only [underBrackets, if_neg h, flatten_replicate_succ]
  simp

theorem text_array {type : TypeExpr} {depth : ℕ} {base : String}
    (h : type.text = underBrackets depth base) :
    (TypeExpr.array type).text = underBrackets (depth + 1) base := by
  simp only [TypeExpr.text, h, List.contains_iff_mem, bar_underBrackets]
  by_cases hb : '|' ∈ base.toList
  · rw [if_pos hb, underBrackets_bar hb]
  · rw [if_neg hb, underBrackets_plain hb]

theorem typeExpr_items {schema : Schema} {node : SchemaNode}
    (ht : schema.primaryType = some .array) (hi : schema.items = some node) :
    (SchemaNode.inline schema).typeExpr = .array node.typeExpr := by
  cases schema
  cases hi
  simp only [SchemaNode.typeExpr]
  exact if_pos ht

theorem typeExpr_array {schema : Schema}
    (ht : schema.primaryType = some .array) (hi : schema.items = none) :
    (SchemaNode.inline schema).typeExpr = .array .any := by
  cases schema
  cases hi
  simp only [SchemaNode.typeExpr]
  exact if_pos ht

theorem typeExpr_scalar {schema : Schema} (ht : schema.primaryType ≠ some .array) :
    (SchemaNode.inline schema).typeExpr = schema.scalarType := by
  rcases schema with ⟨type, format, description, properties, required, additional, items, values⟩
  cases items <;> exact if_neg ht

theorem referenceNames_items {schema : Schema} {node : SchemaNode}
    (ht : schema.primaryType = some .array) (hi : schema.items = some node) :
    (SchemaNode.inline schema).referenceNames = node.referenceNames := by
  cases schema
  cases hi
  simp only [SchemaNode.referenceNames]
  exact if_pos ht

theorem referenceNames_none {schema : Schema}
    (h : schema.primaryType ≠ some .array ∨ schema.items = none) :
    (SchemaNode.inline schema).referenceNames = [] := by
  rcases schema with ⟨type, format, description, properties, required, additional, items, values⟩
  cases items with
  | none => rfl
  | some node => exact if_neg (h.resolve_right (by simp))

/-- Induction through the items of arrays, which is how the recursions on nodes go. -/
theorem SchemaNode.items_induction {motive : SchemaNode → Prop}
    (reference : ∀ path description, motive (.reference path description))
    (items : ∀ schema node, schema.primaryType = some .array → schema.items = some node →
      motive node → motive (.inline schema))
    (array : ∀ schema, schema.primaryType = some .array → schema.items = none →
      motive (.inline schema))
    (scalar : ∀ schema, schema.primaryType ≠ some .array → motive (.inline schema))
    (node : SchemaNode) : motive node := by
  fun_induction SchemaNode.typeExpr node with
  | case1 path description => exact reference path description
  | case2 _ _ _ _ _ _ node _ ht ih => exact items _ node ht rfl ih
  | case3 _ _ _ _ _ _ _ _ ht => exact scalar _ ht
  | case4 _ _ _ _ _ _ _ ht => exact array _ ht rfl
  | case5 _ _ _ _ _ _ _ ht => exact scalar _ ht

theorem reaches_names {node : SchemaNode} {depth : ℕ} {path : String}
    (h : node.Reaches depth path) :
    node.referenceNames = [referenceName path] ∧
      node.typeExpr.text = underBrackets depth (referenceName path) := by
  induction h with
  | reference path description => exact ⟨rfl, (underBrackets_zero _).symm⟩
  | items ht hi _ ih =>
    rw [referenceNames_items ht hi, typeExpr_items ht hi]
    exact ⟨ih.1, text_array ih.2⟩

theorem builtIn_scalarType (schema : Schema) : BuiltIn schema.scalarType.text := by
  unfold Schema.scalarType
  cases schema.primaryType with
  | none => exact .word (by simp [TypeExpr.text])
  | some type =>
    cases type with
    | string =>
      by_cases hv : schema.enumValues = []
      · have word : BuiltIn TypeExpr.string.text := .word (by simp [TypeExpr.text])
        simpa [hv] using word
      · simpa [hv, TypeExpr.text, Function.comp_def] using BuiltIn.union schema.enumValues hv
    | object =>
      cases schema.isOpen with
      | true => exact .word (by simp [TypeExpr.text])
      | false => exact .word (by simp [TypeExpr.text])
    | _ => exact .word (by simp [TypeExpr.text])

theorem names_scalarType (schema : Schema) : schema.scalarType.names = [] := by
  unfold Schema.scalarType
  split
  · split <;> rfl
  · rfl
  · rfl
  · rfl
  · split <;> rfl
  · rfl

theorem unreaching_names (node : SchemaNode) (h : ∀ depth path, ¬ node.Reaches depth path) :
    node.referenceNames = [] ∧
      ∃ depth base, BuiltIn base ∧ node.typeExpr.text = underBrackets depth base := by
  induction node using SchemaNode.items_induction with
  | reference path description => exact (h 0 path (.reference path description)).elim
  | items schema node ht hi ih =>
    have inner : ∀ depth path, ¬ node.Reaches depth path := fun depth path hr =>
      h (depth + 1) path (.items ht hi hr)
    obtain ⟨names, depth, base, hb, text⟩ := ih inner
    rw [referenceNames_items ht hi, typeExpr_items ht hi]
    exact ⟨names, depth + 1, base, hb, text_array text⟩
  | array schema ht hi =>
    rw [typeExpr_array ht hi]
    exact ⟨referenceNames_none (.inr hi), 1, "any", .word (by simp),
      text_array (underBrackets_zero _).symm⟩
  | scalar schema ht =>
    rw [typeExpr_scalar ht]
    exact ⟨referenceNames_none (.inl ht), 0, _, builtIn_scalarType schema,
      (underBrackets_zero _).symm⟩

/-- The type of a node names what the node refers to: the two recursions stay in step. -/
theorem names_typeExpr (node : SchemaNode) : node.typeExpr.names = node.referenceNames := by
  induction node using SchemaNode.items_induction with
  | reference path description => rfl
  | items schema node ht hi ih =>
    rw [referenceNames_items ht hi, typeExpr_items ht hi, TypeExpr.names, ih]
  | array schema ht hi =>
    rw [referenceNames_none (.inr hi), typeExpr_array ht hi]
    rfl
  | scalar schema ht =>
    rw [referenceNames_none (.inl ht), typeExpr_scalar ht, names_scalarType]

theorem mem_referenceNames {node : SchemaNode} {name : String} :
    name ∈ node.referenceNames ↔
      ∃ depth path, node.Reaches depth path ∧ referenceName path = name := by
  constructor
  · intro h
    by_cases hr : ∃ depth path, node.Reaches depth path
    · obtain ⟨depth, path, hr⟩ := hr
      rw [(reaches_names hr).1, List.mem_singleton] at h
      exact ⟨depth, path, hr, h.symm⟩
    · rw [(unreaching_names node fun depth path h => hr ⟨depth, path, h⟩).1] at h
      cases h
  · rintro ⟨depth, path, hr, rfl⟩
    simp [(reaches_names hr).1]

end OpenApiClient
