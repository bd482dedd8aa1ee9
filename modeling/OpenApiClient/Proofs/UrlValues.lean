import OpenApiClient.Proofs.UrlSubstitution
import Mathlib.Algebra.Order.BigOperators.Group.List
import Mathlib.Algebra.Order.Group.Nat

/-! What the address of a method evaluates to.
A placeholder stands for its own parameter unless a later parameter is called like the formal that has
replaced it. Where that does not happen, the address evaluates to the path with the values filled in,
in whatever order the parameters come. -/
namespace OpenApiClient

open Script (TemplateItem TemplatePart)

/-- No later parameter is called like the formal of an earlier one that the path shows. -/
def Clear (path : String) (bindings : List Binding) : Prop :=
  bindings.Pairwise fun earlier later =>
    placeholder earlier.name <:+: path.toList → later.name ≠ earlier.ident

instance (path : String) (bindings : List Binding) : Decidable (Clear path bindings) :=
  inferInstanceAs (Decidable (bindings.Pairwise fun earlier later : Binding =>
    placeholder earlier.name <:+: path.toList → later.name ≠ earlier.ident))

/-- The placeholder of each parameter replaced by the formal of that parameter, once. -/
def ownParts (bindings : List Binding) : List (String × List TemplatePart) :=
  bindings.map fun binding => (binding.name, [.expression binding.ident])

theorem ownParts_names (bindings : List Binding) :
    (ownParts bindings).map Prod.fst = bindings.map Binding.name := by
  rw [ownParts, List.map_map]
  rfl

theorem chainParts_own {ident : String} {bindings : List Binding}
    (h : ∀ later ∈ bindings, later.name ≠ ident) : chainParts ident bindings = [.expression ident] := by
  induction bindings with
  | nil => rfl
  | cons later rest ih =>
    obtain ⟨here, others⟩ := List.forall_mem_cons.mp h
    rw [chainParts, if_neg (Ne.symm here), ih others]

theorem chainParts_dollars {ident : String} {bindings : List Binding} :
    (chainParts ident bindings).count (.char '$') = 0 ↔ ∀ later ∈ bindings, later.name ≠ ident := by
  induction bindings generalizing ident with
  | nil => simp [chainParts]
  | cons later rest ih =>
    rw [chainParts, List.forall_mem_cons]
    by_cases same : ident = later.name
    · simp [same]
    · rw [if_neg same, ih]
      simp [Ne.symm same]

theorem filled_clear {path : String} {bindings : List Binding} (clear : Clear path bindings)
    {name : String} (shown : placeholder name <:+: path.toList) :
    (PathPiece.slot name).filled .char (slotParts bindings) =
      (PathPiece.slot name).filled .char (ownParts bindings) := by
  induction bindings with
  | nil => rfl
  | cons binding later ih =>
    obtain ⟨here, clear⟩ := List.pairwise_cons.mp clear
    rw [slotParts, ownParts, List.map_cons]
    by_cases same : binding.name = name
    · subst same
      rw [filled_here, filled_here, chainParts_own fun other mem => here other mem shown]
    · rw [filled_later same, filled_later same, ih clear]
      rfl

theorem clear_of_filled {path : String} {pieces : List PathPiece} (cut : Cut pieces)
    (spelled : spell pieces = path.toList) {bindings : List Binding} (bound : Bound bindings)
    (distinct : (bindings.map Binding.name).Nodup)
    (same : ∀ name, .slot name ∈ pieces →
      ((PathPiece.slot name).filled .char (slotParts bindings)).count (.char '$') =
        ((PathPiece.slot name).filled .char (ownParts bindings)).count (.char '$')) :
    Clear path bindings := by
  induction bindings with
  | nil => exact List.Pairwise.nil
  | cons binding later ih =>
    obtain ⟨first, distinct⟩ := List.nodup_cons.mp distinct
    obtain ⟨⟨plain, _⟩, bound⟩ := List.forall_mem_cons.mp bound
    simp only [slotParts, ownParts, List.map_cons] at same
    refine List.pairwise_cons.mpr ⟨?_, ih bound distinct ?_⟩
    · intro other mem shown
      rw [← spelled] at shown
      have counted := same binding.name (slot_of_occurs cut plain.1 shown)
      rw [filled_here, filled_here] at counted
      exact chainParts_dollars.mp (counted.trans (by simp)) other mem
    · intro name shown
      by_cases here : binding.name = name
      · subst here
        have chained : binding.name ∉ (slotParts later).map Prod.fst := by rwa [slotParts_names]
        have own : binding.name ∉ (ownParts later).map Prod.fst := by rwa [ownParts_names]
        rw [filled_absent chained, filled_absent own]
      · have counted := same name shown
        rwa [filled_later here, filled_later here] at counted

theorem ownParts_braceless {bindings : List Binding} (bound : Bound bindings) :
    ∀ slot ∈ ownParts bindings, Braceless slot.1.toList := by
  intro slot mem
  obtain ⟨binding, entered, rfl⟩ := List.mem_map.mp mem
  exact (bound binding entered).1.1

theorem fillPath_clear {path : String} {bindings : List Binding} (bound : Bound bindings)
    (clear : Clear path bindings) :
    fillPath .char (slotParts bindings) path = fillPath .char (ownParts bindings) path := by
  obtain ⟨pieces, cut, spelled⟩ := exists_cut path.toList
  rw [fillPath, fillPath, ← spelled, fillFrom_spell (slotParts_braceless bound) cut,
    fillFrom_spell (ownParts_braceless bound) cut]
  apply List.flatMap_congr
  intro piece mem
  cases piece with
  | char c => rfl
  | slot name =>
    have shown := occurs_of_slot mem
    rw [spelled] at shown
    exact filled_clear clear shown

theorem ownParts_dollars (bindings : List Binding) (piece : PathPiece) :
    (piece.filled .char (ownParts bindings)).count (.char '$') ≤
      (piece.filled .char (slotParts bindings)).count (.char '$') := by
  cases piece with
  | char c => rfl
  | slot name =>
    induction bindings with
    | nil => exact le_rfl
    | cons binding later ih =>
      rw [slotParts, ownParts, List.map_cons]
      by_cases same : binding.name = name
      · subst same
        rw [filled_here, filled_here]
        simp
      · rw [filled_later same, filled_later same]
        exact ih

theorem clear_of_reading {path : String} {bindings : List Binding} (bound : Bound bindings)
    (distinct : (bindings.map Binding.name).Nodup)
    (same : TemplateItem.settleLines (fillPath .char (slotParts bindings) path) =
      TemplateItem.settleLines (fillPath .char (ownParts bindings) path)) : Clear path bindings := by
  obtain ⟨pieces, cut, spelled⟩ := exists_cut path.toList
  have counted := congrArg (List.count (TemplatePart.char '$')) same
  rw [TemplateItem.count_settleLines _ (by decide) (by decide),
    TemplateItem.count_settleLines _ (by decide) (by decide), fillPath, fillPath, ← spelled,
    fillFrom_spell (slotParts_braceless bound) cut, fillFrom_spell (ownParts_braceless bound) cut,
    List.count_flatMap, List.count_flatMap] at counted
  apply clear_of_filled cut spelled bound distinct
  intro name mem
  by_contra longer
  have least : ∀ piece ∈ pieces, _ := fun piece _ => ownParts_dollars bindings piece
  have less := List.sum_lt_sum _ _ least
    ⟨.slot name, mem, lt_of_le_of_ne (ownParts_dollars bindings _) (Ne.symm longer)⟩
  exact less.ne' counted

def formalScope (bindings : List Binding) (value : String → String) (ident : String) :
    Option String :=
  (bindings.find? (·.ident = ident)).map fun binding => value binding.name

theorem formalScope_ident {bindings : List Binding} (distinct : (bindings.map Binding.ident).Nodup)
    (value : String → String) {binding : Binding} (mem : binding ∈ bindings) :
    formalScope bindings value binding.ident = some (value binding.name) := by
  have unique : ∀ other ∈ bindings, other.ident = binding.ident → other = binding := by
    intro other there same
    exact List.inj_on_of_nodup_map distinct there mem same
  have found : (bindings.find? (·.ident = binding.ident)).isSome := by
    rw [List.find?_isSome]
    exact ⟨binding, mem, by simp⟩
  obtain ⟨other, found⟩ := Option.isSome_iff_exists.mp found
  have called : other.ident = binding.ident := by simpa using List.find?_some found
  rw [formalScope, found, Option.map_some, unique other (List.mem_of_find?_eq_some found) called]

def valueParts (value : String → String) (names : List String) (path : String) :
    List TemplatePart :=
  fillPath .char (names.map fun name => (name, [.expression (value name)])) path

theorem valueParts_chars (value : String → String) (names : List String) {path : String}
    (lines : '\r' ∉ path.toList) :
    (TemplateItem.settleLines (valueParts value names path)).flatMap (·.chars id) =
      fillPath (fun c => c) (names.map fun name => (name, (value name).toList)) path := by
  have lineless : .char '\r' ∉ valueParts value names path := by
    intro mem
    rcases mem_fillFrom mem with ⟨c, inside, same⟩ | ⟨_, slot, mem⟩
    · cases same
      exact lines inside
    · obtain ⟨name, _, rfl⟩ := List.mem_map.mp slot
      cases List.mem_singleton.mp mem
  have chars : ∀ c, (TemplatePart.char c).chars id = [c] := fun c => rfl
  rw [TemplateItem.settleLines_plain lineless, valueParts, fillPath, fillFrom_flatMap chars,
    List.map_map, fillPath]
  simp only [Function.comp_def, List.flatMap_singleton, TemplatePart.chars, id]

theorem templateValue_clear {path : String} {bindings : List Binding} (bound : Bound bindings)
    (distinct : (bindings.map Binding.ident).Nodup) (clear : Clear path bindings)
    (value : String → String) :
    Script.templateValue (formalScope bindings value) (urlLiteral path bindings) =
      some (.ofList ((TemplateItem.settleLines
        (valueParts value (bindings.map Binding.name) path)).flatMap (·.chars id))) := by
  have read := urlLiteral_parts bound path
  rw [fillPath_clear bound clear] at read
  let given (source : String) : String := (formalScope bindings value source).getD ""
  have known : ∀ source, .expression source ∈
      TemplateItem.settleLines (fillPath .char (ownParts bindings) path) →
        formalScope bindings value source = some (given source) := by
    intro source mem
    rcases mem_fillFrom (TemplateItem.expression_settleLines mem) with ⟨c, _, other⟩ | ⟨_, slot, mem⟩
    · cases other
    · obtain ⟨binding, entered, rfl⟩ := List.mem_map.mp slot
      cases List.mem_singleton.mp mem
      simp only [given, formalScope_ident distinct value entered, Option.getD_some]
  have slots : (ownParts bindings).map (fun slot => (slot.1, slot.2.flatMap ([·.rename given]))) =
      (bindings.map Binding.name).map fun name => (name, [.expression (value name)]) := by
    rw [ownParts, List.map_map, List.map_map]
    apply List.map_congr_left
    intro binding mem
    simp [given, formalScope_ident distinct value mem, TemplatePart.rename]
  have chars : ∀ c, [(TemplatePart.char c).rename given] = [.char c] := fun c => rfl
  have renamed : (fillPath .char (ownParts bindings) path).map (·.rename given) =
      valueParts value (bindings.map Binding.name) path := by
    rw [List.map_eq_flatMap, fillPath, fillFrom_flatMap chars, slots]
    rfl
  rw [Script.templateValue_read read known, ← renamed, TemplateItem.settleLines_rename,
    List.flatMap_map]
  simp only [TemplatePart.rename_chars]

theorem bindParameters_braceless {taken : List String} {parameters : List Parameter}
    {binding : Binding} (h : binding ∈ bindParameters taken parameters) :
    Braceless binding.ident.toList := by
  have braces : ∀ c, isBrace c = true → Foreign c := by
    intro c brace
    have same : c = '\x7b' ∨ c = '\x7d' := by simpa [isBrace] using brace
    rcases same with rfl | rfl
    · decide
    · decide
  intro c inside
  rw [← Bool.not_eq_true]
  intro brace
  exact (bindParameters_word h).2 c inside (braces c brace)

theorem bound_parameters {parameters : List Parameter}
    (plain : ∀ parameter ∈ parameters, PlainName parameter.name) (taken : List String) :
    Bound (bindParameters taken parameters) := by
  intro binding mem
  constructor
  · have called : binding.name ∈ parameters.map Parameter.name := by
      rw [← bindParameters_names taken]
      exact List.mem_map_of_mem mem
    obtain ⟨parameter, entered, same⟩ := List.mem_map.mp called
    rw [← same]
    exact plain parameter entered
  · exact bindParameters_braceless mem

/-- Where no parameter is called like the formal of an earlier one, the address of a method evaluates
to its path with the value of each parameter in the place of every placeholder that has its name. -/
theorem url_fills_path {operation : Operation} {components : Components} {verb : HttpMethod}
    {path : String} {emitted : EmittedMethod}
    (h : operation.emit? components verb path = some emitted)
    (plain : ∀ parameter ∈ operation.parametersIn components .path, PlainName parameter.name)
    (apart : emitted.method.pathBindings.Pairwise fun earlier later => later.name ≠ earlier.ident)
    (lines : '\r' ∉ path.toList) (value : String → String) :
    Script.templateValue (formalScope emitted.method.pathBindings value) emitted.method.call.url =
      some (.ofList (fillPath (fun c => c) ((operation.parametersIn components .path).map
        fun parameter => (parameter.name, (value parameter.name).toList)) path)) := by
  obtain ⟨name, _, rfl⟩ := Option.map_eq_some_iff.mp h
  have clear : Clear path (bindParameters [] (operation.parametersIn components .path)) := by
    refine List.Pairwise.imp ?_ apart
    intro earlier later other _
    exact other
  have evaluated := templateValue_clear (bound_parameters plain [])
    (bindParameters_apart [] _).1 clear value
  rw [bindParameters_names, valueParts_chars value _ lines, List.map_map] at evaluated
  exact evaluated

def pathOperation (names : List String) : Operation where
  operationId := some "show"
  parameters := names.map fun name => .inline { name, location := .path }

def mixedPath : String :=
  "/a\\$\x7bid\x7d/`x`/$$\x7bid\x7d/\x7borg-id\x7d\x7bid\x7d\x7b\x7bid\x7d\x7d\x7bother\x7d"

theorem mixed_path_filled : ∃ emitted,
    (pathOperation ["id", "org-id"]).emit? {} .get mixedPath = some emitted ∧
    Script.templateValue
        (formalScope emitted.method.pathBindings fun name => if name = "id" then "7" else "`$\\")
        emitted.method.call.url = some "/a\\$7/`x`/$$7/`$\\7\x7b7\x7d\x7bother\x7d" := by
  have emitted : (pathOperation ["id", "org-id"]).emit? {} .get mixedPath =
      some ⟨(pathOperation ["id", "org-id"]).method {} .get mixedPath "show", [],
        [.noSuccessResponse "show" .get mixedPath]⟩ := by rfl
  have filled := url_fills_path emitted (by decide) (by decide +kernel) (by decide)
    fun name => if name = "id" then "7" else "`$\\"
  refine ⟨_, emitted, filled.trans ?_⟩
  decide +kernel

structure PlaceholdersStand (path : String) (parameters : List Parameter) : Prop where
  chains : Script.templateParts (urlLiteral path (bindParameters [] parameters)) =
    some (TemplateItem.settleLines (fillPath .char (slotParts (bindParameters [] parameters)) path))
  own : Script.templateParts (urlLiteral path (bindParameters [] parameters)) =
      some (TemplateItem.settleLines (fillPath .char (ownParts (bindParameters [] parameters)) path)) ↔
    Clear path (bindParameters [] parameters)
  order : ∀ others : List Parameter, others.Perm parameters →
    Clear path (bindParameters [] parameters) → Clear path (bindParameters [] others) →
    ∀ value, Script.templateValue (formalScope (bindParameters [] others) value)
        (urlLiteral path (bindParameters [] others)) =
      Script.templateValue (formalScope (bindParameters [] parameters) value)
        (urlLiteral path (bindParameters [] parameters))

/-- Placeholders stand for their own parameters, in whatever order these come, just where no later
parameter is called like the formal of one that the path shows. -/
theorem placeholders_stand (path : String) {parameters : List Parameter}
    (plain : ∀ parameter ∈ parameters, PlainName parameter.name)
    (distinct : (parameters.map Parameter.name).Nodup) : PlaceholdersStand path parameters := by
  have bound := bound_parameters plain []
  have chains := urlLiteral_parts bound path
  refine ⟨chains, ?_, ?_⟩
  · rw [chains, Option.some_inj]
    constructor
    · apply clear_of_reading bound
      rwa [bindParameters_names]
    · intro clear
      rw [fillPath_clear bound clear]
  · intro others same clear clear' value
    have plain' : ∀ parameter ∈ others, PlainName parameter.name := by
      intro parameter mem
      exact plain parameter (same.mem_iff.mp mem)
    have inside : ∀ name ∈ parameters.map Parameter.name, Braceless name.toList := by
      intro name mem
      obtain ⟨parameter, entered, rfl⟩ := List.mem_map.mp mem
      exact (plain parameter entered).1
    rw [templateValue_clear (bound_parameters plain' []) (bindParameters_apart [] others).1 clear',
      templateValue_clear bound (bindParameters_apart [] parameters).1 clear, bindParameters_names,
      bindParameters_names, valueParts, valueParts, fillPath_perm (same.map _) _ _ inside]

theorem lookalike_placeholders_stand :
    let parameters : List Parameter := ["userId", "user-id"].map ({ name := ·, location := .path })
    PlaceholdersStand "/\x7buser-id\x7d/\x7buserId\x7d" parameters ∧
      Clear "/\x7buser-id\x7d/\x7buserId\x7d" (bindParameters [] parameters) ∧
      ¬ Clear "/\x7buser-id\x7d/\x7buserId\x7d" (bindParameters [] parameters.reverse) :=
  ⟨placeholders_stand _ (by decide) (by decide), by decide +kernel, by decide +kernel⟩

/-- In one order the formal of the second parameter takes the place of both. -/
theorem lookalike_order_matters :
    let value (name : String) : String := if name = "user-id" then "7" else "8"
    let evaluated (names : List String) : Option (Option String) :=
      ((pathOperation names).emit? {} .get "/\x7buser-id\x7d/\x7buserId\x7d").map fun emitted =>
        Script.templateValue (formalScope emitted.method.pathBindings value) emitted.method.call.url
    evaluated ["user-id", "userId"] = some (some "/$8/8") ∧
      evaluated ["userId", "user-id"] = some (some "/7/8") := by
  constructor
  · decide +kernel
  · decide +kernel

end OpenApiClient
