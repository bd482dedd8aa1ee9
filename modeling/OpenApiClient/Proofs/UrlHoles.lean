import OpenApiClient.Proofs.PathPlaceholders
import OpenApiClient.Proofs.ScriptLiterals

/-! The substitutions in the address of a method, whatever its parameters are called.
A placeholder begins with an opening brace and ends with a closing one. No escape has a brace, so
replacing a placeholder cuts no escape. It may swallow substitutions from their opening brace on, and
then leaves their dollars before the substitution that it makes. -/
namespace OpenApiClient

open Script (TemplateItem TemplatePart templateQuote readTemplate)

def holeNames (items : List TemplateItem) : List String :=
  items.filterMap fun
    | .char _ => none
    | .hole _ ident => some ident

@[simp] theorem holeNames_char (c : Char) (items : List TemplateItem) :
    holeNames (.char c :: items) = holeNames items := rfl

@[simp] theorem holeNames_hole (dollars : ℕ) (ident : String) (items : List TemplateItem) :
    holeNames (.hole dollars ident :: items) = ident :: holeNames items := rfl

theorem holeNames_chars (text : List Char) : holeNames (text.map .char) = [] := by
  induction text with
  | nil => rfl
  | cons c rest ih => exact ih

theorem holeNames_append (items more : List TemplateItem) :
    holeNames (items ++ more) = holeNames items ++ holeNames more := List.filterMap_append

theorem holeNames_later (before after : List TemplateItem) :
    holeNames after ⊆ holeNames (before ++ after) := by
  rw [holeNames_append]
  exact List.subset_append_right _ _

theorem mem_holeNames {dollars : ℕ} {ident : String} {items : List TemplateItem}
    (h : .hole dollars ident ∈ items) : ident ∈ holeNames items :=
  List.mem_filterMap.mpr ⟨_, h, rfl⟩

theorem expression_holeNames {ident : String} {items : List TemplateItem}
    (h : .expression ident ∈ items.flatMap TemplateItem.parts) : ident ∈ holeNames items := by
  obtain ⟨item, mem, shown⟩ := List.mem_flatMap.mp h
  cases item with
  | char c => simp [TemplateItem.parts] at shown
  | hole dollars other =>
    obtain rfl : ident = other := by simpa [TemplateItem.parts] using shown
    exact mem_holeNames mem

def PlainHoles (items : List TemplateItem) : Prop :=
  ∀ ident ∈ holeNames items, Braceless ident.toList

theorem PlainHoles.subset {items more : List TemplateItem} (h : PlainHoles items)
    (inside : holeNames more ⊆ holeNames items) : PlainHoles more :=
  fun ident mem => h ident (inside mem)

/-- What is written for an item, by whether a brace comes next. -/
def unitText (opens : Bool) : TemplateItem → List Char
  | .char c => if c = '\\' ∨ c = templateQuote ∨ c = '$' ∧ opens then ['\\', c] else [c]
  | .hole dollars ident => TemplateItem.holeText dollars ident

theorem write_unit (item : TemplateItem) (rest : List TemplateItem) :
    TemplateItem.write (item :: rest) =
      unitText (TemplateItem.opensBrace rest) item ++ TemplateItem.write rest := by
  cases item <;> rfl

theorem opensBrace_head (item : TemplateItem) (rest more : List TemplateItem) :
    TemplateItem.opensBrace (item :: rest) = TemplateItem.opensBrace (item :: more) := by
  cases item <;> rfl

theorem unitText_ne_nil (opens : Bool) (item : TemplateItem) : unitText opens item ≠ [] := by
  cases item with
  | char c =>
    simp only [unitText]
    split <;> simp
  | hole dollars ident => simp [unitText, TemplateItem.holeText]

theorem unitText_last {item : TemplateItem} {rest : List TemplateItem}
    (plain : PlainHoles (item :: rest)) (opens : Bool) : '\x7d' ∉ (unitText opens item).dropLast := by
  cases item with
  | char c =>
    simp only [unitText]
    split <;> simp
  | hole dollars ident =>
    have inside : Braceless ident.toList := plain ident List.mem_cons_self
    rw [unitText, TemplateItem.holeText, List.dropLast_concat]
    simp [inside.closing]

theorem write_behind {items : List TemplateItem} (plain : PlainHoles items) {front rest : List Char}
    (h : TemplateItem.write items = front ++ '\x7d' :: rest) :
    ∃ before after, items = before ++ after ∧ rest = TemplateItem.write after := by
  induction items generalizing front with
  | nil => simp [TemplateItem.write] at h
  | cons item items ih =>
    have last := unitText_last plain (TemplateItem.opensBrace items)
    have others : PlainHoles items := plain.subset (holeNames_later [item] items)
    rw [write_unit] at h
    rcases List.append_eq_append_iff.mp h with ⟨more, _, behind⟩ | ⟨more, same, behind⟩
    · obtain ⟨before, after, rfl, tail⟩ := ih others behind
      exact ⟨item :: before, after, rfl, tail⟩
    · cases more with
      | nil =>
        obtain ⟨before, after, rfl, tail⟩ := ih others (behind.symm.trans (List.nil_append _).symm)
        exact ⟨item :: before, after, rfl, tail⟩
      | cons c more =>
        obtain ⟨rfl, tail⟩ := List.cons.inj behind
        have none : more = [] := by
          by_contra held
          rw [same, List.dropLast_append_of_ne_nil (by simp), List.dropLast_cons_of_ne_nil held] at last
          simp at last
        rw [none] at tail
        exact ⟨[item], items, rfl, tail⟩

section Replacing

variable {name : String} {replacement : List Char}

theorem fillFrom_found (after : List Char) :
    fillFrom id [(name, replacement)] 0 (placeholder name ++ after) =
      replacement ++ fillFrom id [(name, replacement)] 0 after := by
  have front : (placeholder name).isPrefixOf (placeholder name ++ after) = true :=
    List.isPrefixOf_iff_prefix.mpr (List.prefix_append _ _)
  exact fillFrom_entry (name, replacement) (by rw [List.find?_singleton, if_pos front])

theorem fillFrom_passed {c : Char} {rest : List Char} (h : ¬ placeholder name <+: c :: rest) :
    fillFrom id [(name, replacement)] 0 (c :: rest) =
      c :: fillFrom id [(name, replacement)] 0 rest := by
  apply fillFrom_char
  intro slot mem
  rwa [List.mem_singleton.mp mem]

theorem fillFrom_unit {item : TemplateItem} {rest : List TemplateItem} {tail : List Char}
    (plain : PlainHoles (item :: rest)) (opens : Bool)
    (char : ∀ c, item = .char c → ¬ placeholder name <+: c :: tail)
    (hole : ∀ dollars ident, item = .hole dollars ident →
      ¬ placeholder name <+: placeholder ident ++ tail) :
    fillFrom id [(name, replacement)] 0 (unitText opens item ++ tail) =
      unitText opens item ++ fillFrom id [(name, replacement)] 0 tail := by
  cases item with
  | char c =>
    have backslash : ∀ rest, ¬ placeholder name <+: '\\' :: rest := by
      rintro rest ⟨after, whole⟩
      exact absurd (List.cons.inj whole).1 (by decide)
    simp only [unitText]
    split
    · exact (fillFrom_passed (backslash _)).trans
        (congrArg (List.cons '\\') (fillFrom_passed (char c rfl)))
    · exact fillFrom_passed (char c rfl)
  | hole dollars ident =>
    have inside : Braceless ident.toList := plain ident List.mem_cons_self
    have dollar : '\x7b' ∉ List.replicate (dollars + 1) '$' := by simp
    have back : '\x7b' ∉ ident.toList ++ ['\x7d'] := by simp [inside.opening]
    have begins := hole dollars ident rfl
    have letters : ∀ rest, unitText opens (.hole dollars ident) ++ rest =
        List.replicate (dollars + 1) '$' ++ '\x7b' :: (ident.toList ++ ['\x7d'] ++ rest) := by
      intro rest
      simp [unitText, TemplateItem.holeText, List.replicate_succ']
    have brace : placeholder ident ++ tail = '\x7b' :: (ident.toList ++ ['\x7d'] ++ tail) := by
      simp [placeholder]
    rw [brace] at begins
    rw [letters, letters, fillFrom_plain dollar, fillFrom_passed begins, fillFrom_plain back]
    simp only [List.map_id]

/-- What comes of items when one placeholder is replaced in what is written for them. -/
structure Replaced (name ident : String) (items after : List TemplateItem) : Prop where
  filled : fillFrom id [(name, substitution ident)] 0 (TemplateItem.write items) =
    TemplateItem.write after
  opens : TemplateItem.opensBrace after = TemplateItem.opensBrace items
  names : holeNames after ⊆ ident :: holeNames items

variable {ident : String} {rest later : List TemplateItem}

theorem Replaced.swallow (h : Replaced name ident rest later) {items : List TemplateItem}
    {dollars : ℕ} (opens : TemplateItem.opensBrace items = true)
    (inside : holeNames rest ⊆ holeNames items)
    (whole : TemplateItem.write items =
      List.replicate dollars '$' ++ (placeholder name ++ TemplateItem.write rest)) :
    Replaced name ident items (.hole dollars ident :: later) := by
  have dollar : '\x7b' ∉ List.replicate dollars '$' := by simp
  refine ⟨?_, opens.symm, ?_⟩
  · rw [whole, fillFrom_plain dollar, fillFrom_found, h.filled]
    simp [TemplateItem.write, TemplateItem.holeText, substitution]
  · rw [holeNames_hole, List.cons_subset]
    exact ⟨List.mem_cons_self, List.Subset.trans h.names (List.cons_subset_cons ident inside)⟩

theorem Replaced.pass (h : Replaced name ident rest later) {item : TemplateItem}
    (plain : PlainHoles (item :: rest))
    (char : ∀ c, item = .char c → ¬ placeholder name <+: c :: TemplateItem.write rest)
    (hole : ∀ dollars other, item = .hole dollars other →
      ¬ placeholder name <+: placeholder other ++ TemplateItem.write rest) :
    Replaced name ident (item :: rest) (item :: later) := by
  refine ⟨?_, opensBrace_head item later rest, ?_⟩
  · rw [write_unit, fillFrom_unit plain _ char hole, h.filled, write_unit, h.opens]
  · cases item with
    | char c => exact h.names
    | hole dollars other =>
      rw [holeNames_hole, holeNames_hole, List.cons_subset]
      exact ⟨by simp, List.Subset.trans h.names (List.cons_subset_cons ident (List.subset_cons_self _ _))⟩

end Replacing

theorem exists_replaced {items : List TemplateItem} (plain : PlainHoles items) (name ident : String) :
    ∃ after, Replaced name ident items after := by
  -- By the length of the text, since a placeholder may reach over several items.
  induction size : (TemplateItem.write items).length using Nat.strongRecOn generalizing items with
  | _ n ih =>
    subst size
    have swallowed : ∀ dollars after, TemplateItem.opensBrace items = true →
        TemplateItem.write items = List.replicate dollars '$' ++ (placeholder name ++ after) →
        ∃ after, Replaced name ident items after := by
      intro dollars after opens whole
      have ends : TemplateItem.write items =
          (List.replicate dollars '$' ++ '\x7b' :: name.toList) ++ '\x7d' :: after := by
        rw [whole]
        simp [placeholder]
      obtain ⟨before, rest, split, rfl⟩ := write_behind plain ends
      have inside : holeNames rest ⊆ holeNames items := split ▸ holeNames_later before rest
      have shorter : (TemplateItem.write rest).length < (TemplateItem.write items).length := by
        rw [whole, List.length_append, List.length_append, placeholder, List.length_append,
          List.length_cons]
        omega
      obtain ⟨later, replaced⟩ := ih _ shorter (plain.subset inside) rfl
      exact ⟨_, replaced.swallow opens inside whole⟩
    cases items with
    | nil => exact ⟨[], rfl, rfl, by simp [holeNames]⟩
    | cons item rest =>
      have shorter : (TemplateItem.write rest).length <
          (TemplateItem.write (item :: rest)).length := by
        have held := List.length_pos_iff.mpr (unitText_ne_nil (TemplateItem.opensBrace rest) item)
        rw [write_unit, List.length_append]
        omega
      obtain ⟨later, replaced⟩ := ih _ shorter (plain.subset (holeNames_later [item] rest)) rfl
      cases item with
      | char c =>
        by_cases here : placeholder name <+: c :: TemplateItem.write rest
        · obtain ⟨after, whole⟩ := here
          obtain rfl : '\x7b' = c := (List.cons.inj whole).1
          refine swallowed 0 after rfl ?_
          rw [whole]
          rfl
        · exact ⟨_, replaced.pass plain (by rintro _ ⟨⟩; exact here) (by rintro _ _ ⟨⟩)⟩
      | hole dollars other =>
        by_cases here : placeholder name <+: placeholder other ++ TemplateItem.write rest
        · obtain ⟨after, whole⟩ := here
          refine swallowed (dollars + 1) after rfl ?_
          rw [whole]
          simp [TemplateItem.write, TemplateItem.holeText, placeholder, List.replicate_succ']
        · exact ⟨_, replaced.pass plain (by rintro _ ⟨⟩) (by rintro _ _ ⟨⟩; exact here)⟩

theorem foldl_written {bindings : List Binding}
    (inside : ∀ binding ∈ bindings, Braceless binding.ident.toList) {items : List TemplateItem}
    (plain : PlainHoles items) : ∃ after,
      bindings.foldl (fun url binding =>
          Text.replaceAll (placeholder binding.name) (substitution binding.ident) url)
        (TemplateItem.write items) = TemplateItem.write after ∧
      holeNames after ⊆ bindings.map Binding.ident ++ holeNames items := by
  induction bindings generalizing items with
  | nil => exact ⟨items, rfl, by simp⟩
  | cons binding rest ih =>
    obtain ⟨here, others⟩ := List.forall_mem_cons.mp inside
    obtain ⟨next, replaced⟩ := exists_replaced plain binding.name binding.ident
    have plainNext : PlainHoles next := by
      intro ident mem
      rcases List.mem_cons.mp (replaced.names mem) with rfl | mem
      · exact here
      · exact plain ident mem
    obtain ⟨after, folded, names⟩ := ih others plainNext
    refine ⟨after, ?_, ?_⟩
    · rw [List.foldl_cons, replaceAll_eq_fill, replaced.filled, folded]
    · intro ident mem
      rcases List.mem_append.mp (names mem) with mem | mem
      · simp [mem]
      · rcases List.mem_cons.mp (replaced.names mem) with rfl | mem
        · simp
        · simp [mem]

/-- Whatever the path is and the parameters are called, the address is written for items in which only
the formals of the parameters are substituted. -/
theorem urlTemplate_items {bindings : List Binding}
    (inside : ∀ binding ∈ bindings, Braceless binding.ident.toList) (path : String) :
    ∃ items, urlTemplate path bindings = TemplateItem.write items ∧
      holeNames items ⊆ bindings.map Binding.ident := by
  have escaped : TemplateItem.write (path.toList.map .char) = Script.escapeTemplate path.toList := by
    have nothing : TemplateItem.opensBrace [] = false := rfl
    simpa [TemplateItem.write] using TemplateItem.write_chars nothing path.toList
  have none : PlainHoles (path.toList.map .char) := by simp [PlainHoles, holeNames_chars]
  obtain ⟨items, folded, names⟩ := foldl_written inside none
  refine ⟨items, ?_, ?_⟩
  · rw [urlTemplate, ← escaped, folded]
  · rwa [holeNames_chars, List.append_nil] at names

theorem readTemplate_url {bindings : List Binding}
    (inside : ∀ binding ∈ bindings, Braceless binding.ident.toList) (path : String) :
    ∃ parts, (∀ behind, readTemplate (urlTemplate path bindings ++ templateQuote :: behind) =
        some (parts, behind)) ∧
      ∀ source, .expression source ∈ parts → source ∈ bindings.map Binding.ident := by
  obtain ⟨items, written, names⟩ := urlTemplate_items inside path
  have closed : ∀ dollars ident, .hole dollars ident ∈ items → '\x7d' ∉ ident.toList := by
    intro dollars ident mem
    obtain ⟨binding, entered, rfl⟩ := List.mem_map.mp (names (mem_holeNames mem))
    exact (inside binding entered).closing
  refine ⟨_, fun behind => written ▸ TemplateItem.readTemplate_write closed behind, ?_⟩
  intro source mem
  exact names (expression_holeNames (TemplateItem.expression_settleLines mem))

end OpenApiClient
