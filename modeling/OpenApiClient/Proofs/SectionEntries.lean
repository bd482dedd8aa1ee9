import OpenApiClient.Config.Reading
import OpenApiClient.Proofs.RecordFields

/-! What a section of the settings says.
A section is read pair by pair. A pair whose key is the name of an entry sets one part of the
section, and every other pair leaves that part alone. So a part is what the one value under its name
means, or the default if there is none, wherever the pair stands and whatever the others are. -/
namespace OpenApiClient.Settings

open Yaml (Node Tree)
open Json (bind_ok)

def scalarText? (tree : Tree) (node : Node) : Option String :=
  match resolve tree node with
  | .scalar _ text .. => some text
  | _ => none

/-- The pairs of a section; one that is left empty has none. -/
def sectionPairs? (tree : Tree) (node : Node) : Option (List (Node × Node)) :=
  match resolve tree node with
  | .mapping _ pairs _ => some pairs
  | .scalar _ "" .plain _ => some []
  | _ => none

def valuesUnder (tree : Tree) (name : String) (pairs : List (Node × Node)) : List Node :=
  (pairs.filter fun pair => scalarText? tree pair.1 = some name).map Prod.snd

/-- What a section says under a name: what the one value there means or, if there is none, the
default. -/
def Says (tree : Tree) (pairs : List (Node × Node)) (name : String) (means : Node → α → Prop)
    (missing a : α) : Prop :=
  match valuesUnder tree name pairs with
  | [] => a = missing
  | [node] => means node a
  | _ => False

def Reads (read : EntryReader α) (tree : Tree) (node : Node) (a : α) : Prop :=
  read tree node = .ok a

def Keyed (tree : Tree) (pairs : List (Node × Node)) : Prop :=
  ∀ pair ∈ pairs, ∃ name, scalarText? tree pair.1 = some name

variable {σ : Type} {tree : Tree} {pairs rest : List (Node × Node)} {node key value : Node}
  {name other : String} {entries : Entries σ} {before after : σ} {seen known : List String}
  {read : EntryReader α} {get : σ → α}

theorem valuesUnder_cons : valuesUnder tree name ((key, value) :: rest) =
    if scalarText? tree key = some name then value :: valuesUnder tree name rest
    else valuesUnder tree name rest := by
  unfold valuesUnder
  by_cases here : scalarText? tree key = some name <;> simp [here]

theorem Says.unique {means : Node → α → Prop} {missing a b : α}
    (functional : ∀ node a b, means node a → means node b → a = b)
    (told : Says tree pairs name means missing a) (told' : Says tree pairs name means missing b) :
    a = b := by
  unfold Says at told told'
  cases values : valuesUnder tree name pairs with
  | nil =>
    rw [values] at told told'
    exact told.trans told'.symm
  | cons node more =>
    rw [values] at told told'
    cases more with
    | nil => exact functional node a b told told'
    | cons _ _ => exact told.elim

theorem Says.unique_read {missing a b : α} (told : Says tree pairs name (Reads read tree) missing a)
    (told' : Says tree pairs name (Reads read tree) missing b) : a = b :=
  told.unique (fun _ _ _ here there => Except.ok.inj (here.symm.trans there)) told'

theorem mapError_eq_ok {x : Except ε α} {f : ε → δ} {a : α} :
    x.mapError f = .ok a ↔ x = .ok a := by
  cases x <;> simp [Except.mapError]

theorem refuseNode_ne_ok (expected : String) (node : Node) (a : α) :
    refuseNode expected node ≠ .ok a := by
  unfold refuseNode refuse
  split
  · split <;> nofun
  all_goals nofun

theorem placed_ok {read : Node → Reading α} {a : α} :
    placed read tree node = .ok a ↔ read (resolve tree node) = .ok a := mapError_eq_ok

theorem textEntry_ok {expected text : String} :
    textEntry expected tree node = .ok text ↔ scalarText? tree node = some text := by
  rw [textEntry, placed_ok, scalarText?]
  cases resolve tree node with
  | scalar place text style tag => exact ⟨fun h => by cases h; rfl, fun h => by cases h; rfl⟩
  | _ => exact ⟨fun h => absurd h (refuseNode_ne_ok _ _ _), nofun⟩

theorem sectionEntry_ok {expected : String} :
    sectionEntry expected entries before tree node = .ok after ↔
      ∃ pairs, sectionPairs? tree node = some pairs ∧
        readPairs entries tree before [] pairs = .ok after := by
  rw [sectionEntry, placed_ok]
  split
  · rename_i mapping
    simp [sectionPairs?, mapping]
  · rename_i empty
    simp [sectionPairs?, empty, readPairs]
  · rename_i noMapping notEmpty
    have none : sectionPairs? tree node = none := by
      unfold sectionPairs?
      split
      · exact absurd ‹_› (noMapping _ _ _)
      · exact absurd ‹_› (notEmpty _ _)
      · rfl
    simp [none, refuseNode_ne_ok]

theorem entry_ok {set : σ → α → σ} :
    (entry name read set).2 before tree node = .ok after ↔
      ∃ a, read tree node = .ok a ∧ after = set before a := by
  change (read tree node).map (set before) = .ok after ↔ _
  cases read tree node with
  | error fault => simp [Except.map]
  | ok a => simp [Except.map, eq_comm]

inductive PairRead (entries : Entries σ) (tree : Tree) (before : σ) (seen : List String)
    (name : String) (value : Node) : σ → List String → Prop where
  | overlooked : entries.lookup name = none →
      PairRead entries tree before seen name value before seen
  | set {change after} : entries.lookup name = some change → name ∉ seen →
      change before tree value = .ok after →
      PairRead entries tree before seen name value after (name :: seen)

theorem readPairs_cons : readPairs entries tree before seen ((key, value) :: rest) = .ok after ↔
    ∃ name middle known, scalarText? tree key = some name ∧
      PairRead entries tree before seen name value middle known ∧
      readPairs entries tree middle known rest = .ok after := by
  rw [readPairs]
  constructor
  · intro h
    obtain ⟨name, named, h⟩ := bind_ok h
    have text := textEntry_ok.mp named
    split at h
    · rename_i unknown
      exact ⟨name, before, seen, text, .overlooked unknown, h⟩
    · rename_i change found
      by_cases repeated : name ∈ seen
      · rw [if_pos repeated] at h
        cases h
      · rw [if_neg repeated] at h
        obtain ⟨middle, changed, h⟩ := bind_ok h
        exact ⟨name, middle, name :: seen, text, .set found repeated (mapError_eq_ok.mp changed), h⟩
  · rintro ⟨name, middle, known, text, pair, others⟩
    rw [textEntry_ok.mpr text]
    dsimp only [bind, Except.bind]
    cases pair with
    | overlooked unknown =>
      rw [unknown]
      exact others
    | set found fresh changed =>
      rw [found]
      dsimp only
      rw [if_neg fresh, changed]
      exact others

theorem readPairs_keyed (h : readPairs entries tree before seen pairs = .ok after) :
    Keyed tree pairs := by
  induction pairs generalizing before seen with
  | nil => simp [Keyed]
  | cons pair rest ih =>
    obtain ⟨key, value⟩ := pair
    obtain ⟨name, middle, known, text, _, others⟩ := readPairs_cons.mp h
    exact List.forall_mem_cons.mpr ⟨⟨name, text⟩, ih others⟩

/-- A part of a section that the entry of one name sets, and no other one. -/
structure Part (entries : Entries σ) (name : String) (read : EntryReader α) (get : σ → α) :
    Prop where
  sets : ∃ set, entries.lookup name = some (entry name read set).2 ∧
    ∀ section' a, get (set section' a) = a
  keeps : ∀ other ∈ entries, other.1 ≠ name → ∀ before tree node after,
    other.2 before tree node = .ok after → get after = get before

theorem Part.set (part : Part entries name read get)
    (pair : PairRead entries tree before seen name value after known) :
    name ∉ seen ∧ name ∈ known ∧ read tree value = .ok (get after) := by
  obtain ⟨set, there, get_set⟩ := part.sets
  cases pair with
  | overlooked unknown => cases unknown.symm.trans there
  | set found fresh changed =>
    cases found.symm.trans there
    obtain ⟨a, reads, rfl⟩ := entry_ok.mp changed
    exact ⟨fresh, .head _, by rw [get_set, reads]⟩

theorem Part.keep (part : Part entries name read get) (ne : other ≠ name)
    (pair : PairRead entries tree before seen other value after known) :
    (name ∈ known ↔ name ∈ seen) ∧ get after = get before := by
  cases pair with
  | overlooked _ => exact ⟨.rfl, rfl⟩
  | set found _ changed =>
    refine ⟨?_, part.keeps _ (lookup_mem found) ne _ _ _ _ changed⟩
    simp [ne.symm]

theorem Part.rests (part : Part entries name read get) (mem : name ∈ seen)
    (h : readPairs entries tree before seen pairs = .ok after) :
    valuesUnder tree name pairs = [] ∧ get after = get before := by
  induction pairs generalizing before seen with
  | nil =>
    cases h
    exact ⟨rfl, rfl⟩
  | cons pair rest ih =>
    obtain ⟨key, value⟩ := pair
    obtain ⟨other, middle, known, text, pair, others⟩ := readPairs_cons.mp h
    by_cases here : other = name
    · subst here
      exact absurd mem (part.set pair).1
    · obtain ⟨still, kept⟩ := part.keep here pair
      obtain ⟨none, rests⟩ := ih (still.mpr mem) others
      refine ⟨?_, rests.trans kept⟩
      rw [valuesUnder_cons, text, if_neg (by simpa using here), none]

theorem Part.told (part : Part entries name read get) (fresh : name ∉ seen)
    (h : readPairs entries tree before seen pairs = .ok after) :
    Says tree pairs name (Reads read tree) (get before) (get after) := by
  -- On the pairs; after the one under the name of the entry, the part rests.
  induction pairs generalizing before seen with
  | nil =>
    cases h
    exact rfl
  | cons pair rest ih =>
    obtain ⟨key, value⟩ := pair
    obtain ⟨other, middle, known, text, pair, others⟩ := readPairs_cons.mp h
    unfold Says
    rw [valuesUnder_cons, text]
    by_cases here : other = name
    · subst here
      obtain ⟨_, mem, reads⟩ := part.set pair
      obtain ⟨none, rests⟩ := part.rests mem others
      rw [if_pos rfl, none, rests]
      exact reads
    · obtain ⟨still, kept⟩ := part.keep here pair
      rw [if_neg (by simpa using here), ← kept]
      exact ih (fun mem => fresh (still.mp mem)) others

theorem entry_keeps {set : σ → α → σ} {get : σ → β}
    (apart : other = name ∨ ∀ section' a, get (set section' a) = get section')
    (ne : (entry other read set).1 ≠ name) : ∀ before tree node after,
    (entry other read set).2 before tree node = .ok after → get after = get before := by
  intro before tree node after changed
  obtain ⟨a, _, rfl⟩ := entry_ok.mp changed
  exact apart.resolve_left ne before a

/-- There is one value at most under the name of an entry; then the name is new, and the entry takes
the value. -/
def Fits (tree : Tree) (pairs : List (Node × Node)) (seen : List String)
    (entry : String × (σ → EntryReader σ)) : Prop :=
  match valuesUnder tree entry.1 pairs with
  | [] => True
  | [node] => entry.1 ∉ seen ∧ ∀ before, ∃ after, entry.2 before tree node = .ok after
  | _ => False

theorem Says.fits {set : σ → α → σ} {missing a : α}
    (told : Says tree pairs name (Reads read tree) missing a) :
    Fits tree pairs [] (entry name read set) := by
  unfold Says at told
  change match valuesUnder tree name pairs with | [] => _ | [node] => _ | _ => _
  split at told
  · trivial
  · exact ⟨by simp, fun before => ⟨set before a, entry_ok.mpr ⟨a, told, rfl⟩⟩⟩
  · exact told

theorem Fits.behind {entry : String × (σ → EntryReader σ)}
    (fits : Fits tree ((key, value) :: rest) seen entry) (text : scalarText? tree key = some name)
    (ne : name ≠ entry.1) (same : entry.1 ∈ known → entry.1 ∈ seen) :
    Fits tree rest known entry := by
  unfold Fits at fits ⊢
  rw [valuesUnder_cons, text, if_neg (by simpa using ne)] at fits
  split at fits
  · trivial
  · exact ⟨fun mem => fits.1 (same mem), fits.2⟩
  · exact fits

theorem readPairs_succeeds (keyed : Keyed tree pairs)
    (fits : ∀ entry ∈ entries, Fits tree pairs seen entry) :
    ∃ after, readPairs entries tree before seen pairs = .ok after := by
  induction pairs generalizing before seen with
  | nil => exact ⟨before, rfl⟩
  | cons pair rest ih =>
    obtain ⟨key, value⟩ := pair
    obtain ⟨⟨name, text⟩, keyed⟩ := List.forall_mem_cons.mp keyed
    cases found : entries.lookup name with
    | none =>
      have others : ∀ entry ∈ entries, Fits tree rest seen entry := by
        intro entry mem
        refine (fits entry mem).behind text ?_ id
        rintro rfl
        simp only [List.lookup_eq_none_iff, bne_iff_ne] at found
        exact found entry mem rfl
      obtain ⟨after, read⟩ := ih keyed others
      exact ⟨after, readPairs_cons.mpr ⟨name, before, seen, text, .overlooked found, read⟩⟩
    | some change =>
      have fit := fits _ (lookup_mem found)
      unfold Fits at fit
      rw [valuesUnder_cons, text, if_pos rfl] at fit
      split at fit
      · rename_i empty
        cases empty
      · rename_i node alone
        obtain ⟨rfl, none⟩ := List.cons.inj alone
        obtain ⟨fresh, changes⟩ := fit
        obtain ⟨middle, changed⟩ := changes before
        have others : ∀ entry ∈ entries, Fits tree rest (name :: seen) entry := by
          intro entry mem
          by_cases here : name = entry.1
          · unfold Fits
            rw [← here, none]
            trivial
          · exact (fits entry mem).behind text here fun seen => by simpa [Ne.symm here] using seen
        obtain ⟨after, read⟩ := ih keyed others
        exact ⟨after, readPairs_cons.mpr
          ⟨name, middle, name :: seen, text, .set found fresh changed, read⟩⟩
      · exact fit.elim

/-- A reading is told exactly by what holds of it, if that leaves no choice and lets the section be
read. -/
theorem readPairs_exact {Told : σ → Prop}
    (told : ∀ after, readPairs entries tree before [] pairs = .ok after → Told after)
    (unique : ∀ a b, Told a → Told b → a = b) (keyed : Told after → Keyed tree pairs)
    (fits : Told after → ∀ entry ∈ entries, Fits tree pairs [] entry) :
    readPairs entries tree before [] pairs = .ok after ↔ Told after := by
  refine ⟨told after, fun holds => ?_⟩
  obtain ⟨result, read⟩ := readPairs_succeeds (keyed holds) (fits holds)
  rw [read, unique result after (told result read) holds]

theorem says_section {expected : String} {Told : List (Node × Node) → σ → Prop}
    (exact : ∀ {inner after},
      readPairs entries tree before [] inner = .ok after ↔ Told inner after) :
    Says tree pairs name (Reads (sectionEntry expected entries before) tree) before after ↔
      ∃ inner,
        Says tree pairs name (fun node inner => sectionPairs? tree node = some inner) [] inner ∧
        Told inner after := by
  unfold Says
  split
  · constructor
    · rintro rfl
      exact ⟨[], rfl, exact.mp rfl⟩
    · rintro ⟨_, rfl, told⟩
      exact (Except.ok.inj (exact.mpr told)).symm
  · unfold Reads
    simp only [sectionEntry_ok, exact]
  · simp

end OpenApiClient.Settings
