import PageContracts.Proofs.Keys
import PageContracts.Proofs.Loading

/-! # Lookups of settings

Where a setting comes from, told by rules instead of by a walk. A variable of the environment goes
before the settings file and the file before the default; what the file holds is found by the parts of
the key, one map inside the other, and counts unless it is nothing. -/
namespace PageContracts.Settings

open Characters Runs
open Document (Content Part)

section Rules

variable {content : Content} {part next last : Part} {key raw : String} {keys : List String}
  {value reference : Value}

/-- The parts of a key lead from one part of a document to another, each through a map that has
something there. -/
inductive Leads (content : Content) : Part → List String → Part → Prop
  | here {part : Part} : Leads content part [] part
  | into {part next last : Part} {key : String} {keys : List String}
      (entry : content.entry? part key = some next)
      (some : next ≠ .plain .none) (rest : Leads content next keys last) :
      Leads content part (key :: keys) last

theorem step?_eq_some :
    step? content part key = some next ↔
      content.entry? part key = some next ∧ next ≠ .plain .none := by
  unfold step?
  split
  · next nothing =>
    constructor
    · intro same
      cases same
    · rintro ⟨entry, some⟩
      rw [nothing] at entry
      exact (some (Option.some.inj entry).symm).elim
  · next some =>
    constructor
    · intro entry
      exact ⟨entry, fun nothing => some (entry.trans (congrArg Option.some nothing))⟩
    · exact And.left

theorem follow?_eq_some : follow? content part keys = some last ↔ Leads content part keys last := by
  induction keys generalizing part with
  | nil =>
    constructor
    · intro same
      cases same
      exact .here
    · rintro ⟨⟩
      rfl
  | cons key keys ih =>
    rw [follow?]
    constructor
    · intro found
      split at found
      · next next step =>
        obtain ⟨entry, some⟩ := step?_eq_some.mp step
        exact .into entry some (ih.mp found)
      · cases found
    · intro leads
      cases leads with
      | into entry some rest =>
        rw [step?_eq_some.mpr ⟨entry, some⟩]
        exact ih.mpr rest

/-- What a text of the environment is read as where it replaces a value: it becomes a value of the
same kind, or stays a text where it is no number or there is no such kind. -/
inductive Converts (raw : String) (reference : Value) : Value → Prop
  | truth {old yes : Bool} (kind : reference.core = .bool old)
      (means : yes = true ↔
        String.ofList (lower (trim raw).toList) ∈ ["true", "1", "yes", "on"]) :
      Converts raw reference (.bool yes)
  | whole {old n : Int} (kind : reference.core = .int old) (reads : Reading.integer? raw = some n) :
      Converts raw reference (.int n)
  | real {old x : Binary64} (kind : reference.core = .float old)
      (reads : Reading.double? raw = some x) : Converts raw reference (.float x)
  | notWhole {old : Int} (kind : reference.core = .int old) (unread : Reading.integer? raw = none) :
      Converts raw reference (.text raw)
  | notReal {old : Binary64} (kind : reference.core = .float old)
      (unread : Reading.double? raw = none) : Converts raw reference (.text raw)
  | text (noTruth : ∀ old, reference.core ≠ .bool old) (noWhole : ∀ old, reference.core ≠ .int old)
      (noReal : ∀ old, reference.core ≠ .float old) : Converts raw reference (.text raw)

theorem meansYes_iff :
    meansYes raw = true ↔
      String.ofList (lower (trim raw).toList) ∈ ["true", "1", "yes", "on"] :=
  List.contains_iff_mem

theorem converts_iff :
    Converts raw reference value ↔ value = (coerced? raw reference).getD (.text raw) := by
  constructor
  · intro converts
    cases converts with
    | truth kind means =>
      rw [coerced?, kind]
      exact congrArg Value.bool (Bool.eq_iff_iff.mpr (means.trans meansYes_iff.symm))
    | whole kind reads =>
      rw [coerced?, kind, reads]
      rfl
    | real kind reads =>
      rw [coerced?, kind, reads]
      rfl
    | notWhole kind unread =>
      rw [coerced?, kind, unread]
      rfl
    | notReal kind unread =>
      rw [coerced?, kind, unread]
      rfl
    | text noTruth noWhole noReal =>
      rw [coerced?]
      split
      · next kind => exact (noTruth _ kind).elim
      · next kind => exact (noWhole _ kind).elim
      · next kind => exact (noReal _ kind).elim
      · rfl
  · rintro rfl
    rw [coerced?]
    split
    · next kind => exact .truth kind meansYes_iff
    · next kind =>
      cases reads : Reading.integer? raw with
      | some n => exact .whole kind reads
      | none => exact .notWhole kind reads
    · next kind =>
      cases reads : Reading.double? raw with
      | some x => exact .real kind reads
      | none => exact .notReal kind reads
    · next noTruth noWhole noReal => exact .text noTruth noWhole noReal

/-- The rules for the value of a setting whose key has the parts given, where a value stands by for
it. -/
inductive Settles (environment : List (String × String)) (sections : Content) (parts : List String)
    (reference : Value) : Value → Prop
  | overridden {raw : String} {value : Value}
      (told : environment.lookup (String.intercalate "_" (parts.map upper)) = some raw)
      (converts : Converts raw reference value) :
      Settles environment sections parts reference value
  | found {last : Part}
      (untold : environment.lookup (String.intercalate "_" (parts.map upper)) = none)
      (leads : Leads sections sections.root parts last) :
      Settles environment sections parts reference (sections.value last)
  | left (untold : environment.lookup (String.intercalate "_" (parts.map upper)) = none)
      (nowhere : ∀ last, ¬ Leads sections sections.root parts last) :
      Settles environment sections parts reference reference

theorem valueOf?_eq_some_of_leads {parts : List String} (spelled : Spells parts key)
    (leads : Leads content content.root parts last) :
    valueOf? content key = some (content.value last) := by
  rw [valueOf?, ← spelled.eq_keyParts, follow?_eq_some.mpr leads]
  rfl

theorem valueOf?_eq_none {parts : List String} (spelled : Spells parts key)
    (nowhere : ∀ last, ¬ Leads content content.root parts last) :
    valueOf? content key = none := by
  have lost : follow? content content.root parts = none :=
    Option.eq_none_iff_forall_ne_some.mpr fun last found => nowhere last (follow?_eq_some.mp found)
  rw [valueOf?, ← spelled.eq_keyParts, lost]
  rfl

theorem settles_iff {environment : List (String × String)} {parts : List String} {default : Value}
    (spelled : Spells parts key) :
    Settles environment content parts (fallback key default) value ↔
      value = valueIn environment content key default := by
  rw [valueIn, variableName_eq spelled]
  constructor
  · intro settles
    cases settles with
    | overridden told converts =>
      rw [told]
      exact converts_iff.mp converts
    | found untold leads =>
      rw [untold, valueOf?_eq_some_of_leads spelled leads]
      rfl
    | left untold nowhere =>
      rw [untold, valueOf?_eq_none spelled nowhere]
      rfl
  · rintro rfl
    cases told : environment.lookup (String.intercalate "_" (parts.map upper)) with
    | some raw => exact .overridden told (converts_iff.mpr rfl)
    | none =>
      by_cases somewhere : ∃ last, Leads content content.root parts last
      · obtain ⟨last, leads⟩ := somewhere
        rw [valueOf?_eq_some_of_leads spelled leads]
        exact .found told leads
      · have nowhere := not_exists.mp somewhere
        rw [valueOf?_eq_none spelled nowhere]
        exact .left told nowhere

end Rules

variable {β : Type}

/-- Looking up a setting never fails. It gives the one value that the rules allow and changes nothing
but what is logged. -/
theorem get_settles {number : Nat} {loader : SettingsLoader} {world : World β}
    (found : world.loaders[number]? = some loader) (key : String) (default : Value) :
    ∃ parts, Spells parts key ∧ ∃ value records,
      get number key default world = .ok value { world with records } ∧
      ∀ other, Settles world.environment loader.sections parts (fallback key default) other ↔
        other = value := by
  obtain ⟨records, gives⟩ := get_eq_ok found key default
  have spelled := spells_keyParts key
  exact ⟨keyParts key, spelled, _, records, gives, fun other => settles_iff spelled⟩

/-- A world in which the settings file says no to screenshots on errors. -/
def quietWorld : World Unit where
  browser := ()
  clock := default
  loaders := [{ sections := {
    collections := #[.map [(.text "screenshots", .collection 1)],
      .map [(.text "on_error", .plain (.bool false))]]
    root := .collection 0 } }]

/-- What the file says counts although it is false. -/
theorem said_no_counts :
    quietWorld.loaders[0]? = some quietWorld.loaders[0] ∧
      ∃ records, get 0 "screenshots.on_error" .none quietWorld =
        .ok (.bool false) { quietWorld with records } := by
  refine ⟨rfl, ?_⟩
  obtain ⟨parts, spelled, value, records, gives, rules⟩ :=
    get_settles (show quietWorld.loaders[0]? = some quietWorld.loaders[0] from rfl)
      "screenshots.on_error" .none
  have spelledSo : Spells ["screenshots", "on_error"] "screenshots.on_error" :=
    ⟨by decide, by decide, by decide +kernel⟩
  have leads : Leads quietWorld.loaders[0].sections (.collection 0) ["screenshots", "on_error"]
      (.plain (.bool false)) :=
    .into (show _ = some (.collection 1) from rfl) nofun (.into rfl nofun .here)
  have said : value = .bool false := by
    cases spelled.unique spelledSo
    exact ((rules _).mp (.found (by decide +kernel) leads)).symm
  exact ⟨records, said ▸ gives⟩

end PageContracts.Settings
