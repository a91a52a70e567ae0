import PageContracts.Proofs.Runs
import PageContracts.Settings.Loader

/-! # Loading settings

The shared loader is there before it is ready. A load that fails leaves it behind, with the path that
was asked for, and it is not ready still; a load that succeeds makes it ready in one go. A loader that
is ready keeps its path, and reading its file again replaces its settings or, failing, changes nothing. -/
namespace PageContracts.Settings

open Runs

variable {β : Type}

section Reading

/-- The text of the file at a path, if there is a file. -/
def textAt? (files : FileStore) (path : FilePath) : Option String :=
  match files.find? path with
  | .ok (some (.file text)) => some text
  | _ => none

/-- The settings that a text holds, if it is a document. -/
def contentOf (text : String) : Except Document.Defect Document.Content :=
  (Document.read (String.ofList (Characters.unifyLineEnds text.toList))).map fun content =>
    if content.truthy content.root then content else .empty

/-- The settings that are read from a text that is a document, or where there is no file. -/
def settingsOf : Option String → Document.Content
  | some text => (contentOf text).toOption.getD .empty
  | none => .empty

/-- The settings that the file at a path holds. -/
def contentAt (files : FileStore) (path : FilePath) : Except Failure Document.Content :=
  match files.find? path with
  | .error failure => .error failure
  | .ok (some (.file text)) => (contentOf text).mapError (failureOf path)
  | .ok _ => .ok .empty

/-- The settings that are read are those of the text. -/
theorem contentAt_eq_ok {files : FileStore} {path : FilePath} {content : Document.Content}
    (h : contentAt files path = .ok content) :
    content = settingsOf (textAt? files path) := by
  unfold contentAt at h
  unfold textAt?
  cases found : files.find? path with
  | error failure =>
    rw [found] at h
    cases h
  | ok entry =>
    rw [found] at h
    rcases entry with _ | _ | text
    · cases h
      rfl
    · cases h
      rfl
    · dsimp only [settingsOf] at h ⊢
      cases read : contentOf text with
      | error defect =>
        rw [read] at h
        cases h
      | ok content =>
        rw [read] at h
        cases h
        rfl

/-- Reading a file gives the settings it holds, and changes nothing but what is logged. -/
theorem readFile_apply (path : FilePath) (world : World β) :
    ∃ records, readFile path world =
      match contentAt world.files path with
      | .ok content => .ok content { world with records }
      | .error failure => .error failure world := by
  rw [readFile, bind_of_ok (get_apply world), contentAt]
  cases found : world.files.find? path with
  | error failure => exact ⟨world.records, rfl⟩
  | ok entry =>
    rw [ofExcept_ok, pure_bind]
    rcases entry with _ | _ | text
    · exact ⟨_, rfl⟩
    · exact ⟨_, rfl⟩
    · dsimp only [contentOf]
      cases read : Document.read (String.ofList (Characters.unifyLineEnds text.toList)) with
      | error defect => exact ⟨world.records, rfl⟩
      | ok content => exact ⟨_, rfl⟩

/-- The value of a setting in an environment, where the settings file is silent or not. -/
def valueIn (environment : List (String × String)) (sections : Document.Content) (key : String)
    (default : Value) : Value :=
  let reference := fallback key default
  match environment.lookup (variableName key) with
  | some raw => (coerced? raw reference).getD (.text raw)
  | none => (valueOf? sections key).getD reference

/-- The path that a new loader reads in an environment. -/
def pathIn (environment : List (String × String)) (asked : Option String) : FilePath :=
  match asked.filter (!·.isEmpty) with
  | some path => .parse path
  | none =>
    match (environment.lookup pathVariable).filter (!·.isEmpty) with
    | some path => .parse path
    | none => standardPath

theorem pathFor_eq (world : World β) (asked : Option String) :
    pathFor world asked = pathIn world.environment asked :=
  rfl

variable {number : Nat} {loader : SettingsLoader} {world : World β}

theorem find_apply (found : world.loaders[number]? = some loader) :
    find number world = .ok loader world := by
  rw [find, bind_of_ok (get_apply world), found]
  rfl

theorem get_eq_ok (found : world.loaders[number]? = some loader) (key : String) (default : Value) :
    ∃ records, get number key default world =
      .ok (valueIn world.environment loader.sections key default) { world with records } := by
  rw [get, bind_of_ok (get_apply world), environmentText?, valueIn]
  cases world.environment.lookup (variableName key) with
  | some raw =>
    dsimp only
    cases coerced? raw (fallback key default) with
    | some value => exact ⟨world.records, rfl⟩
    | none => exact ⟨_, rfl⟩
  | none =>
    dsimp only
    rw [bind_of_ok (find_apply found)]
    exact ⟨world.records, rfl⟩

theorem getSection_apply (found : world.loaders[number]? = some loader) (name : String) :
    getSection number name world =
      match sectionOf loader.sections name with
      | .ok value => .ok value world
      | .error failure => .error failure world := by
  rw [getSection, bind_of_ok (find_apply found)]
  cases sectionOf loader.sections name <;> rfl

end Reading

section Loading

variable {number : Nat} {loader : SettingsLoader} {world middle later : World β}

/-- At most the loader of a number has changed, and what is logged. -/
structure Only (number : Nat) (before later : World β) : Prop where
  files : later.files = before.files
  environment : later.environment = before.environment
  others : ∀ other, other ≠ number → later.loaders[other]? = before.loaders[other]?

theorem found_of_modify (found : world.loaders[number]? = some loader)
    (update : SettingsLoader → SettingsLoader) :
    (world.loaders.modify number update)[number]? = some (update loader) := by
  rw [List.getElem?_modify_eq, found]
  rfl

theorem Only.modify {before : World β} (h : Only number before world)
    (update : SettingsLoader → SettingsLoader) {records : List LogRecord} :
    Only number before
      { world with loaders := world.loaders.modify number update, records } where
  files := h.files
  environment := h.environment
  others other apart := by
    rw [← h.others other apart]
    exact List.getElem?_modify_ne _ _ (Ne.symm apart)

/-- There is no shared loader, or none that is ready. -/
def Unready (world : World β) : Prop :=
  ∀ number, world.sharedLoader = some number →
    ∃ loader, world.loaders[number]? = some loader ∧ loader.ready = false

/-- Where there is no shared loader that is ready, there is one that is not, which may have been added
just now. -/
theorem sharedNumber_of_unready (unready : Unready world) :
    ∃ number loader middle, sharedNumber world = .ok number middle ∧
      middle.sharedLoader = some number ∧ middle.loaders[number]? = some loader ∧
      loader.ready = false ∧ Only number world middle ∧
      ∀ known, world.loaders[number]? = some known → known.ready = false := by
  cases shared : world.sharedLoader with
  | some number =>
    obtain ⟨loader, found, idle⟩ := unready number shared
    refine ⟨number, loader, world, ?_, shared, found, idle, ⟨rfl, rfl, fun _ _ => rfl⟩, ?_⟩
    · rw [sharedNumber, bind_of_ok (get_apply world), shared]
      rfl
    · intro known same
      rw [found] at same
      cases same
      exact idle
  | none =>
    let fresh : SettingsLoader := {}
    refine ⟨world.loaders.length, fresh, { world with
      loaders := world.loaders ++ [fresh], sharedLoader := some world.loaders.length }, ?_, rfl,
      List.getElem?_concat_length, rfl, ⟨rfl, rfl, ?_⟩, ?_⟩
    · rw [sharedNumber, bind_of_ok (get_apply world), shared]
      rfl
    · intro other apart
      rw [List.getElem?_append]
      split
      · rfl
      · next beyond =>
        rw [List.getElem?_eq_none (by simp; omega), List.getElem?_eq_none (by omega)]
    · intro known found
      rw [List.getElem?_eq_none (Nat.le_refl _)] at found
      cases found

/-- Asking for the shared loader when it is ready changes nothing. -/
theorem load_of_ready (asked : Option String) (shared : world.sharedLoader = some number)
    (found : world.loaders[number]? = some loader) (ready : loader.ready = true) :
    load asked world = .ok number world := by
  have numbered : sharedNumber world = .ok number world := by
    rw [sharedNumber, bind_of_ok (get_apply world), shared]
    rfl
  rw [load, bind_of_ok numbered, bind_of_ok (find_apply found), ready]
  rfl

/-- Asking for a shared loader that is not ready makes it ready, with a path of its own, or leaves it
as it is if its file cannot be read. -/
theorem load_of_unready (asked : Option String) (unready : Unready world) :
    ∃ number later, Only number world later ∧ later.sharedLoader = some number ∧
      (∀ known, world.loaders[number]? = some known → known.ready = false) ∧
      match contentAt world.files (pathFor world asked) with
      | .ok sections => load asked world = .ok number later ∧
          later.loaders[number]? = some { path := pathFor world asked, sections, ready := true }
      | .error failure => load asked world = .error failure later ∧ Unready later := by
  obtain ⟨number, loader, middle, numbered, shared, found, idle, only, fresh⟩ :=
    sharedNumber_of_unready unready
  have path : pathFor middle asked = pathFor world asked := by
    rw [pathFor_eq, pathFor_eq, only.environment]
  let placed : World β := { middle with
    loaders := middle.loaders.modify number fun loader =>
      { loader with path := pathFor middle asked } }
  have going : load asked world = (do
      let sections ← readFile (pathFor middle asked)
      change number fun loader => { loader with sections, ready := true }
      return number : Run β Nat) placed := by
    rw [load, bind_of_ok numbered, bind_of_ok (find_apply found), idle]
    rfl
  obtain ⟨records, reads⟩ := readFile_apply (pathFor middle asked) placed
  have same : contentAt placed.files (pathFor middle asked) =
      contentAt world.files (pathFor world asked) := by
    rw [path, ← only.files]
  rw [same, path] at reads
  rw [path] at going
  have there : placed.loaders[number]? = some { loader with path := pathFor world asked } := by
    rw [← path]
    exact found_of_modify found _
  cases content : contentAt world.files (pathFor world asked) with
  | error failure =>
    rw [content] at reads
    refine ⟨number, placed, only.modify _, shared, fresh, ?_, fun other same => ?_⟩
    · rw [going, bind_of_error reads]
    · cases Option.some.inj (shared.symm.trans same)
      exact ⟨_, there, idle⟩
  | ok sections =>
    rw [content] at reads
    refine ⟨number, { placed with
      loaders := placed.loaders.modify number fun loader => { loader with sections, ready := true }
      records }, (only.modify _).modify _, shared, fresh, ?_, found_of_modify there _⟩
    rw [going, bind_of_ok reads]
    rfl

/-- Loading the settings gives a loader that is there, and is no matter of files and variables. -/
theorem load_eq_ok {asked : Option String} (h : load asked world = .ok number later) :
    (∃ loader, later.loaders[number]? = some loader) ∧ later.files = world.files ∧
      later.environment = world.environment := by
  by_cases unready : Unready world
  · obtain ⟨other, last, only, -, -, outcome⟩ := load_of_unready asked unready
    split at outcome
    · cases h.symm.trans outcome.1
      exact ⟨⟨_, outcome.2⟩, only.files, only.environment⟩
    · cases h.symm.trans outcome.1
  · unfold Unready at unready
    push Not at unready
    obtain ⟨other, shared, busy⟩ := unready
    have numbered : sharedNumber world = .ok other world := by
      rw [sharedNumber, bind_of_ok (get_apply world), shared]
      rfl
    rw [load, bind_of_ok numbered] at h
    cases found : world.loaders[other]? with
    | none =>
      have lost : find other world = .error (.missing "loader") world := by
        rw [find, bind_of_ok (get_apply world), found]
        rfl
      rw [bind_of_error lost] at h
      cases h
    | some loader =>
      have ready : loader.ready = true := Bool.not_eq_false _ |>.mp (busy loader found)
      rw [bind_of_ok (find_apply found), ready] at h
      cases h
      exact ⟨⟨loader, found⟩, rfl, rfl⟩

/-- Reading a settings file again replaces what has been read there, unless it fails. -/
theorem reload_apply (found : world.loaders[number]? = some loader) :
    ∃ records, reload number world =
      match contentAt world.files loader.path with
      | .ok sections => .ok () { world with
          loaders := world.loaders.modify number fun loader => { loader with sections }, records }
      | .error failure => .error failure world := by
  obtain ⟨records, reads⟩ := readFile_apply loader.path world
  rw [reload, bind_of_ok (find_apply found)]
  cases content : contentAt world.files loader.path with
  | error failure =>
    rw [content] at reads
    exact ⟨records, bind_of_error reads _⟩
  | ok sections =>
    rw [content] at reads
    rw [bind_of_ok reads]
    exact ⟨_, rfl⟩

end Loading

end PageContracts.Settings
