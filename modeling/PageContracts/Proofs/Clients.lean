import PageContracts.Proofs.Loading

/-! # Clients of the settings

Whoever uses the settings sees the loaders that have been made ready, and never the one that a load
left behind when it failed. So loaders are described by what can be seen of them, and every use of
them is shown to answer, and to change what can be seen, as the description has it. In the description
a load that fails changes nothing. -/
namespace PageContracts.Settings

open Runs

variable {β : Type}

/-- What can be done about the settings, or to what they are read from. Loaders go by the order in
which they have been obtained. -/
inductive Use where
  | construct (asked : Option String)
  | reload (place : Nat)
  | reset
  | get (place : Nat) (key : String) (default : Value)
  | getSection (place : Nat) (name : String)
  | changeFiles (change : FileStore → FileStore)
  | changeEnvironment (change : List (String × String) → List (String × String))

/-- What a use is answered with: a loader, a value, nothing, or a failure. -/
inductive Answer where
  | loader (place : Nat)
  | value (value : Value)
  | done
  | failed (failure : Failure)

namespace Answer

/-- The loader that has been answered. -/
def loader? : Answer → Option Nat
  | .loader place => some place
  | _ => none

/-- Whether there is nothing to answer. -/
def isDone : Answer → Bool
  | .done => true
  | _ => false

variable {answer : Answer} {place : Nat}

theorem loader?_eq_some : answer.loader? = some place ↔ answer = .loader place := by
  cases answer <;> simp [loader?]

theorem isDone_eq_true : answer.isDone = true ↔ answer = .done := by
  cases answer <;> simp [isDone]

end Answer

/-- A client of the settings: its world, and the numbers of the loaders that it has obtained, in the order
in which it has obtained them. -/
structure Client (β : Type) where
  world : World β
  obtained : List Nat := []

namespace Client

/-- A client in a world without a shared loader. -/
def inside (world : World β) : Client β :=
  { world := { world with sharedLoader := none } }

/-- A client after a run in its world, with what the run comes to. -/
def answered (client : Client β) (run : Run β Answer) : Answer × Client β :=
  match run client.world with
  | .ok answer world => (answer, { client with world })
  | .error failure world => (.failed failure, { client with world })

/-- Use a loader that has been obtained. -/
def useAt (client : Client β) (place : Nat) (run : Nat → Run β Answer) : Answer × Client β :=
  match client.obtained[place]? with
  | none => (.failed (.missing "loader"), client)
  | some number => client.answered (run number)

/-- Obtain a loader, which may have been obtained before. -/
def gain (client : Client β) (number : Nat) : Answer × Client β :=
  (.loader (client.obtained.idxOf number),
    if number ∈ client.obtained then client
    else { client with obtained := client.obtained ++ [number] })

/-- Use the settings. -/
def use (client : Client β) : Use → Answer × Client β
  | .construct asked =>
    match load asked client.world with
    | .ok number world => ({ client with world } : Client β).gain number
    | .error failure world => (.failed failure, { client with world })
  | .reload place => client.useAt place fun number => do
    reload number
    return .done
  | .reset => client.answered do
    reset
    return .done
  | .get place key default => client.useAt place fun number =>
    return .value (← Settings.get number key default)
  | .getSection place name => client.useAt place fun number =>
    return .value (← getSection number name)
  | .changeFiles change =>
    (.done, { client with world.files := change client.world.files })
  | .changeEnvironment change =>
    (.done, { client with world.environment := change client.world.environment })

end Client

/-- What can be seen of the settings: the loaders that have been obtained, and the place of the shared
one among them, if it is ready. -/
structure Seen where
  files : FileStore
  environment : List (String × String)
  loaders : List SettingsLoader := []
  shared : Option Nat := none

namespace Seen

/-- Replace the settings of a loader. -/
def replace (seen : Seen) (place : Nat) (sections : Document.Content) : Seen :=
  { seen with loaders := seen.loaders.modify place fun loader => { loader with sections } }

/-- Make a new loader ready, and share it. -/
def share (seen : Seen) (path : FilePath) (sections : Document.Content) : Seen :=
  { seen with
    loaders := seen.loaders ++ [{ path, sections, ready := true }]
    shared := some seen.loaders.length }

/-- Use a loader, as far as it is seen. -/
def useAt (seen : Seen) (place : Nat) (answer : SettingsLoader → Answer × Seen) : Answer × Seen :=
  match seen.loaders[place]? with
  | none => (.failed (.missing "loader"), seen)
  | some loader => answer loader

/-- Use the settings, as far as it is seen. A load that fails is not. -/
def use (seen : Seen) : Use → Answer × Seen
  | .construct asked =>
    match seen.shared with
    | some place => (.loader place, seen)
    | none =>
      let path := pathIn seen.environment asked
      match contentAt seen.files path with
      | .ok sections => (.loader seen.loaders.length, seen.share path sections)
      | .error failure => (.failed failure, seen)
  | .reload place => seen.useAt place fun loader =>
    match contentAt seen.files loader.path with
    | .ok sections => (.done, seen.replace place sections)
    | .error failure => (.failed failure, seen)
  | .reset => (.done, { seen with shared := none })
  | .get place key default => seen.useAt place fun loader =>
    (.value (valueIn seen.environment loader.sections key default), seen)
  | .getSection place name => seen.useAt place fun loader =>
    match sectionOf loader.sections name with
    | .ok value => (.value value, seen)
    | .error failure => (.failed failure, seen)
  | .changeFiles change => (.done, { seen with files := change seen.files })
  | .changeEnvironment change =>
    (.done, { seen with environment := change seen.environment })

end Seen

namespace Client

/-- The shared loader of a client's world is ready and has been obtained as the one at a place, or there
is none that is ready. -/
def SharesAt (client : Client β) : Option Nat → Prop
  | some place => ∃ number, client.obtained[place]? = some number ∧
      client.world.sharedLoader = some number
  | none => Unready client.world

/-- A client as it is seen. -/
structure Shows (client : Client β) (seen : Seen) : Prop where
  files : client.world.files = seen.files
  environment : client.world.environment = seen.environment
  loaders : client.obtained.map (fun number => client.world.loaders[number]?) =
    seen.loaders.map some
  distinct : client.obtained.Nodup
  ready : ∀ loader ∈ seen.loaders, loader.ready = true
  shared : client.SharesAt seen.shared

variable {client : Client β} {seen : Seen} {place number : Nat} {loader : SettingsLoader}

theorem inside_shows (world : World β) : (inside world).Shows
    { files := world.files, environment := world.environment } where
  files := rfl
  environment := rfl
  loaders := rfl
  distinct := .nil
  ready _ listed := (List.not_mem_nil listed).elim
  shared := nofun

namespace Shows

theorem length_eq (h : client.Shows seen) : client.obtained.length = seen.loaders.length := by
  have same := congrArg List.length h.loaders
  rwa [List.length_map, List.length_map] at same

/-- What is seen at a place is the loader that has been obtained there. -/
theorem at_place (h : client.Shows seen) (place : Nat) :
    (client.obtained[place]? = none ∧ seen.loaders[place]? = none) ∨
      ∃ number loader, client.obtained[place]? = some number ∧
        seen.loaders[place]? = some loader ∧ client.world.loaders[number]? = some loader := by
  have same := congrArg (·[place]?) h.loaders
  simp only [List.getElem?_map] at same
  cases there : client.obtained[place]? with
  | none =>
    rw [there, Option.map_none] at same
    exact .inl ⟨rfl, Option.map_eq_none_iff.mp same.symm⟩
  | some number =>
    rw [there, Option.map_some] at same
    obtain ⟨loader, listed, found⟩ := Option.map_eq_some_iff.mp same.symm
    exact .inr ⟨number, loader, rfl, listed, found.symm⟩

/-- A loader that is not ready has not been obtained. -/
theorem not_obtained (h : client.Shows seen)
    (unready : ∀ known, client.world.loaders[number]? = some known → known.ready = false) :
    number ∉ client.obtained := by
  intro listed
  obtain ⟨place, there⟩ := List.getElem?_of_mem listed
  rcases h.at_place place with ⟨nowhere, -⟩ | ⟨_, loader, same, shown, found⟩
  · rw [nowhere] at there
    cases there
  · cases Option.some.inj (same.symm.trans there)
    have ready := h.ready loader (List.mem_of_getElem? shown)
    rw [unready loader found] at ready
    cases ready

/-- A change of the world that leaves the loaders alone, and what is seen of them. -/
theorem elsewhere {world : World β} {other : Seen} (h : client.Shows seen)
    (files : world.files = other.files) (environment : world.environment = other.environment)
    (loaders : world.loaders = client.world.loaders)
    (sharedLoader : world.sharedLoader = client.world.sharedLoader)
    (seenLoaders : other.loaders = seen.loaders) (seenShared : other.shared = seen.shared) :
    ({ client with world } : Client β).Shows other where
  files := files
  environment := environment
  loaders := by
    rw [loaders, seenLoaders]
    exact h.loaders
  distinct := h.distinct
  ready := by
    rw [seenLoaders]
    exact h.ready
  shared := by
    rw [seenShared]
    have shared := h.shared
    generalize seen.shared = place at shared ⊢
    cases place with
    | some place =>
      obtain ⟨number, there, same⟩ := shared
      exact ⟨number, there, sharedLoader.trans same⟩
    | none =>
      intro number same
      obtain ⟨loader, found, idle⟩ := shared number (sharedLoader.symm.trans same)
      exact ⟨loader, by rw [loaders, found], idle⟩

/-- The shared loader is the one at its place. -/
theorem ready_at (h : client.Shows seen) (shared : seen.shared = some place) :
    ∃ number loader, client.obtained[place]? = some number ∧
      client.world.sharedLoader = some number ∧
      client.world.loaders[number]? = some loader ∧ loader.ready = true := by
  have there := h.shared
  rw [shared] at there
  obtain ⟨number, listed, same⟩ := there
  rcases h.at_place place with ⟨nowhere, -⟩ | ⟨_, loader, known, shown, found⟩
  · rw [nowhere] at listed
    cases listed
  · cases Option.some.inj (known.symm.trans listed)
    exact ⟨number, loader, listed, same, found, h.ready loader (List.mem_of_getElem? shown)⟩

/-- A shared loader that is ready is obtained again. -/
theorem construct_again (h : client.Shows seen) (shared : seen.shared = some place)
    (asked : Option String) : client.use (.construct asked) = (.loader place, client) := by
  obtain ⟨number, loader, listed, same, found, ready⟩ := h.ready_at shared
  have known : number ∈ client.obtained := List.mem_of_getElem? listed
  have which : client.obtained.idxOf number = place := by
    obtain ⟨within, rfl⟩ := List.getElem?_eq_some_iff.mp listed
    exact h.distinct.idxOf_getElem place within
  simp only [use, load_of_ready asked same found ready, gain, which, if_pos known]

/-- A construction answers as it is described. -/
theorem construct (h : client.Shows seen) (asked : Option String) :
    (client.use (.construct asked)).1 = (seen.use (.construct asked)).1 ∧
      (client.use (.construct asked)).2.Shows (seen.use (.construct asked)).2 := by
  cases shared : seen.shared with
  | some place =>
    rw [h.construct_again shared, Seen.use, shared]
    exact ⟨rfl, h⟩
  | none =>
    have unready := h.shared
    rw [shared] at unready
    obtain ⟨number, later, only, sharing, fresh, ends⟩ := load_of_unready asked unready
    rw [pathFor_eq, h.files, h.environment] at ends
    -- the loader that is made ready has not been obtained, so those that have been stay as they are
    have apart := h.not_obtained fresh
    have still : client.obtained.map (fun number => later.loaders[number]?) =
        seen.loaders.map some := by
      rw [← h.loaders]
      refine List.map_congr_left fun other listed => only.others other ?_
      rintro rfl
      exact apart listed
    simp only [use, Seen.use, shared]
    cases content : contentAt seen.files (pathIn seen.environment asked) with
    | error failure =>
      rw [content] at ends
      obtain ⟨failed, unready⟩ := ends
      rw [failed]
      refine ⟨rfl, ?_⟩
      exact {
        files := only.files.trans h.files
        environment := only.environment.trans h.environment
        loaders := still
        distinct := h.distinct
        ready := h.ready
        shared := by
          rw [shared]
          exact unready }
    | ok sections =>
      rw [content] at ends
      obtain ⟨loaded, found⟩ := ends
      have length := h.length_eq
      simp only [loaded, gain, if_neg apart, List.idxOf_of_notMem apart, length]
      refine ⟨trivial, ?_⟩
      exact {
        files := only.files.trans h.files
        environment := only.environment.trans h.environment
        loaders := by
          rw [List.map_append, still, Seen.share, List.map_append, List.map_singleton, found]
          rfl
        distinct := (List.perm_append_singleton number client.obtained).nodup_iff.mpr
          (List.nodup_cons.mpr ⟨apart, h.distinct⟩)
        ready := by
          intro loader listed
          rcases List.mem_append.mp listed with early | late
          · exact h.ready loader early
          · rw [List.mem_singleton.mp late]
        shared := ⟨number, by rw [← length, List.getElem?_concat_length], sharing⟩ }

/-- A loader is used as it is described, if it has been obtained. -/
theorem useAt (h : client.Shows seen) {run : Nat → Run β Answer}
    {answer : SettingsLoader → Answer × Seen}
    (same : ∀ number loader, client.obtained[place]? = some number →
      client.world.loaders[number]? = some loader → seen.loaders[place]? = some loader →
        (client.answered (run number)).1 = (answer loader).1 ∧
          (client.answered (run number)).2.Shows (answer loader).2) :
    (client.useAt place run).1 = (seen.useAt place answer).1 ∧
      (client.useAt place run).2.Shows (seen.useAt place answer).2 := by
  unfold Client.useAt Seen.useAt
  rcases h.at_place place with ⟨nowhere, unseen⟩ | ⟨number, loader, listed, shown, found⟩
  · rw [nowhere, unseen]
    exact ⟨rfl, h⟩
  · rw [listed, shown]
    exact same number loader listed found shown

/-- The settings of a loader are replaced where it is seen. -/
theorem replace (h : client.Shows seen) (listed : client.obtained[place]? = some number)
    (sections : Document.Content) (records : List LogRecord) :
    ({ client with world := { client.world with
        loaders := client.world.loaders.modify number fun loader => { loader with sections }
        records } } : Client β).Shows (seen.replace place sections) where
  files := h.files
  environment := h.environment
  loaders := by
    refine List.ext_getElem? fun other => ?_
    rw [List.getElem?_map, List.getElem?_map]
    rcases h.at_place other with ⟨nowhere, unseen⟩ | ⟨another, known, there, seenThere, same⟩
    · rw [nowhere, Seen.replace, List.getElem?_modify, unseen]
      rfl
    · rw [there, Option.map_some]
      by_cases here : place = other
      · subst here
        cases Option.some.inj (listed.symm.trans there)
        rw [Seen.replace, List.getElem?_modify_eq, List.getElem?_modify_eq, same, seenThere]
        rfl
      · -- no loader has been obtained twice, so the one at another place is another one
        have apart : number ≠ another := by
          rintro rfl
          have within : place < client.obtained.length := (List.getElem?_eq_some_iff.mp listed).1
          exact here ((List.getElem?_inj within h.distinct).mp (listed.trans there.symm))
        rw [Seen.replace, List.getElem?_modify_ne _ _ apart, List.getElem?_modify_ne _ _ here, same,
          seenThere]
        rfl
  distinct := h.distinct
  ready := by
    intro known member
    obtain ⟨other, there⟩ := List.getElem?_of_mem member
    rw [Seen.replace, List.getElem?_modify] at there
    obtain ⟨before, was, rfl⟩ := Option.map_eq_some_iff.mp there
    have ready := h.ready before (List.mem_of_getElem? was)
    split <;> exact ready
  shared := by
    have shared := h.shared
    rw [Seen.replace]
    generalize seen.shared = place at shared ⊢
    cases place with
    | some place => exact shared
    | none =>
      intro other sharing
      obtain ⟨known, there, idle⟩ := shared other sharing
      refine ⟨known, ?_, idle⟩
      have apart : number ≠ other := by
        rintro rfl
        refine h.not_obtained (fun _ same => ?_) (List.mem_of_getElem? listed)
        rw [there] at same
        cases same
        exact idle
      exact (List.getElem?_modify_ne _ _ apart).trans there

/-- Whatever is done, the answer and what is seen afterwards are as described. -/
theorem use (h : client.Shows seen) (use : Use) :
    (client.use use).1 = (seen.use use).1 ∧ (client.use use).2.Shows (seen.use use).2 := by
  cases use with
  | construct asked => exact h.construct asked
  | reload place =>
    refine h.useAt fun number loader listed found shown => ?_
    obtain ⟨records, reloads⟩ := reload_apply found
    have content : contentAt client.world.files loader.path = contentAt seen.files loader.path := by
      rw [h.files]
    rw [content] at reloads
    rw [answered, bind_apply, reloads]
    cases contentAt seen.files loader.path with
    | error failure => exact ⟨rfl, h⟩
    | ok sections => exact ⟨rfl, h.replace listed sections records⟩
  | reset => exact ⟨rfl, h.files, h.environment, h.loaders, h.distinct, h.ready, nofun⟩
  | get place key default =>
    refine h.useAt fun number loader listed found shown => ?_
    obtain ⟨records, got⟩ := get_eq_ok found key default
    have value : valueIn client.world.environment loader.sections key default =
        valueIn seen.environment loader.sections key default := by
      rw [h.environment]
    rw [answered, bind_of_ok got, value]
    exact ⟨rfl, h.elsewhere h.files h.environment rfl rfl rfl rfl⟩
  | getSection place name =>
    refine h.useAt fun number loader listed found shown => ?_
    rw [answered, bind_apply, getSection_apply found]
    cases sectionOf loader.sections name <;> exact ⟨rfl, h⟩
  | changeFiles change =>
    exact ⟨rfl, h.elsewhere (congrArg change h.files) h.environment rfl rfl rfl rfl⟩
  | changeEnvironment change =>
    exact ⟨rfl, h.elsewhere h.files (congrArg change h.environment) rfl rfl rfl rfl⟩

end Shows

end Client

end PageContracts.Settings
