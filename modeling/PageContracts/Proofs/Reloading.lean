import PageContracts.Browser.Scripted
import PageContracts.Proofs.Clients

/-! # Reloading settings

A load succeeds as a whole or changes nothing that can be seen. So uses of the settings are answered as
if the loads that failed had not been tried, the path is the one of the first load that succeeded, and
what has been read is all that counts once a file has been read again. -/
namespace PageContracts.Settings

open Runs

variable {β : Type}

namespace Use

/-- Whether a use drops the shared loader. -/
def resets : Use → Bool
  | .reset => true
  | _ => false

/-- Whether a use, answered as it was, was a load that failed: the file was no document. -/
def failedLoad : Use × Answer → Bool
  | (.construct _, .failed failure) | (.reload _, .failed failure) => failure.kind = .configuration
  | _ => false

/-- Whether a use, answered as it was, obtained a loader. -/
def obtains : Use × Answer → Bool
  | (.construct _, .loader _) => true
  | _ => false

/-- Whether a use, answered as it was, read the file of a loader again. -/
def rereads (place : Nat) : Use × Answer → Bool
  | (.reload other, .done) => other = place
  | _ => false

end Use

namespace Seen

variable {seen later : Seen} {place : Nat} {use : Use} {answer : Answer}

/-- What a use comes to, as far as it is seen. Whatever fails changes nothing. -/
inductive Step (seen : Seen) : Use → Answer → Seen → Prop
  | obtained (asked : Option String) (place : Nat) (shared : seen.shared = some place) :
      Step seen (.construct asked) (.loader place) seen
  | loaded (asked : Option String) (sections : Document.Content) (unshared : seen.shared = none)
      (read : contentAt seen.files (pathIn seen.environment asked) = .ok sections) :
      Step seen (.construct asked) (.loader seen.loaders.length)
        (seen.share (pathIn seen.environment asked) sections)
  | reread (place : Nat) (loader : SettingsLoader) (sections : Document.Content)
      (shown : seen.loaders[place]? = some loader)
      (read : contentAt seen.files loader.path = .ok sections) :
      Step seen (.reload place) .done (seen.replace place sections)
  | dropped : Step seen .reset .done { seen with shared := none }
  | told (use : Use) (value : Value) : Step seen use (.value value) seen
  | failed (use : Use) (failure : Failure) : Step seen use (.failed failure) seen
  | files (change : FileStore → FileStore) :
      Step seen (.changeFiles change) .done { seen with files := change seen.files }
  | environment (change : List (String × String) → List (String × String)) :
      Step seen (.changeEnvironment change) .done
        { seen with environment := change seen.environment }

theorem step_useAt {run : SettingsLoader → Answer × Seen}
    (steps : ∀ loader, seen.loaders[place]? = some loader →
      seen.Step use (run loader).1 (run loader).2) :
    seen.Step use (seen.useAt place run).1 (seen.useAt place run).2 := by
  unfold useAt
  cases shown : seen.loaders[place]? with
  | none => exact .failed _ _
  | some loader => exact steps loader shown

theorem step_use (seen : Seen) (use : Use) : seen.Step use (seen.use use).1 (seen.use use).2 := by
  cases use with
  | construct asked =>
    rw [Seen.use]
    cases shared : seen.shared with
    | some place => exact .obtained asked place shared
    | none =>
      dsimp only
      cases read : contentAt seen.files (pathIn seen.environment asked) with
      | error failure => exact .failed _ failure
      | ok sections => exact .loaded asked sections shared read
  | reload place =>
    refine step_useAt fun loader shown => ?_
    cases read : contentAt seen.files loader.path with
    | error failure => exact .failed _ failure
    | ok sections => exact .reread place loader sections shown read
  | reset => exact .dropped
  | get place key default => exact step_useAt fun loader _ => .told _ _
  | getSection place name =>
    refine step_useAt fun loader _ => ?_
    cases sectionOf loader.sections name with
    | ok value => exact .told _ value
    | error failure => exact .failed _ failure
  | changeFiles change => exact .files change
  | changeEnvironment change => exact .environment change

/-- A load that fails is not seen. -/
theorem Step.eq_of_failedLoad (h : seen.Step use answer later)
    (failed : Use.failedLoad (use, answer) = true) : later = seen := by
  cases h with
  | failed use failure => rfl
  | told use value => rfl
  | obtained asked place shared => rfl
  | _ => cases failed

/-- Where no loader is shared, only obtaining one makes one shared. -/
theorem Step.unshared (h : seen.Step use answer later)
    (unobtained : Use.obtains (use, answer) = false) (unshared : seen.shared = none) :
    later.shared = none := by
  cases h with
  | obtained asked place shared => exact unshared
  | loaded asked sections unshared read => cases unobtained
  | dropped => rfl
  | _ => exact unshared

/-- The shared loader stays the same until it is dropped. -/
theorem Step.shared (h : seen.Step use answer later) (keeps : use.resets = false)
    (shared : seen.shared = some place) : later.shared = some place := by
  cases h with
  | loaded asked sections unshared read =>
    rw [unshared] at shared
    cases shared
  | dropped => cases keeps
  | _ => exact shared

/-- A loader keeps its path, and its settings until its file is read again. -/
theorem Step.kept {loader : SettingsLoader} (h : seen.Step use answer later)
    (shown : seen.loaders[place]? = some loader) :
    ∃ now, later.loaders[place]? = some now ∧ now.path = loader.path ∧
      (Use.rereads place (use, answer) = false → now.sections = loader.sections) := by
  cases h with
  | loaded asked sections unshared read =>
    have within : place < seen.loaders.length := (List.getElem?_eq_some_iff.mp shown).1
    refine ⟨loader, ?_, rfl, fun _ => rfl⟩
    rw [share, List.getElem?_append_left within, shown]
  | reread other reread sections found read =>
    by_cases here : other = place
    · refine ⟨{ loader with sections }, ?_, rfl, fun apart => ?_⟩
      · rw [replace, here, List.getElem?_modify_eq, shown]
        rfl
      · simp [Use.rereads, here] at apart
    · refine ⟨loader, ?_, rfl, fun _ => rfl⟩
      rw [replace, List.getElem?_modify_ne _ _ here, shown]
  | _ => exact ⟨loader, shown, rfl, fun _ => rfl⟩

/-- Uses of the settings as they are seen, with their answers. -/
def trace (seen : Seen) : List Use → List (Use × Answer)
  | [] => []
  | use :: rest => (use, (seen.use use).1) :: (seen.use use).2.trace rest

/-- What is seen after some uses. -/
def runAll (seen : Seen) (uses : List Use) : Seen :=
  uses.foldl (fun seen use => (seen.use use).2) seen

theorem runAll_append (seen : Seen) (first second : List Use) :
    seen.runAll (first ++ second) = (seen.runAll first).runAll second :=
  List.foldl_append

/-- Without the loads that failed, all other uses are answered as before. -/
theorem trace_without_failed (seen : Seen) (uses : List Use) :
    seen.trace (((seen.trace uses).filter (!Use.failedLoad ·)).map Prod.fst) =
      (seen.trace uses).filter (!Use.failedLoad ·) := by
  induction uses generalizing seen with
  | nil => rfl
  | cons use rest ih =>
    rw [trace]
    cases failed : Use.failedLoad (use, (seen.use use).1) with
    | true =>
      rw [List.filter_cons_of_neg (by simp [failed]), (seen.step_use use).eq_of_failedLoad failed]
      exact ih seen
    | false =>
      rw [List.filter_cons_of_pos (by simp [failed]), List.map_cons, trace, ih]

theorem unshared_of_runAll {uses : List Use}
    (unobtained : ∀ entry ∈ seen.trace uses, Use.obtains entry = false)
    (unshared : seen.shared = none) : (seen.runAll uses).shared = none := by
  induction uses generalizing seen with
  | nil => exact unshared
  | cons use rest ih =>
    rw [trace, List.forall_mem_cons] at unobtained
    exact ih unobtained.2 ((seen.step_use use).unshared unobtained.1 unshared)

theorem shared_of_runAll {uses : List Use} (keeps : ∀ use ∈ uses, use.resets = false)
    (shared : seen.shared = some place) : (seen.runAll uses).shared = some place := by
  induction uses generalizing seen with
  | nil => exact shared
  | cons use rest ih =>
    rw [List.forall_mem_cons] at keeps
    exact ih keeps.2 ((seen.step_use use).shared keeps.1 shared)

theorem kept_of_runAll {loader : SettingsLoader} (uses : List Use)
    (shown : seen.loaders[place]? = some loader) :
    ∃ now, (seen.runAll uses).loaders[place]? = some now ∧ now.path = loader.path ∧
      ((∀ entry ∈ seen.trace uses, Use.rereads place entry = false) →
        now.sections = loader.sections) := by
  induction uses generalizing seen loader with
  | nil => exact ⟨loader, shown, rfl, fun _ => rfl⟩
  | cons use rest ih =>
    obtain ⟨next, there, path, sections⟩ := (seen.step_use use).kept shown
    obtain ⟨now, later, samePath, sameSections⟩ := ih there
    refine ⟨now, later, samePath.trans path, fun apart => ?_⟩
    rw [trace, List.forall_mem_cons] at apart
    exact (sameSections apart.2).trans (sections apart.1)

end Seen

namespace Client

variable {client : Client β} {seen : Seen}

/-- Uses of the settings by a client, with their answers. -/
def trace (client : Client β) : List Use → List (Use × Answer)
  | [] => []
  | use :: rest => (use, (client.use use).1) :: (client.use use).2.trace rest

/-- A client after some uses, each of which may have failed. -/
def runAll (client : Client β) (uses : List Use) : Client β :=
  uses.foldl (fun client use => (client.use use).2) client

theorem runAll_append (client : Client β) (first second : List Use) :
    client.runAll (first ++ second) = (client.runAll first).runAll second :=
  List.foldl_append

theorem Shows.runAll (h : client.Shows seen) (uses : List Use) :
    (client.runAll uses).Shows (seen.runAll uses) := by
  induction uses generalizing client seen with
  | nil => exact h
  | cons use rest ih => exact ih (h.use use).2

theorem Shows.trace_eq (h : client.Shows seen) (uses : List Use) :
    client.trace uses = seen.trace uses := by
  induction uses generalizing client seen with
  | nil => rfl
  | cons use rest ih =>
    obtain ⟨answers, next⟩ := h.use use
    rw [trace, Seen.trace, answers, ih next]

/-- The loader that a client has obtained as the one at a place. -/
def loader? (client : Client β) (place : Nat) : Option SettingsLoader :=
  client.obtained[place]?.bind (client.world.loaders[·]?)

theorem Shows.loader_eq (h : client.Shows seen) (place : Nat) :
    client.loader? place = seen.loaders[place]? := by
  rcases h.at_place place with ⟨nowhere, unseen⟩ | ⟨number, loader, listed, shown, found⟩
  · rw [loader?, nowhere, unseen]
    rfl
  · rw [loader?, listed, shown]
    exact found

/-- The text of the file of the loader at a place, if there is a file. -/
def text? (client : Client β) (place : Nat) : Option String :=
  (client.loader? place).bind fun loader => textAt? client.world.files loader.path

/-- A construction is the first that succeeds since the beginning, or since the shared loader was
dropped. -/
structure IsFirst (client : Client β) (before during : List Use) (asked : Option String)
    (place : Nat) : Prop where
  begins : before = [] ∨ ∃ earlier, before = earlier ++ [.reset]
  unobtained : ∀ entry ∈ (client.runAll before).trace during, Use.obtains entry = false
  succeeds : ((client.runAll (before ++ during)).use (.construct asked)).1 = .loader place

/-- The path of the loader that a construction obtains is the one that the construction asks for, for
ever, and until the shared loader is dropped every construction obtains the same loader and changes
nothing. -/
structure Decides (client : Client β) (asked : Option String) (place : Nat) : Prop where
  path : ∀ rest, ∃ loader,
    ((client.use (.construct asked)).2.runAll rest).loader? place = some loader ∧
      loader.path = pathFor client.world asked
  again : ∀ rest, (∀ use ∈ rest, use.resets = false) → ∀ other,
    ((client.use (.construct asked)).2.runAll rest).use (.construct other) =
      (.loader place, (client.use (.construct asked)).2.runAll rest)

/-- A client that has read a text again, and what has become of it before it read the file once more. -/
structure Reread (client now : Client β) (place : Nat) (text : Option String) : Prop where
  holds : client.text? place = text
  succeeds : (client.use (.reload place)).1 = .done
  since : ∃ rest, now = (client.use (.reload place)).2.runAll rest ∧
    ∀ entry ∈ (client.use (.reload place)).2.trace rest, Use.rereads place entry = false

/-- Nothing has become yet of a client that has just read a text again. -/
theorem reread_of_done {place : Nat} {text : Option String} (holds : client.text? place = text)
    (succeeds : (client.use (.reload place)).1 = .done) :
    client.Reread (client.use (.reload place)).2 place text :=
  ⟨holds, succeeds, [], rfl, fun _ listed => (List.not_mem_nil listed).elim⟩

/-- Two clients are told the same about the settings of a loader of each. -/
structure ToldAlike (client other : Client β) (place otherPlace : Nat) : Prop where
  get : ∀ key default,
    (client.use (.get place key default)).1 = (other.use (.get otherPlace key default)).1
  getSection : ∀ name,
    (client.use (.getSection place name)).1 = (other.use (.getSection otherPlace name)).1

/-- Nothing is shared at the beginning, or when the shared loader has been dropped. -/
theorem Shows.unshared (h : client.Shows seen) (unshared : seen.shared = none)
    {before during : List Use} {asked : Option String} {place : Nat}
    (first : client.IsFirst before during asked place) :
    (seen.runAll (before ++ during)).shared = none := by
  have begun : (seen.runAll before).shared = none := by
    rcases first.begins with rfl | ⟨earlier, rfl⟩
    · exact unshared
    · rw [Seen.runAll_append]
      rfl
  rw [Seen.runAll_append]
  refine Seen.unshared_of_runAll ?_ begun
  rw [← (h.runAll before).trace_eq]
  exact first.unobtained

theorem Shows.decides (h : client.Shows seen) (unshared : seen.shared = none)
    {asked : Option String} {place : Nat}
    (succeeds : (client.use (.construct asked)).1 = .loader place) :
    client.Decides asked place := by
  obtain ⟨answers, next⟩ := h.use (.construct asked)
  rw [answers] at succeeds
  have constructs : ∃ sections, place = seen.loaders.length ∧
      (seen.use (.construct asked)).2 = seen.share (pathIn seen.environment asked) sections := by
    rw [Seen.use, unshared] at succeeds ⊢
    dsimp only at succeeds ⊢
    cases read : contentAt seen.files (pathIn seen.environment asked) with
    | error failure =>
      rw [read] at succeeds
      cases succeeds
    | ok sections =>
      rw [read] at succeeds
      cases succeeds
      exact ⟨sections, rfl, rfl⟩
  obtain ⟨sections, rfl, shares⟩ := constructs
  rw [shares] at next
  constructor
  · intro rest
    have shown : (seen.share (pathIn seen.environment asked) sections).loaders[seen.loaders.length]? =
        some { path := pathIn seen.environment asked, sections, ready := true } :=
      List.getElem?_concat_length
    obtain ⟨now, there, path, -⟩ := Seen.kept_of_runAll rest shown
    refine ⟨now, ?_, ?_⟩
    · rw [(next.runAll rest).loader_eq, there]
    · rw [path, pathFor_eq, h.environment]
  · intro rest keeps other
    exact (next.runAll rest).construct_again (Seen.shared_of_runAll keeps rfl) other

/-- What is told of the settings that have been read again is what their text says. -/
theorem Shows.reread (h : client.Shows seen) {now : Client β} {place : Nat} {text : Option String}
    (reread : client.Reread now place text) :
    (∀ key default, (now.use (.get place key default)).1 =
      .value (valueIn now.world.environment (settingsOf text) key default)) ∧
    ∀ name, (now.use (.getSection place name)).1 =
      match sectionOf (settingsOf text) name with
      | .ok value => .value value
      | .error failure => .failed failure := by
  obtain ⟨rest, rfl, apart⟩ := reread.since
  obtain ⟨answers, next⟩ := h.use (.reload place)
  have succeeds := reread.succeeds
  rw [answers] at succeeds
  have reloads : ∃ loader sections, seen.loaders[place]? = some loader ∧
      contentAt seen.files loader.path = .ok sections ∧
      (seen.use (.reload place)).2 = seen.replace place sections := by
    rw [Seen.use, Seen.useAt] at succeeds ⊢
    cases shown : seen.loaders[place]? with
    | none =>
      rw [shown] at succeeds
      cases succeeds
    | some loader =>
      rw [shown] at succeeds
      dsimp only at succeeds ⊢
      cases read : contentAt seen.files loader.path with
      | error failure =>
        rw [read] at succeeds
        cases succeeds
      | ok sections => exact ⟨loader, sections, rfl, read, rfl⟩
  obtain ⟨loader, sections, shown, read, replaces⟩ := reloads
  -- what was read is what the text says, and it stays until the file is read once more
  have held : sections = settingsOf text := by
    rw [contentAt_eq_ok read, ← reread.holds, text?, h.loader_eq, shown, h.files]
    rfl
  rw [next.trace_eq, replaces] at apart
  rw [replaces] at next
  have there : (seen.replace place sections).loaders[place]? = some { loader with sections } := by
    rw [Seen.replace, List.getElem?_modify_eq, shown]
    rfl
  obtain ⟨known, later, -, kept⟩ := Seen.kept_of_runAll rest there
  have settings : known.sections = settingsOf text := (kept apart).trans held
  have shows := next.runAll rest
  constructor
  · intro key default
    rw [(shows.use _).1, Seen.use, Seen.useAt, later, shows.environment, ← settings]
  · intro name
    rw [(shows.use _).1, Seen.use, Seen.useAt, later, ← settings]
    dsimp only
    cases sectionOf known.sections name <;> rfl

/-- A load succeeds as a whole or not at all. Whatever a client does while the files and the environment
change: without the loads that failed all other uses are answered as before; the first construction
that succeeds decides the path, and later ones obtain the same loader unchanged; and what is told once
a file has been read again depends on its text at that time, and on the environment, alone. -/
theorem loadsWhole_of_run (world : World β) :
    (∀ uses, (inside world).trace
        ((((inside world).trace uses).filter (!Use.failedLoad ·)).map Prod.fst) =
      ((inside world).trace uses).filter (!Use.failedLoad ·)) ∧
    (∀ before during asked place, (inside world).IsFirst before during asked place →
      ((inside world).runAll (before ++ during)).Decides asked place) ∧
    ∀ (elsewhere : World β) uses others now otherNow place otherPlace text,
      ((inside world).runAll uses).Reread now place text →
      ((inside elsewhere).runAll others).Reread otherNow otherPlace text →
      now.world.environment = otherNow.world.environment →
        now.ToldAlike otherNow place otherPlace := by
  have shows := inside_shows world
  refine ⟨fun uses => ?_, ?_, ?_⟩
  · simp only [shows.trace_eq]
    exact Seen.trace_without_failed _ uses
  · intro before during asked place first
    exact (shows.runAll _).decides (shows.unshared rfl first) first.succeeds
  · intro elsewhere uses others now otherNow place otherPlace text reread otherReread environment
    obtain ⟨get, getSection⟩ := (shows.runAll uses).reread reread
    obtain ⟨otherGet, otherGetSection⟩ := ((inside_shows elsewhere).runAll others).reread otherReread
    constructor
    · intro key default
      rw [get, otherGet, environment]
    · intro name
      rw [getSection, otherGetSection]

namespace Trial

/-- A world with a file of settings, and one that is no document. -/
def desk : World ScriptedBrowser where
  browser := {}
  clock := default
  files := ⟨[(["broken.yaml"], .file "["), (["good.yaml"], .file "finder: {timeout: 7}")]⟩

/-- A loader is asked for with the broken file. -/
def broken : List Use := [.construct (some "broken.yaml")]

/-- A loader is obtained with the good file, which is changed then. -/
def changed : List Use :=
  [.construct (some "good.yaml"),
    .changeFiles fun files => files.put ["good.yaml"] (.file "finder: {timeout: 9}")]

/-- A loader is obtained with a file that holds the changed text from the beginning. -/
def direct : List Use :=
  [.changeFiles fun files => files.put ["other.yaml"] (.file "finder: {timeout: 9}"),
    .construct (some "other.yaml")]

/-- The broken file fails to be loaded, the next one decides, and when it has changed and is read again,
what is told is the same as if nothing had gone before. -/
theorem broken_file_passed_over :
    ((inside desk).trace broken).map Use.failedLoad = [true] ∧
      (inside desk).IsFirst [] broken (some "good.yaml") 0 ∧
      ((inside desk).runAll ([] ++ broken)).Decides (some "good.yaml") 0 ∧
      (((inside desk).runAll (broken ++ changed)).use (.reload 0)).2.ToldAlike
        (((inside desk).runAll direct).use (.reload 0)).2 0 0 := by
  obtain ⟨-, decides, alike⟩ := loadsWhole_of_run desk
  have first : (inside desk).IsFirst [] broken (some "good.yaml") 0 :=
    ⟨.inl rfl, by decide +kernel, Answer.loader?_eq_some.mp (by decide +kernel)⟩
  have rereadChanged : ((inside desk).runAll (broken ++ changed)).Reread _ 0
      (some "finder: {timeout: 9}") :=
    reread_of_done (by decide +kernel) (Answer.isDone_eq_true.mp (by decide +kernel))
  have rereadDirect : ((inside desk).runAll direct).Reread _ 0 (some "finder: {timeout: 9}") :=
    reread_of_done (by decide +kernel) (Answer.isDone_eq_true.mp (by decide +kernel))
  refine ⟨by decide +kernel, first, decides _ _ _ _ first, ?_⟩
  exact alike _ _ _ _ _ _ _ _ rereadChanged rereadDirect (by decide +kernel)

end Trial

end Client

end PageContracts.Settings
