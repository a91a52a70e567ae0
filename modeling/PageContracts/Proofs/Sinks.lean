import PageContracts.Proofs.Loading
import PageContracts.Settings.LoggerSetup

/-! # Sinks of the logger

Setting the logger up removes all sinks before the new ones are worked out. What is missing then is
missing for good: a set-up that cannot read the settings keeps the sinks there were, and one that fails
later has lost them. One that does not fail leaves just the sinks the settings ask for, and nothing
changes them until the set-up is allowed again. -/
namespace PageContracts.LoggerSetup

open Runs

variable {β α : Type}

/-- Neither the sinks nor whether the logger is set up have changed. -/
structure SameLogger (before later : World β) : Prop where
  sinks : later.sinks = before.sinks
  ready : later.loggerReady = before.loggerReady

instance : IsPreorder (World β) SameLogger where
  refl _ := ⟨rfl, rfl⟩
  trans _ _ _ hab hbc := ⟨hbc.sinks.trans hab.sinks, hbc.ready.trans hab.ready⟩

/-- A run that leaves the logger alone. -/
abbrev LeavesLogger (run : Run β α) : Prop :=
  Moves SameLogger run

theorem readFile_leavesLogger (path : FilePath) :
    LeavesLogger (Settings.readFile path : Run β Document.Content) := by
  intro world
  obtain ⟨records, reads⟩ := Settings.readFile_apply path world
  rw [after, reads]
  cases Settings.contentAt world.files path <;> exact ⟨rfl, rfl⟩

theorem load_leavesLogger (asked : Option String) :
    LeavesLogger (Settings.load asked : Run β Nat) := by
  refine Moves.bind ?_ fun number => Moves.bind ?_ fun loader => ?_
  · refine Moves.get_bind fun world => ?_
    cases world.sharedLoader <;> exact ⟨rfl, rfl⟩
  · refine Moves.get_bind fun world => ?_
    cases world.loaders[number]? <;> exact ⟨rfl, rfl⟩
  · split
    · exact Moves.pure number
    · refine Moves.get.bind fun world => ?_
      refine Moves.bind (Moves.modify fun _ => ⟨rfl, rfl⟩) fun _ => ?_
      refine (readFile_leavesLogger _).bind fun sections => ?_
      exact Moves.bind (Moves.modify fun _ => ⟨rfl, rfl⟩) fun _ => Moves.pure number

section Wanting

/-- What a set-up of the logger goes by. -/
structure Wanted where
  level : Value
  format : Value
  file : Value
  rotation : Value
  retention : Value

/-- What a set-up goes by for which a level and a layout are given, or not, where the other settings
are those of an environment and a settings file. -/
def wantedIn (environment : List (String × String)) (sections : Document.Content)
    (level format : Value) : Wanted :=
  let setting := Settings.valueIn environment sections
  { level := if level.truthy then level else setting "logging.level" (.text "INFO")
    format := if format.truthy then format else setting "logging.format" (.text standardFormat)
    file := setting "logging.file" .none
    rotation := setting "logging.rotation" (.text "10 MB")
    retention := setting "logging.retention" (.text "7 days") }

/-- The settings can be loaded in a world, and this is what a set-up goes by there. -/
def Wants (world : World β) (level format : Value) (wanted : Wanted) : Prop :=
  ∃ number loaded loader, Settings.load none world = .ok number loaded ∧
    loaded.loaders[number]? = some loader ∧
    wanted = wantedIn world.environment loader.sections level format

/-- The files once a path is a directory. -/
def withDirectory (path : FilePath) (files : FileStore) : Except Failure FileStore :=
  match FileChange.ensureDirectory path files with
  | .ok _ files => .ok files
  | .error failure _ => .error failure

namespace Wanted

/-- The sink on standard error that is wanted, if it can be installed. -/
def standard (wanted : Wanted) (admits : Admission) (files : FileStore) : Except Failure Sink := do
  let sink := standardSink (← levelName wanted.level) wanted.format
  admits files sink
  return sink

/-- The sink of a file that is wanted, if it can be installed. -/
def ofFile (wanted : Wanted) (admits : Admission) (files : FileStore) : Except Failure Sink := do
  let path ← filePath wanted.file
  let files ← withDirectory (FilePath.parse path).parent files
  let level ← levelName wanted.level
  let sink := fileSink path level (← fileFormat wanted.format) wanted.rotation wanted.retention
  admits files sink
  return sink

/-- All sinks that are wanted, if they can be installed. -/
def all (wanted : Wanted) (admits : Admission) (files : FileStore) : Except Failure (List Sink) := do
  let standard ← wanted.standard admits files
  if wanted.file.truthy then return [standard, ← wanted.ofFile admits files] else return [standard]

/-- The sinks that are installed before the one that cannot be, where not all can. -/
def reached (wanted : Wanted) (admits : Admission) (files : FileStore) : List Sink :=
  (wanted.standard admits files).toOption.toList

/-- Where the records go for which the sinks are wanted: to standard error, and to the file that is
named if one is. -/
def Targets (wanted : Wanted) (targets : List SinkTarget) : Prop :=
  wanted.file.truthy = false ∧ targets = [.standardError] ∨
    wanted.file.truthy = true ∧ ∃ path, wanted.file = .text path ∧
      targets = [.standardError, .file path]

theorem targets_of_all {wanted : Wanted} {admits : Admission} {files : FileStore} {sinks : List Sink}
    (all : wanted.all admits files = .ok sinks) : wanted.Targets (sinks.map Sink.target) := by
  obtain ⟨standard, first, all⟩ := except_bind_eq_ok.mp all
  obtain ⟨level, -, first⟩ := except_bind_eq_ok.mp first
  obtain ⟨_, -, first⟩ := except_bind_eq_ok.mp first
  cases first
  split at all
  · next named =>
    obtain ⟨sink, second, all⟩ := except_bind_eq_ok.mp all
    cases all
    obtain ⟨path, placed, second⟩ := except_bind_eq_ok.mp second
    obtain ⟨_, -, second⟩ := except_bind_eq_ok.mp second
    obtain ⟨_, -, second⟩ := except_bind_eq_ok.mp second
    obtain ⟨_, -, second⟩ := except_bind_eq_ok.mp second
    obtain ⟨_, -, second⟩ := except_bind_eq_ok.mp second
    cases second
    refine .inr ⟨named, path, ?_, rfl⟩
    unfold filePath at placed
    split at placed
    · next text =>
      cases placed
      exact text
    · cases placed
  · next unnamed =>
    cases all
    exact .inl ⟨by simpa using unnamed, rfl⟩

end Wanted

variable {admits : Admission} {number : Nat} {loader : SettingsLoader} {world : World β}

theorem install_apply (admits : Admission) (sink : Sink) (world : World β) :
    ∃ events, install admits sink world =
      match admits world.files sink with
      | .ok _ => .ok () { world with events, sinks := world.sinks ++ [sink] }
      | .error failure => .error failure { world with events } := by
  refine ⟨world.events ++ [.addSink sink], ?_⟩
  have noting : (Run.note (.addSink sink) : Run β Unit) world =
    .ok () { world with events := world.events ++ [.addSink sink] } := rfl
  rw [install, bind_of_ok noting, bind_of_ok (get_apply _)]
  cases admits world.files sink <;> rfl

theorem installStandard_apply (admits : Admission) (wanted : Wanted) (world : World β) :
    ∃ events, installStandard admits wanted.level wanted.format world =
      match wanted.standard admits world.files with
      | .ok sink => .ok () { world with events, sinks := world.sinks ++ [sink] }
      | .error failure => .error failure { world with events } := by
  rw [installStandard, Wanted.standard]
  cases levelName wanted.level with
  | error failure => exact ⟨world.events, rfl⟩
  | ok name =>
    obtain ⟨events, installs⟩ := install_apply admits (standardSink name wanted.format) world
    refine ⟨events, ?_⟩
    rw [ofExcept_ok, pure_bind, installs]
    cases admitted : admits world.files (standardSink name wanted.format) with
    | error failure => simp only [admitted, bind, Except.bind]
    | ok _ => simp only [admitted, bind, Except.bind, pure, Except.pure]

theorem Wanted.ofFile_of_path {wanted : Wanted} {path : String}
    (placed : filePath wanted.file = .ok path) (files : FileStore) :
    wanted.ofFile admits files =
      match FileChange.ensureDirectory (FilePath.parse path).parent files with
      | .error failure _ => .error failure
      | .ok _ files => do
        let level ← levelName wanted.level
        let sink := fileSink path level (← fileFormat wanted.format) wanted.rotation wanted.retention
        admits files sink
        return sink := by
  rw [Wanted.ofFile, placed]
  change (withDirectory (FilePath.parse path).parent files >>= _) = _
  rw [withDirectory]
  cases FileChange.ensureDirectory (FilePath.parse path).parent files <;> rfl

theorem installFile_apply (admits : Admission) (found : world.loaders[number]? = some loader)
    {wanted : Wanted} {level format : Value}
    (wants : wanted = wantedIn world.environment loader.sections level format) :
    ∃ files events records, installFile admits number wanted.file wanted.level wanted.format world =
      match wanted.ofFile admits world.files with
      | .ok sink => .ok () { world with files, events, records, sinks := world.sinks ++ [sink] }
      | .error failure => .error failure { world with files, events, records } := by
  rw [installFile]
  cases placed : filePath wanted.file with
  | error failure =>
    rw [Wanted.ofFile, placed]
    exact ⟨world.files, world.events, world.records, rfl⟩
  | ok path =>
    rw [ofExcept_ok, pure_bind, Wanted.ofFile_of_path placed]
    cases making : FileChange.ensureDirectory (FilePath.parse path).parent world.files with
    | error failure files =>
      have makes : makeParent path world = .error failure { world with files } := by
        rw [makeParent, Run.changeFiles, making]
      exact ⟨files, world.events, world.records, bind_of_error makes _⟩
    | ok _ files =>
      have makes : makeParent path world = .ok () { world with files } := by
        rw [makeParent, Run.changeFiles, making]
      rw [bind_of_ok makes]
      cases levelName wanted.level with
      | error failure => exact ⟨files, world.events, world.records, rfl⟩
      | ok name =>
        rw [ofExcept_ok, pure_bind]
        cases fileFormat wanted.format with
        | error failure => exact ⟨files, world.events, world.records, rfl⟩
        | ok layout =>
          have there : ({ world with files } : World β).loaders[number]? = some loader := found
          obtain ⟨first, rotation⟩ := Settings.get_eq_ok there "logging.rotation" (.text "10 MB")
          have again : ({ world with files, records := first } : World β).loaders[number]? =
            some loader := found
          obtain ⟨records, retention⟩ := Settings.get_eq_ok again "logging.retention" (.text "7 days")
          rw [ofExcept_ok, pure_bind, bind_of_ok rotation, bind_of_ok retention]
          subst wants
          obtain ⟨events, installs⟩ := install_apply admits (fileSink path name layout
            (wantedIn world.environment loader.sections level format).rotation
            (wantedIn world.environment loader.sections level format).retention)
            { world with files, records }
          refine ⟨files, events, records, installs.trans ?_⟩
          simp only [bind, Except.bind, pure, Except.pure]
          split
          · next admitted => rw [admitted]
          · next admitted => rw [admitted]

theorem givenOr_eq_ok (found : world.loaders[number]? = some loader) (given : Value) (key : String)
    (default : Value) :
    ∃ records, givenOr given number key default world = .ok
      (if given.truthy then given else
        Settings.valueIn world.environment loader.sections key default) { world with records } := by
  rw [givenOr]
  split
  · exact ⟨world.records, rfl⟩
  · exact Settings.get_eq_ok found key default

/-- How the sinks are installed that are wanted: all of them, or those before the one that cannot be
installed. -/
inductive Installs (admits : Admission) (wanted : Wanted) (world : World β) :
    EStateM.Result Failure (World β) Unit → Prop
  | stopped {failure : Failure} {later : World β}
      (fails : wanted.all admits world.files = .error failure)
      (sinks : later.sinks = world.sinks ++ wanted.reached admits world.files)
      (ready : later.loggerReady = world.loggerReady) :
      Installs admits wanted world (.error failure later)
  | done {sinks : List Sink} {later : World β} (all : wanted.all admits world.files = .ok sinks)
      (installed : later.sinks = world.sinks ++ sinks)
      (ready : later.loggerReady = world.loggerReady) : Installs admits wanted world (.ok () later)

theorem installAll_installs (admits : Admission) (found : world.loaders[number]? = some loader)
    {wanted : Wanted} {level format : Value}
    (wants : wanted = wantedIn world.environment loader.sections level format) :
    Installs admits wanted world (installAll admits number wanted.level wanted.format world) := by
  obtain ⟨events, first⟩ := installStandard_apply admits wanted world
  rw [installAll]
  cases standard : wanted.standard admits world.files with
  | error failure =>
    rw [standard] at first
    have fails : wanted.all admits world.files = .error failure := by
      rw [Wanted.all, standard]
      rfl
    have none : wanted.reached admits world.files = [] := by
      rw [Wanted.reached, standard]
      rfl
    rw [bind_of_error first]
    exact .stopped fails (by rw [none, List.append_nil]) rfl
  | ok sink =>
    rw [standard] at first
    have there : ({ world with events, sinks := world.sinks ++ [sink] } : World β).loaders[number]? =
      some loader := found
    obtain ⟨records, asks⟩ := Settings.get_eq_ok there "logging.file" .none
    have file : Settings.valueIn world.environment loader.sections "logging.file" .none =
      wanted.file := by rw [wants]; rfl
    rw [bind_of_ok first, bind_of_ok asks, file]
    cases named : wanted.file.truthy with
    | false =>
      have all : wanted.all admits world.files = .ok [sink] := by
        rw [Wanted.all, standard, named]
        rfl
      exact .done all rfl rfl
    | true =>
      have again : ({ world with events, records, sinks := world.sinks ++ [sink] } :
        World β).loaders[number]? = some loader := found
      obtain ⟨files, events, records, second⟩ := installFile_apply admits again wants
      rw [if_pos rfl, second]
      cases ofFile : wanted.ofFile admits world.files with
      | error failure =>
        have fails : wanted.all admits world.files = .error failure := by
          rw [Wanted.all, standard, named, ofFile]
          rfl
        have one : wanted.reached admits world.files = [sink] := by
          rw [Wanted.reached, standard]
          rfl
        exact .stopped fails (by rw [one]) rfl
      | ok other =>
        have all : wanted.all admits world.files = .ok [sink, other] := by
          rw [Wanted.all, standard, named, ofFile]
          rfl
        exact .done all (List.append_assoc ..) rfl

end Wanting

section SettingUp

variable {admits : Admission} {level format : Value} {world : World β}

theorem conclude_apply (level : Value) (world : World β) :
    ∃ records, conclude level world =
      match level.spoken with
      | .ok _ => .ok () { world with loggerReady := true, records }
      | .error failure => .error failure { world with loggerReady := true, records } := by
  have remembers : (modify fun world => { world with loggerReady := true } : Run β Unit) world =
    .ok () { world with loggerReady := true } := rfl
  rw [conclude, bind_of_ok remembers]
  cases level.spoken <;> exact ⟨_, rfl⟩

/-- How setting the logger up goes. -/
inductive SetsUp (admits : Admission) (level format : Value) (world : World β) :
    EStateM.Result Failure (World β) Unit → Prop
  | again (ready : world.loggerReady = true) : SetsUp admits level format world (.ok () world)
  /-- The settings cannot be loaded. -/
  | unread {failure : Failure} {later : World β} (unready : world.loggerReady = false)
      (fails : Settings.load none world = .error failure later) (same : SameLogger world later) :
      SetsUp admits level format world (.error failure later)
  /-- A sink cannot be installed, and all sinks have been removed but for those installed before. -/
  | stopped {wanted : Wanted} {failure : Failure} {later : World β}
      (unready : world.loggerReady = false) (wants : Wants world level format wanted)
      (fails : wanted.all admits world.files = .error failure)
      (sinks : later.sinks = wanted.reached admits world.files) (stays : later.loggerReady = false) :
      SetsUp admits level format world (.error failure later)
  /-- The logger is set up, but the level cannot be told in the message that says so. -/
  | untold {wanted : Wanted} {failure : Failure} {later : World β}
      (unready : world.loggerReady = false) (wants : Wants world level format wanted)
      (all : wanted.all admits world.files = .ok later.sinks)
      (fails : wanted.level.spoken = .error failure) (ready : later.loggerReady = true) :
      SetsUp admits level format world (.error failure later)
  | done {wanted : Wanted} {told : String} {later : World β}
      (unready : world.loggerReady = false) (wants : Wants world level format wanted)
      (all : wanted.all admits world.files = .ok later.sinks)
      (tells : wanted.level.spoken = .ok told) (ready : later.loggerReady = true) :
      SetsUp admits level format world (.ok () later)

theorem setsUp_of_run (admits : Admission) (level format : Value) (world : World β) :
    SetsUp admits level format world (setUpAdmitting admits level format world) := by
  rw [setUpAdmitting, bind_of_ok (get_apply world)]
  cases unready : world.loggerReady with
  | true => exact .again unready
  | false =>
    change SetsUp admits level format world (setUpAfresh admits level format world)
    rw [setUpAfresh]
    cases loads : Settings.load none world with
    | error failure later =>
      rw [bind_of_error loads]
      exact .unread unready loads ((load_leavesLogger none).of_eq_error loads)
    | ok number loaded =>
      obtain ⟨⟨loader, found⟩, files, environment⟩ := Settings.load_eq_ok loads
      have same := (load_leavesLogger none).of_eq_ok loads
      have unset : loaded.loggerReady = false := same.ready.trans unready
      let wanted := wantedIn loaded.environment loader.sections level format
      have wants : Wants world level format wanted :=
        ⟨number, loaded, loader, loads, found, by rw [← environment]⟩
      obtain ⟨first, levels⟩ := givenOr_eq_ok found level "logging.level" (.text "INFO")
      have again : ({ loaded with records := first } : World β).loaders[number]? = some loader :=
        found
      obtain ⟨records, formats⟩ := givenOr_eq_ok again format "logging.format" (.text standardFormat)
      rw [bind_of_ok loads, bind_of_ok levels, bind_of_ok formats]
      -- all sinks are gone from here on
      let cleared : World β := { loaded with
        records, events := loaded.events ++ [.markRecords "-"] ++ [.removeSinks], sinks := [] }
      change SetsUp admits level format world
        ((installAll admits number wanted.level wanted.format >>= fun _ => conclude wanted.level) cleared)
      have there : cleared.loaders[number]? = some loader := found
      have installs : Installs admits wanted cleared
          (installAll admits number wanted.level wanted.format cleared) :=
        installAll_installs admits there rfl
      generalize ran : installAll admits number wanted.level wanted.format cleared = result at installs
      cases installs with
      | stopped fails sinks ready =>
        rw [bind_of_error ran]
        refine .stopped unready wants ?_ ?_ (ready.trans unset)
        · rw [← files]
          exact fails
        · rw [← files]
          exact sinks
      | @done sinks later all installed ready =>
        obtain ⟨records, concludes⟩ := conclude_apply wanted.level later
        let finished : World β := { later with loggerReady := true, records }
        have reached : wanted.all admits world.files = .ok finished.sinks := by
          change _ = Except.ok later.sinks
          rw [installed, ← files]
          exact all
        rw [bind_of_ok ran, concludes]
        cases told : wanted.level.spoken with
        | error failure => exact .untold unready wants reached told rfl
        | ok text => exact .done unready wants reached told rfl

theorem Wants.unique {wanted other : Wanted} (wants : Wants world level format wanted)
    (again : Wants world level format other) : wanted = other := by
  obtain ⟨number, loaded, loader, loads, found, rfl⟩ := wants
  obtain ⟨_, _, _, loads', found', rfl⟩ := again
  cases loads.symm.trans loads'
  cases found.symm.trans found'
  rfl

/-- Nothing is lost if a set-up fails: the settings cannot be loaded, or the sinks there were are just
those that are installed until it fails. -/
inductive Lossless (admits : Admission) (level format : Value) (world : World β) : Prop
  | unread {failure : Failure} {later : World β}
      (fails : Settings.load none world = .error failure later)
  | stopped {wanted : Wanted} {failure : Failure} (wants : Wants world level format wanted)
      (fails : wanted.all admits world.files = .error failure)
      (same : world.sinks = wanted.reached admits world.files)

theorem lossless_iff {wanted : Wanted} (wants : Wants world level format wanted) :
    Lossless admits level format world ↔ (∃ failure, wanted.all admits world.files = .error failure) ∧
      world.sinks = wanted.reached admits world.files := by
  constructor
  · intro lossless
    cases lossless with
    | unread fails =>
      obtain ⟨number, loaded, loader, loads, -⟩ := wants
      cases loads.symm.trans fails
    | stopped others fails same =>
      cases wants.unique others
      exact ⟨⟨_, fails⟩, same⟩
  · rintro ⟨⟨failure, fails⟩, same⟩
    exact .stopped wants fails same

/-- A set-up that fails leaves the logger as it was just where nothing is lost. -/
theorem SetsUp.keeps_iff {failure : Failure} {later : World β}
    (h : SetsUp admits level format world (.error failure later)) :
    later.sinks = world.sinks ∧ later.loggerReady = false ↔ Lossless admits level format world := by
  cases h with
  | unread unready fails same =>
    exact ⟨fun _ => .unread fails, fun _ => ⟨same.sinks, same.ready.trans unready⟩⟩
  | stopped unready wants fails sinks stays =>
    rw [lossless_iff wants, sinks, and_iff_left stays, and_iff_right ⟨failure, fails⟩]
    exact eq_comm
  | untold unready wants all fails ready =>
    rw [lossless_iff wants, ready, all]
    simp

theorem setUp_of_ready (ready : world.loggerReady = true) (level format : Value) :
    setUpAdmitting admits level format world = .ok () world := by
  rw [setUpAdmitting, bind_of_ok (get_apply world), ready]
  rfl

/-- Something that is done to the logger or that leaves it alone. -/
inductive Use (β : Type) where
  | setUp (level format : Value)
  | allowAgain
  | elsewhere (change : World β → World β)

namespace Use

/-- Whether a use allows that the logger is set up again. -/
def resets : Use β → Bool
  | .allowAgain => true
  | _ => false

/-- The world after a use. -/
def apply (admits : Admission) : Use β → World β → World β
  | .setUp level format, world => after (setUpAdmitting admits level format) world
  | .allowAgain, world => after LoggerSetup.allowAgain world
  | .elsewhere change, world =>
    { change world with sinks := world.sinks, loggerReady := world.loggerReady }

/-- The world after some uses. -/
def applyAll (admits : Admission) (uses : List (Use β)) (world : World β) : World β :=
  uses.foldl (fun world use => use.apply admits world) world

/-- Once the logger is set up no use changes it but one that allows it. -/
theorem apply_sameLogger (admits : Admission) {use : Use β} (ready : world.loggerReady = true)
    (keeps : use.resets = false) : SameLogger world (use.apply admits world) := by
  cases use with
  | setUp level format =>
    rw [apply, after_of_ok (setUp_of_ready ready level format)]
    exact ⟨rfl, rfl⟩
  | allowAgain => cases keeps
  | elsewhere change =>
    constructor
    · rfl
    · rfl

theorem applyAll_sameLogger (admits : Admission) {uses : List (Use β)}
    (ready : world.loggerReady = true) (keep : ∀ use ∈ uses, use.resets = false) :
    SameLogger world (applyAll admits uses world) := by
  induction uses generalizing world with
  | nil => exact ⟨rfl, rfl⟩
  | cons use rest ih =>
    obtain ⟨keeps, keep⟩ := List.forall_mem_cons.mp keep
    have first := apply_sameLogger admits ready keeps
    have second := ih (first.ready.trans ready) keep
    exact ⟨second.sinks.trans first.sinks, second.ready.trans first.ready⟩

end Use

/-- What setting the logger up comes to where some sinks can be installed. -/
structure Initializes (admits : Admission) (level format : Value) (world : World β) : Prop where
  course : SetsUp admits level format world (setUpAdmitting admits level format world)
  keeps_iff : ∀ failure later, setUpAdmitting admits level format world = .error failure later →
    (later.sinks = world.sinks ∧ later.loggerReady = false ↔ Lossless admits level format world)
  targets : ∀ later, setUpAdmitting admits level format world = .ok () later →
    world.loggerReady = false → later.loggerReady = true ∧
      ∃ wanted, Wants world level format wanted ∧ wanted.Targets (later.sinks.map Sink.target)
  /-- Until it is allowed again nothing comes of further set-ups, whatever else is done. -/
  lasts : ∀ later, setUpAdmitting admits level format world = .ok () later →
    ∀ uses : List (Use β), (∀ use ∈ uses, use.resets = false) →
      SameLogger later (Use.applyAll admits uses later) ∧
        ∀ level format, setUpAdmitting admits level format (Use.applyAll admits uses later) =
          .ok () (Use.applyAll admits uses later)

/-- A set-up of the logger that does not fail installs just the sinks that are wanted, for good. One
that fails keeps the sinks there were just where it has nothing to lose. -/
theorem initializes_of_run (admits : Admission) (level format : Value) (world : World β) :
    Initializes admits level format world := by
  have course := setsUp_of_run admits level format world
  refine ⟨course, fun failure later failed => ?_, fun later ended unready => ?_,
    fun later ended uses keep => ?_⟩
  · rw [failed] at course
    exact course.keeps_iff
  · rw [ended] at course
    cases course with
    | again ready => cases unready.symm.trans ready
    | done _ wants all _ ready => exact ⟨ready, _, wants, Wanted.targets_of_all all⟩
  · rw [ended] at course
    have ready : later.loggerReady = true := by
      cases course with
      | again ready => exact ready
      | done _ _ _ _ ready => exact ready
    have same := Use.applyAll_sameLogger admits ready keep
    exact ⟨same, fun level format => setUp_of_ready (same.ready.trans ready) level format⟩

/-- A logger with a sink, where the level that the settings file names is a number. -/
def numbered : World Unit where
  browser := ()
  clock := default
  sinks := [standardSink (.text "INFO") (.text standardFormat)]
  loaders := [{
    ready := true
    sections := {
      collections := #[.map [(.text "logging", .collection 1)],
        .map [(.text "level", .plain (.int 10))]]
      root := .collection 0 } }]
  sharedLoader := some 0

/-- The set-up fails because of the level, and the sink there was is gone. -/
theorem sink_lost :
    failure? (setUp .none .none numbered) = some (.missing "upper") ∧
      numbered.sinks.length = 1 ∧ (after (setUp .none .none) numbered).sinks.length = 0 := by
  exact ⟨by decide +kernel, rfl, by decide +kernel⟩

end SettingUp

end PageContracts.LoggerSetup
