import PageContracts.Proofs.Additions

/-! # Configuring a page driver

The settings of a driver, and the uses it is put to. What it is set to while it is not started is
what it works with until it is stopped; only whether failures are documented can be set at any
time. -/
namespace PageContracts

open Runs

variable {β : Type}

namespace PageDriver

/-- A setting of a page driver, with what is offered for it. -/
inductive Setting where
  | baseUrl (value : Value)
  | browserType (value : Value)
  | headless (value : Value)
  | finder (offered : Option Finder)
  | base (offered : BaseClass ⊕ Value)
  | screenshotDir (value : Value)
  | screenshotOnError (value : Value)

/-- What a driver has only while it is started. -/
def equipment (driver : PageDriver) : Option Nat × Option Session × Option Factory :=
  (driver.manager, driver.session, driver.factory)

namespace Setting

/-- Offer a driver a setting. -/
def apply (number : Nat) : Setting → Run β Unit
  | .baseUrl value => setBaseUrl number value
  | .browserType value => setBrowserType number value
  | .headless value => setHeadless number value
  | .finder offered => setFinder number offered
  | .base offered => setBase number offered
  | .screenshotDir value => setScreenshotDir number value
  | .screenshotOnError value => setScreenshotOnError number value

/-- The directory of screenshots that is offered, which must be there. -/
def existing (files : FileStore) (value : Value) : Except Failure FilePath := do
  let path ← pathOf value
  if ← files.isDirectory path then return path
  else throw (.valueStated ("screenshot dir must be an existing directory: " ++ path.display))

/-- What a setting makes of a driver. What is offered for it may not be acceptable. -/
def update (files : FileStore) : Setting → Except Failure (PageDriver → PageDriver)
  | .baseUrl value => .ok fun driver => { driver with baseUrl := value }
  | .browserType value => .ok fun driver => { driver with browserType := value }
  | .headless value => .ok fun driver => { driver with headless := value }
  | .finder none => .error (.valueStated "finder must not be None")
  | .finder (some chosen) => .ok fun driver => { driver with finder := chosen }
  | .base offered =>
    (BaseClass.require offered).map fun chosen driver => { driver with base := chosen }
  | .screenshotDir value =>
    (existing files value).map fun path driver => { driver with screenshotDir := path }
  | .screenshotOnError value => .ok fun driver => { driver with screenshotOnError := value }

theorem equipment_of_update {files : FileStore} {setting : Setting}
    {update : PageDriver → PageDriver} (accepted : setting.update files = .ok update)
    (driver : PageDriver) : (update driver).equipment = driver.equipment := by
  cases setting with
  | finder offered =>
    cases offered with
    | none => cases accepted
    | some chosen =>
      cases accepted
      rfl
  | base offered =>
    rw [Setting.update] at accepted
    cases required : BaseClass.require offered with
    | error failure =>
      rw [required] at accepted
      cases accepted
    | ok chosen =>
      rw [required] at accepted
      cases accepted
      rfl
  | screenshotDir value =>
    rw [Setting.update] at accepted
    cases there : existing files value with
    | error failure =>
      rw [there] at accepted
      cases accepted
    | ok path =>
      rw [there] at accepted
      cases accepted
      rfl
  | _ =>
    cases accepted
    rfl

theorem manager_of_update {files : FileStore} {setting : Setting}
    {update : PageDriver → PageDriver} (accepted : setting.update files = .ok update)
    (driver : PageDriver) : (update driver).manager = driver.manager :=
  congrArg Prod.fst (equipment_of_update accepted driver)

/-- Whether a setting is possible only before a driver is started. -/
def needsUnstarted : Setting → Bool
  | .screenshotOnError _ => false
  | _ => true

theorem documents_of_anytime {setting : Setting} (anytime : setting.needsUnstarted = false) :
    ∃ value, setting = .screenshotOnError value := by
  cases setting with
  | screenshotOnError value => exact ⟨value, rfl⟩
  | _ => cases anytime

/-- The refusal of a setting that comes too late. -/
def tooLate : Failure :=
  .outOfTurn "driver configuration must happen before the test starts"

end Setting

/-- The settings of a driver, without what it has only while it is started. -/
def settings (driver : PageDriver) : PageDriver :=
  { driver with manager := none, session := none, factory := none }

end PageDriver

/-- A world with a driver changed. -/
def World.withDriver (world : World β) (number : Nat) (update : PageDriver → PageDriver) :
    World β :=
  { world with drivers := world.drivers.modify number update }

namespace PageDriver

variable {number : Nat} {driver : PageDriver} {world later : World β}

theorem find_of_found (found : world.drivers[number]? = some driver) :
    find number world = .ok driver world := by
  rw [find, bind_of_ok (get_apply world), found]
  rfl

theorem found_of_find (h : find number world = .ok driver later) :
    world.drivers[number]? = some driver ∧ later = world := by
  replace h := get_bind_eq_ok.mp h
  cases found : world.drivers[number]? with
  | none =>
    rw [found] at h
    cases h
  | some other =>
    rw [found] at h
    cases h
    exact ⟨rfl, rfl⟩

theorem drivers_of_withDriver (found : world.drivers[number]? = some driver)
    (update : PageDriver → PageDriver) :
    (world.withDriver number update).drivers[number]? = some (update driver) := by
  rw [World.withDriver, List.getElem?_modify_eq, found]
  rfl

theorem requireUnstarted_of_started (found : world.drivers[number]? = some driver)
    (started : driver.manager.isSome) :
    requireUnstarted number world = .error Setting.tooLate world := by
  rw [requireUnstarted, bind_of_ok (find_of_found found), if_pos started]
  rfl

theorem requireUnstarted_of_unstarted (found : world.drivers[number]? = some driver)
    (unstarted : driver.manager.isSome = false) :
    requireUnstarted number world = .ok () world := by
  rw [requireUnstarted, bind_of_ok (find_of_found found), unstarted]
  rfl

namespace Setting

/-- What becomes of an offer that comes in time. -/
def taken (number : Nat) (setting : Setting) (world : World β) : EStateM.Result Failure (World β) Unit :=
  match setting.update world.files with
  | .ok update => .ok () (world.withDriver number update)
  | .error failure => .error failure world

theorem apply_of_started (found : world.drivers[number]? = some driver)
    (started : driver.manager.isSome) (setting : Setting) (needs : setting.needsUnstarted = true) :
    setting.apply number world = .error tooLate world := by
  have refused := requireUnstarted_of_started found started
  cases setting with
  | screenshotOnError value => cases needs
  | _ => exact bind_of_error refused _

theorem apply_screenshotOnError (value : Value) :
    (Setting.screenshotOnError value).apply number world =
      (Setting.screenshotOnError value).taken number world :=
  rfl

theorem existing_of_path {files : FileStore} {value : Value} {path : FilePath}
    (read : pathOf value = .ok path) :
    existing files value = (files.isDirectory path >>= fun there =>
      if there then .ok path
      else .error (.valueStated ("screenshot dir must be an existing directory: " ++
        path.display))) := by
  rw [existing, read]
  rfl

theorem apply_of_unstarted (found : world.drivers[number]? = some driver)
    (unstarted : driver.manager.isSome = false) (setting : Setting) :
    setting.apply number world = setting.taken number world := by
  have admitted := requireUnstarted_of_unstarted found unstarted
  cases setting with
  | baseUrl value => exact bind_of_ok admitted _
  | browserType value => exact bind_of_ok admitted _
  | headless value => exact bind_of_ok admitted _
  | finder offered =>
    refine (bind_of_ok admitted _).trans ?_
    cases offered <;> rfl
  | base offered =>
    refine (bind_of_ok admitted _).trans ?_
    simp only [taken, update]
    cases BaseClass.require offered <;> rfl
  | screenshotDir value =>
    refine (bind_of_ok admitted _).trans ?_
    simp only [taken, update]
    cases read : pathOf value with
    | error failure =>
      rw [existing, read]
      rfl
    | ok path =>
      rw [existing_of_path read, ofExcept_bind_of_ok rfl, bind_of_ok (get_apply world)]
      rcases world.files.isDirectory path with failure | _ | _ <;> rfl
  | screenshotOnError value => rfl

/-- Offering a setting changes the driver as the setting says, or nothing at all. -/
theorem after_apply (found : world.drivers[number]? = some driver) (setting : Setting) :
    after (setting.apply number) world = world ∨
      ∃ update, setting.update world.files = .ok update ∧
        after (setting.apply number) world = world.withDriver number update := by
  have offered (h : setting.apply number world = setting.taken number world) :
      after (setting.apply number) world = world ∨
        ∃ update, setting.update world.files = .ok update ∧
          after (setting.apply number) world = world.withDriver number update := by
    unfold taken at h
    cases accepted : setting.update world.files with
    | ok update =>
      rw [accepted] at h
      exact .inr ⟨update, rfl, after_of_ok h⟩
    | error failure =>
      rw [accepted] at h
      exact .inl (after_of_error h)
  cases started : driver.manager.isSome with
  | false => exact offered (apply_of_unstarted found started setting)
  | true =>
    cases needs : setting.needsUnstarted with
    | true => exact .inl (after_of_error (apply_of_started found started setting needs))
    | false =>
      obtain ⟨value, rfl⟩ := documents_of_anytime needs
      exact offered (apply_screenshotOnError value)

end Setting
end PageDriver
end PageContracts
