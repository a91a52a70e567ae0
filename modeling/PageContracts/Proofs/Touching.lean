import PageContracts.Proofs.Refusals
import PageContracts.Proofs.Searching

/-! # Touching elements

A primitive action touches an element only after the finder has found it: it is clicked, typed into
or read when it has become visible in time, and left alone when it has not. Then the operation ends
as the search for it ended, and no primitive after it is carried out. -/
namespace PageContracts

open Runs
open World (Adds SameInside)

variable {β α γ : Type}

/-- A journal in which whatever is touched has been found before: nothing but touches of the same
element stand between a touch and its appearance. -/
def Guarded (journal : List Event) : Prop :=
  ∀ before event rest, journal = before ++ event :: rest → ∀ page selector,
    event.touches? = some (page, selector) → ∃ early timeout acts,
      before = early ++ .appears page selector timeout :: acts ∧
        ∀ act ∈ acts, act.touches? = some (page, selector)

namespace Guarded

variable {first second : List Event}

theorem of_untouching (h : ∀ event ∈ first, event.Untouching) : Guarded first := by
  intro before event rest same page selector touches
  have untouched : event.touches? = none := h event (by simp [same])
  rw [untouched] at touches
  cases touches

theorem append (h : Guarded first) (k : Guarded second) : Guarded (first ++ second) := by
  intro before event rest same page selector touches
  rcases List.append_eq_append_iff.mp same with ⟨more, rfl, inside⟩ | ⟨left, rfl, inside⟩
  · obtain ⟨early, timeout, acts, rfl, only⟩ := k more event rest inside page selector touches
    exact ⟨first ++ early, timeout, acts, by rw [List.append_assoc], only⟩
  · cases left with
    | nil =>
      obtain ⟨early, timeout, acts, nothing, -⟩ := k [] event rest inside.symm page selector touches
      cases early <;> cases nothing
    | cons other left =>
      rw [List.cons_append] at inside
      obtain ⟨rfl, rfl⟩ := List.cons.inj inside
      exact h before event left rfl page selector touches

/-- Touching one element is in order when it has appeared. -/
theorem of_acts {page : Nat} {selector : String} (timeout : Value) {acts : List Event}
    (touches : ∀ act ∈ acts, act.touches? = some (page, selector)) :
    Guarded (.appears page selector timeout :: acts) := by
  intro before event rest same page' selector' touches'
  cases before with
  | nil =>
    obtain ⟨rfl, -⟩ := List.cons.inj same
    cases touches'
  | cons first before =>
    obtain ⟨rfl, rfl⟩ := List.cons.inj same
    cases (touches event (by simp)).symm.trans touches'
    exact ⟨[], timeout, before, rfl, fun act listed => touches act (List.mem_append_left _ listed)⟩

end Guarded

/-- The journal of the second world goes on from that of the first, and whatever is touched since has
been found since. -/
structure World.Finds (before later : World β) : Prop where
  events : ∃ added, later.events = before.events ++ added ∧ Guarded added

instance : IsPreorder (World β) World.Finds where
  refl _ := ⟨[], (List.append_nil _).symm, .of_untouching nofun⟩
  trans _ _ _ hab hbc := by
    obtain ⟨first, grown, guarded⟩ := hab.events
    obtain ⟨second, grows, guards⟩ := hbc.events
    exact ⟨first ++ second, by rw [grows, grown, List.append_assoc], guarded.append guards⟩

open World (Finds)

theorem World.Adds.finds {world later : World β} (h : Adds Event.Untouching world later) :
    Finds world later := by
  obtain ⟨added, grown, untouching⟩ := h.events
  exact ⟨added, grown, .of_untouching untouching⟩

/-- A run that adds nothing to the journal. -/
abbrev Silent (run : Run β α) : Prop :=
  AddsOnly (fun _ => False) run

theorem Silent.events_eq {world later : World β} (h : Adds (fun _ => False) world later) :
    later.events = world.events := by
  obtain ⟨added, grown, never⟩ := h.events
  cases added with
  | nil => rw [grown, List.append_nil]
  | cons event more => exact (never event List.mem_cons_self).elim

theorem Silent.untouching {world later : World β} (h : Adds (fun _ => False) world later) :
    Adds Event.Untouching world later :=
  h.imp fun _ never => never.elim

section Visits

variable [Remote β]

/-- A step of the report in which an element is to be touched in a tab. Either the finder fails, and
with it the step, or it finds the element, and this one is touched. -/
inductive Visit (session : Session) (finder : Finder) (locator : ResolvedLocator) (world : World β) :
    World β → Option Failure → Prop
  | lost (title : String) (search : List Event) (failure : Failure) {middle : World β}
      (searched : finder.find session.page locator (world.noted (.step title)) =
        .error failure middle)
      (events : middle.events = world.events ++ .step title :: search)
      (seeks : ∀ event ∈ search, event.Seeks session.page locator.selector) :
      Visit session finder locator world (middle.noted (.endStep (some failure.kind))) (some failure)
  | found (title : String) (search : List Event) (timeout : Value) (acts : List Event)
      (failure : Option Failure) {middle later : World β}
      (searched : finder.find session.page locator (world.noted (.step title)) =
        .ok locator.selector middle)
      (events : middle.events = world.events ++ .step title :: search ++
        [.appears session.page locator.selector timeout])
      (seeks : ∀ event ∈ search, event.Seeks session.page locator.selector)
      (acted : later.events = middle.events ++ acts)
      (touches : ∀ act ∈ acts, act.touches? = some (session.page, locator.selector)) :
      Visit session finder locator world (later.noted (.endStep (failure.map Failure.kind))) failure

variable {session : Session} {finder : Finder} {locator : ResolvedLocator} {world later : World β}

theorem Visit.finds {failure : Option Failure} (h : Visit session finder locator world later failure) :
    Finds world later := by
  have opening {search : List Event} (title : String)
      (seeks : ∀ event ∈ search, event.Seeks session.page locator.selector) :
      Guarded (.step title :: search) := by
    refine .of_untouching fun event listed => ?_
    rcases List.mem_cons.mp listed with rfl | sought
    · rfl
    · exact (seeks event sought).untouching
  have ending (failure : Option FailureKind) : Guarded [.endStep failure] :=
    .of_untouching fun event listed => by rw [List.mem_singleton.mp listed]; rfl
  cases h with
  | lost title search failure searched events seeks =>
    refine ⟨.step title :: search ++ [.endStep (some failure.kind)], ?_,
      (opening title seeks).append (ending _)⟩
    rw [World.noted, events, List.append_assoc]
  | found title search timeout acts failure searched events seeks acted touches =>
    refine ⟨.step title :: search ++ (.appears session.page locator.selector timeout :: acts) ++
      [.endStep (failure.map Failure.kind)], ?_,
      ((opening title seeks).append (.of_acts timeout touches)).append (ending _)⟩
    simp [World.noted, acted, events]

/-- A step that searches first, and then touches nothing but what it has found, is a visit. -/
theorem Visit.of_inStep (title : String) {next : String → Run β α}
    (touching : ∀ found, AddsOnly (fun event => event.touches? = some (session.page, found))
      (next found)) (world : World β) :
    Visit session finder locator world
      (after (Run.inStep title (finder.find session.page locator >>= next)) world)
      (failure? (Run.inStep title (finder.find session.page locator >>= next) world)) := by
  rw [after, inStep_apply]
  have sought := Searches.find finder session.page locator (world.noted (.step title))
  cases searched : finder.find session.page locator (world.noted (.step title)) with
  | error failure middle =>
    rw [searched] at sought
    rw [bind_of_error searched]
    cases sought with
    | lost search events seeks =>
      refine .lost title search failure searched ?_ seeks
      rw [events, World.noted, List.append_assoc]
      rfl
  | ok found middle =>
    rw [searched] at sought
    cases sought with
    | found search timeout events seeks =>
      rw [bind_of_ok searched]
      have grown : middle.events = world.events ++ .step title :: search ++
          [.appears session.page locator.selector timeout] := by
        simp [events, World.noted]
      obtain ⟨acts, acted, touches⟩ := (touching locator.selector middle).events
      cases ran : next locator.selector middle with
      | ok a later =>
        rw [after_of_ok ran] at acted
        exact .found title search timeout acts none searched grown seeks acted touches
      | error failure later =>
        rw [after_of_error ran] at acted
        exact .found title search timeout acts (some failure) searched grown seeks acted touches

end Visits

/-- What an action on a target comes to that may be carried out on some action surfaces: it touches
no element, or it is a visit to the element that its target is. -/
inductive Reaches [Remote β] (acts : Actions → Prop) (target : Target) (world : World β) :
    World β → Option Failure → Prop
  | untouched {later : World β} {failure : Option Failure}
      (adds : Adds Event.Untouching world later) : Reaches acts target world later failure
  | visited {session : Session} {finder : Finder} {locator : ResolvedLocator}
      {middle later : World β} {failure : Option Failure} (acting : acts (.live session finder))
      (aimed : target = .located locator) (began : middle.events = world.events)
      (visit : Visit session finder locator middle later failure) :
      Reaches acts target world later failure

/-- A run that starts in a world is an action on a target. -/
def Aims [Remote β] (acts : Actions → Prop) (target : Target) (run : Run β α) (world : World β) :
    Prop :=
  Reaches acts target world (after run world) (failure? (run world))

section Actions

variable [Remote β] {acts wider : Actions → Prop} {target : Target} {world middle later : World β}

theorem Reaches.finds {failure : Option Failure} (h : Reaches acts target world later failure) :
    Finds world later := by
  cases h with
  | untouched adds => exact adds.finds
  | visited acting aimed began visit =>
    obtain ⟨added, grown, guarded⟩ := visit.finds.events
    exact ⟨added, by rw [grown, began], guarded⟩

theorem Reaches.mono {failure : Option Failure} (h : Reaches acts target world later failure)
    (weaker : ∀ actions, acts actions → wider actions) :
    Reaches wider target world later failure := by
  cases h with
  | untouched adds => exact .untouched adds
  | visited acting aimed began visit => exact .visited (weaker _ acting) aimed began visit

namespace Aims

theorem of_adds {run : Run β α} (h : AddsOnly Event.Untouching run) (world : World β) :
    Aims acts target run world :=
  .untouched (h world)

theorem throw (failure : Failure) (world : World β) :
    Aims acts target (throw failure : Run β α) world :=
  of_adds (Moves.throw failure) world

theorem mono {run : Run β α} (h : Aims acts target run world)
    (weaker : ∀ actions, acts actions → wider actions) : Aims wider target run world :=
  Reaches.mono h weaker

/-- What comes before an action and adds nothing to the journal is no matter. -/
theorem bind {run : Run β α} {next : α → Run β γ} (h : Silent run)
    (hn : ∀ a middle, run world = .ok a middle → Aims acts target (next a) middle) :
    Aims acts target (run >>= next) world := by
  unfold Aims
  cases ran : run world with
  | error failure middle =>
    rw [after_bind_of_error ran, bind_of_error ran]
    exact .untouched (Silent.untouching (h.of_eq_error ran))
  | ok a middle =>
    rw [after_bind_of_ok ran, bind_of_ok ran]
    have silent := h.of_eq_ok ran
    have goes := hn a middle ran
    unfold Aims at goes
    cases goes with
    | untouched adds => exact .untouched (IsTrans.trans _ _ _ (Silent.untouching silent) adds)
    | visited acting aimed began visit =>
      exact .visited acting aimed (began.trans (Silent.events_eq silent)) visit

/-- What an action gives is no matter either. -/
theorem bind_pure {run : Run β α} (h : Aims acts target run world) (form : α → γ) :
    Aims acts target (run >>= fun a => pure (form a)) world := by
  unfold Aims at h ⊢
  cases ran : run world with
  | error failure middle =>
    rw [after_of_error ran, ran] at h
    rw [after_bind_of_error ran, bind_of_error ran]
    exact h
  | ok a middle =>
    rw [after_of_ok ran, ran] at h
    rw [after_bind_of_ok ran, bind_of_ok ran]
    exact h

end Aims

/-- The four primitive actions of a surface that may be carried out on some action surfaces. -/
structure Surface.Aims (surface : Surface β) (acts : Actions → Prop) : Prop where
  click : ∀ locator world, PageContracts.Aims acts (.located locator) (surface.click locator) world
  setText : ∀ locator text world,
    PageContracts.Aims acts (.located locator) (surface.setText locator text) world
  readText : ∀ locator world,
    PageContracts.Aims acts (.located locator) (surface.readText locator) world
  readAttribute : ∀ locator name world,
    PageContracts.Aims acts (.located locator) (surface.readAttribute locator name) world

/-- What is only noted touches no element. -/
theorem Rehearsal.surface_aims (texts : List (String × Value))
    (attributes : List ((String × String) × Value)) :
    (surface texts attributes : Surface β).Aims acts where
  click _ := Aims.of_adds (AddsOnly.note rfl)
  setText _ _ := Aims.of_adds (AddsOnly.note rfl)
  readText locator := by
    have noting : AddsOnly Event.Untouching (Run.note (.readText locator) : Run β Unit) :=
      AddsOnly.note rfl
    refine Aims.of_adds (noting.bind fun _ => ?_)
    split
    · exact Moves.pure _
    · exact Moves.throw _
  readAttribute locator name := by
    have noting : AddsOnly Event.Untouching (Run.note (.readAttribute locator name) : Run β Unit) :=
      AddsOnly.note rfl
    refine Aims.of_adds (noting.bind fun _ => ?_)
    dsimp only
    split
    · exact (Moves.throw _).bind fun _ => Moves.pure _
    · exact Moves.pure _

/-- What is done in a browser tab touches an element only when it has been found. -/
theorem Live.surface_aims (session : Session) (finder : Finder) :
    (surface session finder : Surface β).Aims (· = .live session finder) where
  click locator world := by
    refine .visited rfl rfl rfl (Visit.of_inStep _ (fun found => ?_) world)
    exact AddsOnly.ask fun _ => rfl
  setText locator text world := by
    refine Aims.bind (Moves.ofExcept _) fun shown middle _ => ?_
    refine .visited rfl rfl rfl (Visit.of_inStep _ (fun found => ?_) middle)
    exact AddsOnly.ask fun _ => rfl
  readText locator world := by
    refine .visited rfl rfl rfl (Visit.of_inStep _ (fun found => ?_) world)
    refine Moves.bind (AddsOnly.ask fun _ => rfl) fun tag => ?_
    refine (Moves.ofExcept _).bind fun isValue => ?_
    split <;> exact AddsOnly.ask fun _ => rfl
  readAttribute locator name world := by
    refine Aims.bind (Moves.ofExcept _) fun shown middle _ => ?_
    refine .visited rfl rfl rfl (Visit.of_inStep _ (fun found => ?_) middle)
    refine Moves.bind (AddsOnly.ask fun _ => rfl) fun value => ?_
    split
    · exact (AddsOnly.log _ _).bind fun _ => Moves.pure _
    · exact Moves.pure _

theorem Actions.surface_aims (actions : Actions) :
    (actions.surface : Surface β).Aims (· = actions) := by
  cases actions with
  | rehearsed texts attributes => exact Rehearsal.surface_aims texts attributes
  | live session finder => exact Live.surface_aims session finder

end Actions

theorem World.SameInside.refreshed_eq {world later : World β} (h : SameInside world later) :
    later.refreshed = world.refreshed := by
  have current (fuel : Nat) (ref : ObjectRef) : later.current fuel ref = world.current fuel ref := by
    induction fuel generalizing ref with
    | zero => rfl
    | succ fuel ih =>
      have same : later.current fuel = world.current fuel := funext ih
      simp only [World.current, same, h.objects_eq, h.classes_eq]
  have refresh : later.refresh = world.refresh := by
    funext value
    rw [World.refresh, World.refresh, h.objects_eq, funext (current _)]
  funext object
  exact congrArg object.mapValues refresh

/-- The action surfaces that an object acts on: its own, or what another object acts on that has been
put in the place of its own. -/
inductive ActsOn (world : World β) : LiveObject → Actions → Prop
  | own {object : LiveObject} {actions : Actions}
      (held : object.heldAt world.classes "actions" object.actions = .ok (.inl actions)) :
      ActsOn world object actions
  | through {object other : LiveObject} {ref : ObjectRef} {actions : Actions}
      (held : object.heldAt world.classes "actions" object.actions = .ok (.inr (.object ref)))
      (there : world.objects[ref.number]? = some other)
      (acts : ActsOn world (world.refreshed other) actions) : ActsOn world object actions

namespace LiveObject

variable [Remote β] {object : LiveObject} {target : Target} {start world later : World β}

theorem act_aims {acts : Actions → Prop}
    (own : ∀ actions, object.heldAt world.classes "actions" object.actions = .ok (.inl actions) →
      acts actions) (name : String) (more : List Value) (title : Except Failure String)
    {run : Surface β → ResolvedLocator → Run β Value}
    (h : ∀ (actions : Actions) locator world,
      Aims (· = actions) (.located locator) (run actions.surface locator) world) :
    Aims acts target (object.act name target more title run) world := by
  refine Aims.bind Moves.get fun before same getting => ?_
  cases getting
  refine Aims.bind (Moves.ofExcept _) fun held middle holding => ?_
  obtain ⟨holds, rfl⟩ := ofExcept_eq_ok.mp holding
  cases held with
  | inl actions =>
    dsimp only
    split
    · exact (h actions _ world).mono fun other same => same ▸ own actions holds
    · refine Aims.of_adds ((Moves.ofExcept _).bind fun _ => ?_) world
      exact AddsOnly.inStep rfl (fun _ => rfl) (Moves.throw _)
    · exact Aims.throw _ world
  | inr value => exact Aims.of_adds (Moves.ofExcept _) world

theorem clickWithin_aims (inside : SameInside start world) (fuel : Nat) :
    Aims (ActsOn start object) target (object.clickWithin target fuel) world := by
  induction fuel generalizing object world with
  | zero => exact Aims.throw _ world
  | succ fuel ih =>
    refine Aims.bind (object.logAction_adds _ _) fun _ logged logging => ?_
    have inside : SameInside start logged :=
      IsTrans.trans _ _ _ inside ((object.logAction_stays_outside _ _).of_eq_ok logging)
    refine Aims.bind Moves.get fun before same getting => ?_
    cases getting
    refine Aims.bind (Moves.ofExcept _) fun held middle holding => ?_
    obtain ⟨holds, rfl⟩ := ofExcept_eq_ok.mp holding
    have stays {thing : Actions ⊕ Value}
        (holds : object.heldAt logged.classes "actions" object.actions = .ok thing) :
        object.heldAt start.classes "actions" object.actions = .ok thing := by
      rw [← inside.classes_eq]
      exact holds
    split
    · next ref =>
      split
      · next other there =>
        rw [inside.objects_eq] at there
        have goes : Aims (ActsOn start (logged.refreshed other)) target
            ((logged.refreshed other).clickWithin target fuel) logged := ih inside
        refine goes.mono fun actions acts => ?_
        rw [inside.refreshed_eq] at acts
        exact .through (stays holds) there acts
      · exact Aims.throw _ logged
    · refine Aims.bind_pure (act_aims (fun actions own => .own (stays own)) _ _ _ ?_) _
      intro actions locator world
      exact Aims.bind_pure (actions.surface_aims.click locator world) _

theorem click_aims : Aims (ActsOn world object) target (object.click target) world := by
  refine Aims.bind Moves.get fun before same getting => ?_
  cases getting
  exact clickWithin_aims (refl world) _

omit [Remote β] in
/-- Logging an action changes nothing about what an object acts on. -/
theorem actsOn_of_logged {action : Value} {u : Unit} {logged : World β}
    (logging : object.logAction action target world = .ok u logged) (actions : Actions)
    (own : object.heldAt logged.classes "actions" object.actions = .ok (.inl actions)) :
    ActsOn world object actions := by
  have inside := (object.logAction_stays_outside action target).of_eq_ok logging
  rw [inside.classes_eq] at own
  exact .own own

theorem fill_aims (text : Value) :
    Aims (ActsOn world object) target (object.fill target text) world := by
  refine Aims.bind Moves.get fun before same getting => ?_
  cases getting
  refine Aims.bind (Moves.ofExcept _) fun masked _ masking => ?_
  obtain ⟨-, rfl⟩ := ofExcept_eq_ok.mp masking
  refine Aims.bind (Moves.ofExcept _) fun shown _ showing => ?_
  obtain ⟨-, rfl⟩ := ofExcept_eq_ok.mp showing
  refine Aims.bind (object.logAction_adds _ _) fun _ logged logging => ?_
  refine Aims.bind_pure (act_aims (actsOn_of_logged logging) _ _ _ ?_) _
  intro actions locator world
  exact Aims.bind_pure (actions.surface_aims.setText locator text world) _

theorem readText_aims : Aims (ActsOn world object) target (object.readText target) world := by
  refine Aims.bind (object.logAction_adds _ _) fun _ logged logging => ?_
  refine act_aims (actsOn_of_logged logging) _ _ _ fun actions locator world => ?_
  exact actions.surface_aims.readText locator world

theorem readAttribute_aims (name : Value) :
    Aims (ActsOn world object) target (object.readAttribute target name) world := by
  refine Aims.bind (Moves.ofExcept _) fun shown _ showing => ?_
  obtain ⟨-, rfl⟩ := ofExcept_eq_ok.mp showing
  refine Aims.bind (object.logAction_adds _ _) fun _ logged logging => ?_
  refine act_aims (actsOn_of_logged logging) _ _ _ fun actions locator world => ?_
  exact actions.surface_aims.readAttribute locator name world

/-- How a primitive call of an operation ends: there is no target for it, or it is an action on its
target. -/
inductive Primitive (object : LiveObject) (arguments : List Value) (sliceAt : Nat)
    (call : PrimitiveCall) (world : World β) : World β → Option Failure → Prop
  | unresolved {failure : Failure}
      (resolves : object.resolve world.classes call.locator (arguments.drop sliceAt) =
        .error failure) :
      Primitive object arguments sliceAt call world world (some failure)
  | aimed {target : Target} {later : World β} {failure : Option Failure}
      (resolves : object.resolve world.classes call.locator (arguments.drop sliceAt) = .ok target)
      (reaches : Reaches (ActsOn world object) target world later failure) :
      Primitive object arguments sliceAt call world later failure

variable {arguments : List Value} {sliceAt : Nat}

theorem runCall_primitive (bare : object.attributes = []) (last : Value) (call : PrimitiveCall)
    (world : World β) :
    object.Primitive arguments sliceAt call world
      (after (object.runCall arguments sliceAt last call) world)
      (failure? (object.runCall arguments sliceAt last call world)) := by
  cases resolves : object.resolve world.classes call.locator (arguments.drop sliceAt) with
  | error failure =>
    have failed : object.runCall arguments sliceAt last call world = .error failure world := by
      rw [runCall, bind_of_ok (get_apply world), resolves]
      rfl
    rw [after_of_error failed, failed]
    exact .unresolved resolves
  | ok target =>
    refine .aimed resolves ?_
    change Aims (ActsOn world object) target (object.runCall arguments sliceAt last call) world
    refine Aims.bind Moves.get fun before same getting => ?_
    cases getting
    rw [resolves, ofExcept_bind_of_ok rfl]
    cases call with
    | click locator =>
      dsimp only
      rw [orInstead_of_untouched bare]
      exact Aims.bind_pure click_aims _
    | setText locator argument field =>
      refine Aims.bind Moves.get fun before same getting => ?_
      cases getting
      rw [orInstead_of_untouched bare]
      refine Aims.bind (Moves.ofExcept _) fun value _ valued => ?_
      obtain ⟨-, rfl⟩ := ofExcept_eq_ok.mp valued
      split
      · exact Aims.of_adds (Moves.pure _) world
      · refine Aims.bind (Moves.ofExcept _) fun text _ spoken => ?_
        obtain ⟨-, rfl⟩ := ofExcept_eq_ok.mp spoken
        dsimp only
        rw [orInstead_of_untouched bare]
        exact Aims.bind_pure (fill_aims _) _
    | readText locator =>
      dsimp only
      rw [orInstead_of_untouched bare]
      exact readText_aims
    | readAttribute locator name =>
      dsimp only
      rw [orInstead_of_untouched bare]
      exact readAttribute_aims _

/-- How the primitive calls of an operation are carried out: one after the other, until one of them
fails. -/
inductive Carried (object : LiveObject) (arguments : List Value) (sliceAt : Nat) :
    Value → List PrimitiveCall → World β → World β → Option Failure → Prop
  | all {last : Value} {world : World β} : Carried object arguments sliceAt last [] world world none
  | next {last next : Value} {call : PrimitiveCall} {rest : List PrimitiveCall}
      {world middle later : World β} {failure : Option Failure}
      (ran : object.runCall arguments sliceAt last call world = .ok next middle)
      (primitive : object.Primitive arguments sliceAt call world middle none)
      (others : Carried object arguments sliceAt next rest middle later failure) :
      Carried object arguments sliceAt last (call :: rest) world later failure
  | stopped {last : Value} {call : PrimitiveCall} {rest : List PrimitiveCall}
      {world later : World β} {failure : Failure}
      (ran : object.runCall arguments sliceAt last call world = .error failure later)
      (primitive : object.Primitive arguments sliceAt call world later (some failure)) :
      Carried object arguments sliceAt last (call :: rest) world later (some failure)

theorem Primitive.finds {call : PrimitiveCall} {failure : Option Failure}
    (h : object.Primitive arguments sliceAt call world later failure) : Finds world later := by
  cases h with
  | unresolved resolves => exact refl world
  | aimed resolves reaches => exact reaches.finds

theorem Carried.finds {last : Value} {calls : List PrimitiveCall} {failure : Option Failure}
    (h : object.Carried arguments sliceAt last calls world later failure) :
    Finds world later := by
  induction h with
  | all => exact refl _
  | next ran primitive others ih => exact IsTrans.trans _ _ _ primitive.finds ih
  | stopped ran primitive => exact primitive.finds

theorem runCalls_carried (bare : object.attributes = []) (last : Value)
    (calls : List PrimitiveCall) (world : World β) :
    object.Carried arguments sliceAt last calls world
      (after (object.runCalls arguments sliceAt last calls) world)
      (failure? (object.runCalls arguments sliceAt last calls world)) := by
  induction calls generalizing last world with
  | nil => exact .all
  | cons call rest ih =>
    have primitive : object.Primitive arguments sliceAt call world _ _ :=
      runCall_primitive bare last call world
    rw [runCalls]
    cases ran : object.runCall arguments sliceAt last call world with
    | ok next middle =>
      rw [after_of_ok ran, ran] at primitive
      rw [after_bind_of_ok ran, bind_of_ok ran]
      exact .next ran primitive (ih next middle)
    | error failure middle =>
      rw [after_of_error ran, ran] at primitive
      rw [after_bind_of_error ran, bind_of_error ran]
      exact .stopped ran primitive

/-- An operation that has come to its end touches no element any more. -/
theorem finish_untouching (number : Nat) (plan : CallPlan) (result : Value) :
    AddsOnly Event.Untouching (object.finish number plan result : Run β Outcome) := by
  have creating (contract : Value) (inside : Bool) :
      AddsOnly Event.Untouching (object.createThrough contract inside : Run β Outcome) := by
    refine Moves.get.bind fun world => (Moves.ofExcept _).bind fun held => ?_
    cases held with
    | inl factory =>
      have created (outer : Nesting ⊕ Value) : AddsOnly Event.Untouching (do
          return Outcome.object (← factory.createOffered contract outer) : Run β Outcome) := by
        refine ((factory.createOffered_adds contract outer).mono ?_).bind fun _ => Moves.pure _
        rintro event ⟨page, outcome, rfl⟩
        rfl
      cases inside with
      | false => exact created _
      | true => exact (Moves.ofExcept _).bind fun outer => created outer
    | inr value =>
      have ending (outer : List Value) : AddsOnly Event.Untouching (do
          return Outcome.ofValue (← Run.ofExcept
            (world.classes.callMember value "create" (contract :: outer) [])) : Run β Outcome) :=
        (Moves.ofExcept _).bind fun _ => Moves.pure _
      refine (Moves.ofExcept _).bind fun _ => ?_
      cases inside with
      | false => exact ending _
      | true =>
        refine (Moves.ofExcept _).bind fun outer => ?_
        cases outer with
        | inl nesting => exact ending _
        | inr value => exact ending _
  unfold finish
  split
  · exact Moves.pure _
  · refine object.orInstead_adds _ _ _ ?_
    dsimp only
    split
    · exact Moves.pure _
    · exact Moves.pure _
    · exact object.orInstead_adds _ _ _ (creating _ _)
    · exact object.orInstead_adds _ _ _ (creating _ _)

/-- How the call of an operation ends: its arguments are refused, or one of its primitive calls
fails and the operation with it, or all of them are carried out and nothing is touched after that. -/
inductive Operated (object : LiveObject) (method : Method) (positions : List Value)
    (named : List (String × Value)) (world : World β) :
    EStateM.Result Failure (World β) Outcome → Prop
  | refused {failure : Failure} (refuses : ∀ arguments, ¬Gets world method positions named arguments) :
      Operated object method positions named world (.error failure world)
  | stopped {arguments : List Value} {failure : Failure} {later : World β}
      (gets : Gets world method positions named arguments)
      (carried : object.Carried arguments method.plan.sliceAt .none method.plan.calls world later
        (some failure)) :
      Operated object method positions named world (.error failure later)
  | failed {arguments : List Value} {failure : Failure} {middle later : World β}
      (gets : Gets world method positions named arguments)
      (carried : object.Carried arguments method.plan.sliceAt .none method.plan.calls world middle none)
      (untouching : Adds Event.Untouching middle later) :
      Operated object method positions named world (.error failure later)
  | ended {arguments : List Value} {outcome : Outcome} {middle later : World β}
      (gets : Gets world method positions named arguments)
      (carried : object.Carried arguments method.plan.sliceAt .none method.plan.calls world middle none)
      (untouching : Adds Event.Untouching middle later) :
      Operated object method positions named world (.ok outcome later)

variable {method : Method} {positions : List Value} {named : List (String × Value)}

theorem runPlan_operated (bare : object.attributes = []) {arguments : List Value}
    (gets : Gets world method positions named arguments) (number : Nat) :
    object.Operated method positions named world
      (object.runPlan number method.plan arguments world) := by
  have carried : object.Carried arguments method.plan.sliceAt .none method.plan.calls world _ _ :=
    runCalls_carried bare .none method.plan.calls world
  rw [runPlan]
  cases ran : object.runCalls arguments method.plan.sliceAt .none method.plan.calls world with
  | error failure middle =>
    rw [after_of_error ran, ran] at carried
    rw [bind_of_error ran]
    exact .stopped gets carried
  | ok result middle =>
    rw [after_of_ok ran, ran] at carried
    rw [bind_of_ok ran]
    have untouching : AddsOnly Event.Untouching
        (object.finish number method.plan result : Run β Outcome) :=
      finish_untouching number method.plan result
    cases ends : object.finish number method.plan result middle with
    | error failure later => exact .failed gets carried (untouching.of_eq_error ends)
    | ok outcome later => exact .ended gets carried (untouching.of_eq_ok ends)

theorem runMethod_operated (bare : object.attributes = []) (number : Nat) (world : World β) :
    object.Operated method positions named world
      (object.runMethod number method positions named world) := by
  unfold runMethod
  split
  · next twice =>
    refine .refused fun arguments gets => ?_
    rw [gets.1] at twice
    cases twice
  · next once =>
    cases binds : Binding.bind method.signature (.none :: positions) named with
    | error failure =>
      refine .refused fun arguments gets => ?_
      obtain ⟨-, bound, bounds, -⟩ := gets
      rw [binds] at bounds
      cases bounds
    | ok bound =>
      have gets : Gets world method positions named ((bound.drop 1).map world.refresh) :=
        ⟨(Bool.not_eq_true _).mp once, bound, binds, rfl⟩
      have running := congrFun (orInstead_of_untouched bare "run_plan"
        [.other "CallPlan" "", .tuple ((bound.drop 1).map world.refresh)] Outcome.ofValue
        (object.runPlan number method.plan ((bound.drop 1).map world.refresh))) world
      have operated := runPlan_operated bare gets number
      rw [← running] at operated
      exact operated

theorem Operated.finds {run : Run β Outcome}
    (h : object.Operated method positions named world (run world)) :
    Finds world (after run world) := by
  cases ran : run world with
  | error failure later =>
    rw [ran] at h
    rw [after_of_error ran]
    cases h with
    | refused refuses => exact refl world
    | stopped gets carried => exact carried.finds
    | failed gets carried untouching => exact IsTrans.trans _ _ _ carried.finds untouching.finds
  | ok outcome later =>
    rw [ran] at h
    rw [after_of_ok ran]
    cases h with
    | ended gets carried untouching => exact IsTrans.trans _ _ _ carried.finds untouching.finds

end LiveObject

namespace Step

variable [Remote β] {world : World β}

theorem create_untouching (factory : Factory) (contract : TypeRef) (stack : Option ScopeStack) :
    AddsOnly Event.Untouching ((Step.create factory contract stack).run : Run β Outcome) := by
  refine ((factory.createIn_adds contract _).mono ?_).bind fun _ => Moves.pure _
  rintro event ⟨page, outcome, rfl⟩
  rfl

theorem operate_operated (sound : world.Sound) {number : Nat} {name : String}
    {positions : List Value} {named : List (String × Value)} {object : LiveObject} {method : Method}
    (held : world.objects[number]? = some object)
    (found : object.implementation.methods.lookup name = some method) :
    (world.refreshed object).Operated method positions named world
      ((Step.operate number name positions named).run world) := by
  obtain ⟨bare, operates⟩ := sound.objects object (List.mem_of_getElem? held)
  have operation := LiveObject.operation_of_lookup operates found
  have calls : (Step.operate number name positions named).run world =
      (world.refreshed object).runMethod number method positions named world := by
    rw [Step.run, bind_of_ok (get_apply world)]
    simp only [held, found, Option.isSome_some, if_true]
    exact LiveObject.call_operation bare operation found number
  rw [calls]
  exact LiveObject.runMethod_operated (LiveObject.refreshed_untouched bare) number world

theorem finds (step : Step) (sound : world.Sound) : Finds world (after step.run world) := by
  cases step with
  | create factory contract stack => exact (create_untouching factory contract stack world).finds
  | operate number name positions named =>
    have missing (none : (Step.operate number name positions named).run world =
        .error (.missing name) world) :
        Finds world (after (Step.operate number name positions named).run world) := by
      rw [after_of_error none]
      exact refl world
    cases held : world.objects[number]? with
    | none =>
      refine missing ?_
      rw [Step.run, bind_of_ok (get_apply world), held]
      rfl
    | some object =>
      cases found : object.implementation.methods.lookup name with
      | none =>
        refine missing ?_
        rw [Step.run, bind_of_ok (get_apply world), held]
        dsimp only
        rw [found]
        rfl
      | some method => exact (operate_operated sound held found).finds

theorem finds_runAll (steps : List Step) (sound : world.Sound) :
    Finds world (runAll steps world) := by
  induction steps generalizing world with
  | nil => exact refl world
  | cons step rest ih =>
    have sound' : (after step.run world).Sound := (onward_runAll [step] sound.onward).sound
    exact IsTrans.trans _ _ _ (step.finds sound) (ih sound')

end Step

namespace World

variable [Remote β]

/-- Whatever has been done since a world, only what was found has been touched, and so it goes on:
objects are created without touching anything, and an operation touches the elements of its primitive
calls when they have been found. -/
structure TouchesFound (start world : World β) : Prop where
  guarded : Guarded (world.since start)
  creates : ∀ factory contract stack,
    Adds Event.Untouching world (after (Step.create factory contract stack).run world)
  operates : ∀ number name positions named object method,
    world.objects[number]? = some object →
      object.implementation.methods.lookup name = some method →
        (world.refreshed object).Operated method positions named world
          ((Step.operate number name positions named).run world)

end World

namespace Gates

/-- The class of pages with a gate. -/
def gate : ClassRef := { number := 0, name := "Gate" }

/-- A gate is opened by its latch, and has a bell. -/
def classes : ClassTable where
  classes := [
    { ref := gate, key := "Gate", ancestry := [.defined gate, .page]
      members := [
        ("click_latch", .function
          { name := "click_latch", locator := some { kind := .id, template := "latch" } }),
        ("click_bell", .function
          { name := "click_bell", locator := some { kind := .id, template := "bell" } })] }]

/-- A tab in which the latch becomes visible when it is waited for once more, and there is no bell. -/
def page : ScriptedPage where
  elements := [("[id=\"latch\"]", { failures := 1 })]

/-- A world in which nothing has happened, with this tab. -/
def world : World ScriptedBrowser where
  browser := { pages := [page] }
  clock := default
  classes := classes

/-- A factory for objects that work in the tab. -/
def factory : Factory where
  session := { page := 0 }
  actions := .live { page := 0 } (.patient (.int 100) .standard)

/-- A gate is opened, and its bell is looked for. -/
def visit : List Step :=
  [.create factory (.defined gate) none, .operate 0 "click_latch" [] [], .operate 0 "click_bell" [] []]

end Gates
end PageContracts
