import PageContracts.Proofs.Acting
import PageContracts.Proofs.Mishaps

/-! # What can go wrong when objects act

Filling a template, waiting for an element and acting on it fail by mishaps at worst. So do the
primitive calls of an operation, whatever arguments it is given and whatever the browser answers. -/
namespace PageContracts

open Runs

variable {β α : Type}

namespace Arithmetic

theorem divisionByZero_onlyMishaps : OnlyMishaps (divisionByZero : Except Failure α) :=
  .breach rfl _

theorem requireBits_onlyMishaps (bits : Nat) : OnlyMishaps (requireBits bits) :=
  .ite (.ok _) (.breach rfl _)

theorem quotient_onlyMishaps (a b : Int) : OnlyMishaps (quotient a b) := by
  refine .ite divisionByZero_onlyMishaps ?_
  split
  · exact .breach rfl _
  · exact .ok _

theorem power_onlyMishaps (a b : Int) : OnlyMishaps (power a b) := by
  refine .ite (.ite divisionByZero_onlyMishaps ?_) ?_
  · exact (requireBits_onlyMishaps _).bind fun _ _ => .ok _
  · split
    · exact (requireBits_onlyMishaps _).bind fun _ _ => .ok _
    · exact .ok _

theorem shiftLeft_onlyMishaps (a b : Int) : OnlyMishaps (shiftLeft a b) := by
  refine .ite (.valueBreach _) (.ite (.ok _) (.ite (.breach rfl _) ?_))
  exact (requireBits_onlyMishaps _).bind fun _ _ => .ok _

theorem powerOf_onlyMishaps (x y : Binary64) : OnlyMishaps (powerOf x y) := by
  unfold powerOf
  split
  · exact .ok _
  · exact divisionByZero_onlyMishaps
  · exact .breach rfl _
  · split
    · exact .breach rfl _
    · exact .typeBreach _

variable {sign : String} {result : Except Failure Value}

theorem onIntegers_onlyMishaps {a b : Int} (h : onIntegers sign a b = some result) :
    OnlyMishaps result := by
  unfold onIntegers at h
  split at h <;> cases h
  case h_4 => exact quotient_onlyMishaps _ _
  case h_5 => exact .ite divisionByZero_onlyMishaps (.ok _)
  case h_6 => exact .ite divisionByZero_onlyMishaps (.ok _)
  case h_7 => exact power_onlyMishaps _ _
  case h_8 => exact shiftLeft_onlyMishaps _ _
  case h_9 => exact .ite (.valueBreach _) (.ok _)
  all_goals exact .ok _

theorem onDoubles_onlyMishaps {x y : Binary64} (h : onDoubles sign x y = some result) :
    OnlyMishaps result := by
  unfold onDoubles at h
  split at h <;> cases h
  case h_4 => exact .ite divisionByZero_onlyMishaps (.ok _)
  case h_5 => exact .ite divisionByZero_onlyMishaps (.ok _)
  case h_6 => exact .ite divisionByZero_onlyMishaps (.ok _)
  case h_7 => exact powerOf_onlyMishaps _ _
  all_goals exact .ok _

theorem double?_apart {value : Value} {failure : Failure}
    (h : double? value = some (.error failure)) : failure.kind.isSynthesis = false := by
  unfold double? at h
  split at h
  · cases h
  · obtain ⟨i, -, taken⟩ := Option.map_eq_some_iff.mp h
    split at taken <;> cases taken
    rfl

theorem onNumbers_onlyMishaps {left right : Value} (h : onNumbers sign left right = some result) :
    OnlyMishaps result := by
  unfold onNumbers at h
  dsimp only at h
  split at h
  · split at h
    · cases h
      exact .ok _
    · exact onIntegers_onlyMishaps h
  · split at h
    · exact onIntegers_onlyMishaps h
    -- A whole number and a double are compared exactly; otherwise both are taken for doubles.
    all_goals repeat' split at h
    all_goals first
      | exact onDoubles_onlyMishaps h
      | (cases h; first | exact .ok _ | exact .error (double?_apart ‹_›))
      | cases h

theorem repeated_onlyMishaps (items : List α) (count : Int) :
    OnlyMishaps (repeated items count) := by
  unfold repeated
  dsimp only
  split
  · exact OnlyMishaps.breach rfl _
  · refine .ite (.ok _) ?_
    exact (requireBits_onlyMishaps _).bind fun _ _ => .ok _

theorem product_onlyMishaps (left right : Value) : OnlyMishaps (product left right) := by
  have times (row : Value) (count : Int) : OnlyMishaps (product.times row count) := by
    unfold product.times
    split
    · exact (repeated_onlyMishaps _ _).bind fun _ _ => .ok _
    · exact (repeated_onlyMishaps _ _).bind fun _ _ => .ok _
    · exact (repeated_onlyMishaps _ _).bind fun _ _ => .ok _
    · exact (repeated_onlyMishaps _ _).bind fun _ _ => .ok _
    · exact .typeBreach _
  unfold product
  split
  · next multiplied => exact onNumbers_onlyMishaps multiplied
  · split
    · exact times _ _
    · exact times _ _
    · exact .typeBreach _

mutual

theorem isLess_onlyMishaps (left right : Value) : OnlyMishaps (isLess left right) := by
  unfold isLess
  split
  · exact .ok _
  · exact .ok _
  · exact areLess_onlyMishaps _ _
  · exact areLess_onlyMishaps _ _
  · exact .ok _
  · split
    · exact .ok _
    · next failed => exact .error (onNumbers_onlyMishaps failed _ rfl)
    · exact .typeBreach _

theorem areLess_onlyMishaps (left right : List Value) : OnlyMishaps (areLess left right) := by
  unfold areLess
  split
  · exact .ok _
  · exact .ok _
  · exact .ite (areLess_onlyMishaps _ _) (isLess_onlyMishaps _ _)

end

end Arithmetic

namespace RetryBudget

variable (budget : RetryBudget Value)

theorem pauseCount_onlyMishaps : OnlyMishaps budget.pauseCount := by
  unfold pauseCount
  split
  · exact .ok _
  · exact .typeBreach _

theorem grow_onlyMishaps (pause : Value) : OnlyMishaps (budget.grow pause) := by
  refine (Arithmetic.product_onlyMishaps _ _).bind fun _ _ => ?_
  exact (Arithmetic.isLess_onlyMishaps _ _).bind fun _ _ => .ok _

end RetryBudget

theorem Retry.retryMessage_onlyMishaps (budget : RetryBudget Value) (name : String) (attempt : Nat)
    (failure : Failure) (pause : Value) :
    OnlyMishaps (retryMessage budget name attempt failure pause) :=
  (Value.spoken_onlyMishaps _).bind fun _ _ => (Value.spoken_onlyMishaps _).bind fun _ _ => .ok _

namespace Template

theorem takeAmount_onlyMishaps (limit : Nat) (excess : String) (amount : Amount)
    (arguments : List Value) : OnlyMishaps (takeAmount limit excess amount arguments) := by
  unfold takeAmount
  split
  · exact .ok _
  · exact .ok _
  · exact .valueBreach _
  · exact .typeBreach _
  · split
    · exact .typeBreach _
    · exact .ite (.breach rfl _) (.ok _)

theorem decimalOf_onlyMishaps (letter : Char) (value : Value) :
    OnlyMishaps (decimalOf letter value) := by
  unfold decimalOf
  split
  · exact .ok _
  · exact Conversion.integer_onlyMishaps _
  · dsimp only
    split
    · exact Conversion.integer_onlyMishaps _
    · exact Conversion.integer_onlyMishaps _
    · exact .typeBreach _

theorem integerOf_onlyMishaps (letter : Char) (value : Value) :
    OnlyMishaps (integerOf letter value) := by
  unfold integerOf
  split
  · exact .ok _
  · exact .typeBreach _

theorem doubleOf_onlyMishaps (value : Value) : OnlyMishaps (doubleOf value) := by
  unfold doubleOf
  split
  · exact .ok _
  · split
    · exact .typeBreach _
    · exact .typeBreach _
    · split
      · exact .ok _
      · exact .breach rfl _

theorem characterOf_onlyMishaps (value : Value) : OnlyMishaps (characterOf value) := by
  unfold characterOf
  split
  · split
    · exact .ok _
    · exact .typeBreach _
  · split
    · exact .typeBreach _
    · exact .ite (.ok _) (.breach rfl _)

theorem requireRoom_onlyMishaps (characters : Int) : OnlyMishaps (requireRoom characters) :=
  .ite (.breach rfl _) (.ok _)

theorem requireDigits_onlyMishaps (precision : Option Int) :
    OnlyMishaps (requireDigits precision) := by
  unfold requireDigits
  split
  · exact .ok _
  · exact .ite (.breach rfl _) (requireRoom_onlyMishaps _)

theorem convert_onlyMishaps (flags : Flags) (precision : Option Int) (letter : Char) (index : Nat)
    (value : Value) : OnlyMishaps (convert flags precision letter index value) := by
  refine .ite ?_ (.ite ?_ (.ite ?_ (.ite ?_ (.ite ?_ (.valueBreach _)))))
  · dsimp only
    refine .ite ?_ (.ite ?_ ?_)
    · exact value.spoken_onlyMishaps.bind fun _ _ => .ok _
    · exact (value.written_onlyMishaps _).bind fun _ _ => .ok _
    · exact (value.written_onlyMishaps _).bind fun _ _ => .ok _
  · refine (decimalOf_onlyMishaps _ _).bind fun i _ => ?_
    refine (Value.written_onlyMishaps _ _).bind fun _ _ => ?_
    exact (requireDigits_onlyMishaps _).bind fun _ _ => .ok _
  · refine (integerOf_onlyMishaps _ _).bind fun i _ => ?_
    exact (requireDigits_onlyMishaps _).bind fun _ _ => .ok _
  · refine (doubleOf_onlyMishaps _).bind fun x _ => ?_
    exact (requireRoom_onlyMishaps _).bind fun _ _ => .ok _
  · exact (characterOf_onlyMishaps _).bind fun _ _ => .ok _

theorem applyConversion_onlyMishaps (conversion : Conversion) (arguments : List Value) :
    OnlyMishaps (applyConversion conversion arguments) := by
  refine (takeAmount_onlyMishaps _ _ _ _).bind fun width _ => ?_
  refine (takeAmount_onlyMishaps _ _ _ _).bind fun precision _ => ?_
  dsimp only
  split
  · exact .valueBreach _
  · exact .typeBreach _
  · refine (convert_onlyMishaps _ _ _ _ _).bind fun _ _ => ?_
    exact (requireRoom_onlyMishaps _).bind fun _ _ => .ok _

theorem fillPieces_onlyMishaps (pieces : List Piece) (arguments : List Value) :
    OnlyMishaps (fillPieces pieces arguments) := by
  induction pieces generalizing arguments with
  | nil =>
    cases arguments with
    | nil => exact .ok _
    | cons value rest => exact .typeBreach _
  | cons piece rest ih =>
    cases piece with
    | literal c => exact (ih _).bind fun _ _ => .ok _
    | conversion conversion =>
      refine (applyConversion_onlyMishaps _ _).bind fun _ _ => ?_
      exact (ih _).bind fun _ _ => .ok _
    | named => exact .typeBreach _

theorem fill_onlyMishaps (template : String) (arguments : List Value) :
    OnlyMishaps (fill template arguments) :=
  (fillPieces_onlyMishaps _ _).bind fun _ _ => .ok _

end Template

theorem LocatorDescriptor.format_onlyMishaps (descriptor : LocatorDescriptor)
    (arguments : List Value) : OnlyMishaps (descriptor.format arguments) :=
  .ite (.ok _) (Template.fill_onlyMishaps _ _)

theorem Nesting.resolve_onlyMishaps (nesting : Nesting) (descriptor : LocatorDescriptor)
    (arguments : List Value) : OnlyMishaps (nesting.resolve descriptor arguments) := by
  have composed : OnlyMishaps (nesting.readable.resolve descriptor arguments) :=
    (descriptor.format_onlyMishaps _).bind fun _ _ => .ite (.ok _) (.ok _)
  refine composed.bind fun resolved _ => ?_
  split
  · exact .error rfl
  · exact .ok _

namespace Runs.FailsByMishap

theorem inStep (title : String) {run : Run β α} (h : FailsByMishap run) :
    FailsByMishap (Run.inStep title run) := by
  intro world failure later failed
  rw [inStep_apply] at failed
  split at failed
  · cases failed
  · next ran =>
    cases failed
    exact h _ _ _ ran

theorem retry_after (budget : RetryBudget Value) (name : String) (expected : Failure → Bool)
    {body : Run β α} (h : FailsByMishap body) (left : Nat) (pause : Value) (attempt : Nat)
    {failure : Failure} (apart : failure.kind.isSynthesis = false) :
    FailsByMishap (Retry.after budget name expected body left pause attempt failure) := by
  have giveUp (attempt : Nat) {failure : Failure} (apart : failure.kind.isSynthesis = false) :
      FailsByMishap (Retry.after.giveUp name attempt failure : Run β α) :=
    (log _ _).bind fun _ => throw apart
  induction left generalizing pause attempt failure with
  | zero =>
    unfold Retry.after
    exact giveUp attempt apart
  | succ left ih =>
    by_cases none : pause = .none
    · subst none
      exact giveUp attempt apart
    · rw [Retry.after.eq_3 _ _ _ _ _ _ _ _ none]
      refine (ofExcept (Retry.retryMessage_onlyMishaps _ _ _ _ _)).bind fun _ => ?_
      refine (log _ _).bind fun _ => (note _).bind fun _ => h.tryCatch fun later apart => ?_
      split
      · exact (ofExcept (budget.grow_onlyMishaps _)).bind fun next => ih next _ apart
      · exact throw apart

theorem retry (budget : RetryBudget Value) (name : String) (expected : Failure → Bool)
    {body : Run β α} (h : FailsByMishap body) :
    FailsByMishap (Retry.run budget name expected body) := by
  refine h.tryCatch fun failure apart => ?_
  split
  · refine (ofExcept budget.pauseCount_onlyMishaps).bind fun left => ?_
    exact retry_after budget name expected h left _ _ apart
  · exact throw apart

variable [Remote β]

theorem waitVisible (page : Nat) (timeout : Value) (locator : ResolvedLocator) :
    FailsByMishap (Finder.waitVisible page timeout locator : Run β String) := by
  have notFound (failure : Failure) :
      (Finder.notFound locator failure).kind.isSynthesis = false := by
    unfold Finder.notFound
    split <;> rfl
  refine (note _).bind fun _ => FailsByMishap.bind ?_ fun _ => (log _ _).bind fun _ => pure _
  refine (ask _).tryCatch fun failure apart => ?_
  split
  · exact throw (notFound failure)
  · exact throw apart

theorem find (finder : Finder) (page : Nat) (locator : ResolvedLocator) :
    FailsByMishap (finder.find page locator : Run β String) := by
  cases finder with
  | impatient timeout => exact waitVisible page timeout locator
  | patient timeout budget => exact retry _ _ _ (waitVisible page timeout locator)

end Runs.FailsByMishap

/-- The four primitive actions of a surface can only fail by mishaps. -/
structure Surface.FailsByMishap (surface : Surface β) : Prop where
  click : ∀ locator, Runs.FailsByMishap (surface.click locator)
  setText : ∀ locator text, Runs.FailsByMishap (surface.setText locator text)
  readText : ∀ locator, Runs.FailsByMishap (surface.readText locator)
  readAttribute : ∀ locator name, Runs.FailsByMishap (surface.readAttribute locator name)

theorem maskOffered_onlyMishaps (locator : ResolvedLocator) (value : Value) :
    OnlyMishaps (maskOffered locator value) := by
  unfold maskOffered
  split
  · exact .ok _
  · refine .ite ?_ (Value.spoken_onlyMishaps _)
    split
    · exact .ok _
    · exact .typeBreach _

theorem Rehearsal.surface_failsByMishap (texts : List (String × Value))
    (attributes : List ((String × String) × Value)) :
    (surface texts attributes : Surface β).FailsByMishap where
  click _ := .note _
  setText _ _ := .note _
  readText locator := by
    refine (FailsByMishap.note _).bind fun _ => ?_
    split
    · exact .pure _
    · exact .throw rfl
  readAttribute locator name := by
    refine (FailsByMishap.note _).bind fun _ => ?_
    dsimp only
    split
    · exact .throw_bind rfl _
    · exact .pure _

theorem Live.surface_failsByMishap [Remote β] (session : Session) (finder : Finder) :
    (surface session finder : Surface β).FailsByMishap where
  click locator :=
    .inStep _ ((FailsByMishap.find _ _ _).bind fun _ => .ask _)
  setText locator text := by
    refine (FailsByMishap.ofExcept (maskOffered_onlyMishaps _ _)).bind fun shown => .inStep _ ?_
    exact (FailsByMishap.find _ _ _).bind fun _ => .ask _
  readText locator := by
    have isValueTag (tag : Value) : OnlyMishaps (isValueTag tag) := by
      unfold Live.isValueTag
      split
      · exact .ok _
      · exact .ok _
      · exact .missing _
    refine .inStep _ ((FailsByMishap.find _ _ _).bind fun selector => ?_)
    refine (FailsByMishap.ask _).bind fun tag => ?_
    refine (FailsByMishap.ofExcept (isValueTag _)).bind fun isValue => ?_
    split <;> exact .ask _
  readAttribute locator name := by
    refine (FailsByMishap.ofExcept (Value.spoken_onlyMishaps _)).bind fun shown => .inStep _ ?_
    refine (FailsByMishap.find _ _ _).bind fun selector => ?_
    refine (FailsByMishap.ask _).bind fun value => ?_
    split
    · exact (FailsByMishap.log _ _).bind fun _ => .pure _
    · exact .pure _

theorem Actions.surface_failsByMishap [Remote β] (actions : Actions) :
    (actions.surface : Surface β).FailsByMishap := by
  cases actions with
  | rehearsed texts attributes => exact Rehearsal.surface_failsByMishap texts attributes
  | live session finder => exact Live.surface_failsByMishap session finder

namespace Target

theorem spoken_onlyMishaps (target : Target) : OnlyMishaps target.spoken := by
  cases target with
  | located locator => exact .ok _
  | offered value => exact value.spoken_onlyMishaps

theorem mask_onlyMishaps (table : ClassTable) (target : Target) (text : Value) :
    OnlyMishaps (target.mask table text) := by
  have masked (locator : ResolvedLocator) (text : Value) : OnlyMishaps (do
      if hidesText locator then return Value.text (← maskOffered locator text)
      else return text) :=
    .ite ((maskOffered_onlyMishaps _ _).bind fun _ _ => .ok _) (.ok _)
  cases target with
  | located locator =>
    unfold mask
    dsimp only
    split
    · exact .ok _
    · exact masked _ _
  | offered value =>
    refine (table.memberOf_onlyMishaps _ _).bind fun place _ => ?_
    split
    · exact masked _ _
    · exact .missing _

end Target

namespace LiveObject

variable (object : LiveObject) (table : ClassTable)

theorem readMember_onlyMishaps (name : Value) : OnlyMishaps (object.readMember table name) := by
  have named : OnlyMishaps (attributeName name) := by
    unfold attributeName
    split
    · exact .ok _
    · exact .typeBreach _
  refine named.bind fun name _ => ?_
  dsimp only
  split
  · exact .ok _
  · exact .ok _
  · split
    · exact .ite (.missing _) (table.takenOnInstance_onlyMishaps _)
    · exact .missing _

theorem attributeNow_onlyMishaps (name : String) :
    OnlyMishaps (object.attributeNow table name) := by
  unfold attributeNow
  split
  · exact .ok _
  · next failure failed =>
    refine .ite (object.fallback_onlyMishaps table _) (.error ?_)
    exact object.readMember_onlyMishaps table _ failure failed

theorem notModel_apart (value : Value) :
    (object.notModel table value).kind.isSynthesis = false := by
  unfold notModel
  split
  · rfl
  · next failure failed => exact object.shownName_onlyMishaps table failure failed

theorem fieldOf_onlyMishaps (world : World β) (value : Value) (field : String) :
    OnlyMishaps (object.fieldOf world value field) := by
  have notModel (value : Value) :
      OnlyMishaps (.error (object.notModel world.classes value) : Except Failure Value) :=
    .error (object.notModel_apart _ _)
  unfold fieldOf
  dsimp only
  split
  · exact .ite (world.classes.attributeOf_onlyMishaps _ _ _) (notModel _)
  · split
    · exact notModel _
    · exact .ite (attributeNow_onlyMishaps _ _ _) (notModel _)
  · exact notModel _

theorem valueFor_onlyMishaps (world : World β) (arguments : List Value) (argument : Nat)
    (field : Option String) : OnlyMishaps (object.valueFor world arguments argument field) := by
  unfold valueFor
  split
  · exact .breach rfl _
  · exact .ok _
  · exact object.fieldOf_onlyMishaps world _ _

theorem resolve_onlyMishaps (descriptor : LocatorDescriptor) (arguments : List Value) :
    OnlyMishaps (object.resolve table descriptor arguments) := by
  refine (object.heldAt_onlyMishaps table _ _).bind fun held _ => ?_
  cases held with
  | inl nesting => exact (nesting.resolve_onlyMishaps _ _).bind fun _ _ => .ok _
  | inr value => exact (table.callMember_onlyMishaps _ _ _ _).bind fun _ _ => .ok _

theorem orInstead_failsByMishap (name : String) (arguments : List Value) (form : Value → α)
    {run : Run β α} (h : FailsByMishap run) :
    FailsByMishap (object.orInstead name arguments form run) := by
  unfold orInstead
  split
  · exact h
  · refine .get_bind fun world => ?_
    exact (FailsByMishap.ofExcept (world.classes.callValue_onlyMishaps _ _ _)).bind fun _ => .pure _

theorem logAction_failsByMishap (action : Value) (target : Target) :
    FailsByMishap (object.logAction action target : Run β Unit) := by
  refine object.orInstead_failsByMishap _ _ _ (.get_bind fun world => ?_)
  refine object.log_failsByMishap ?_
  refine (FailsByMishap.ofExcept (object.shownName_onlyMishaps _)).bind fun name => ?_
  refine (FailsByMishap.ofExcept action.spoken_onlyMishaps).bind fun _ => ?_
  exact (FailsByMishap.ofExcept target.spoken_onlyMishaps).bind fun _ => .pure _

variable [Remote β]

theorem act_failsByMishap (name : String) (target : Target) (more : List Value)
    {title : Except Failure String} (titled : OnlyMishaps title)
    {run : Surface β → ResolvedLocator → Run β Value}
    (h : ∀ (actions : Actions) locator, FailsByMishap (run actions.surface locator)) :
    FailsByMishap (object.act name target more title run) := by
  refine .get_bind fun world => ?_
  refine (FailsByMishap.ofExcept (object.heldAt_onlyMishaps _ _ _)).bind fun held => ?_
  cases held with
  | inl actions =>
    dsimp only
    split
    · exact h _ _
    · exact (FailsByMishap.ofExcept titled).bind fun _ => .inStep _ (.throw rfl)
    · exact .throw rfl
  | inr value => exact .ofExcept (world.classes.callMember_onlyMishaps _ _ _ _)

theorem clickWithin_failsByMishap (target : Target) (fuel : Nat) :
    FailsByMishap (object.clickWithin target fuel : Run β Unit) := by
  induction fuel generalizing object with
  | zero => exact .throw rfl
  | succ fuel ih =>
    refine (object.logAction_failsByMishap _ _).bind fun _ => .get_bind fun world => ?_
    refine (FailsByMishap.ofExcept (object.heldAt_onlyMishaps _ _ _)).bind fun held => ?_
    split
    · split
      · exact ih _
      · exact .throw rfl
    · refine FailsByMishap.bind ?_ fun _ => .pure _
      refine object.act_failsByMishap _ _ _ (target.spoken_onlyMishaps.map _) ?_
      intro actions locator
      exact (actions.surface_failsByMishap.click locator).bind fun _ => .pure _

theorem click_failsByMishap (target : Target) :
    FailsByMishap (object.click target : Run β Unit) :=
  .get_bind fun _ => object.clickWithin_failsByMishap target _

theorem fill_failsByMishap (target : Target) (text : Value) :
    FailsByMishap (object.fill target text : Run β Unit) := by
  refine .get_bind fun world => ?_
  refine (FailsByMishap.ofExcept (target.mask_onlyMishaps _ _)).bind fun masked => ?_
  refine (FailsByMishap.ofExcept masked.spoken_onlyMishaps).bind fun shown => ?_
  refine (object.logAction_failsByMishap _ _).bind fun _ => ?_
  refine FailsByMishap.bind ?_ fun _ => .pure _
  refine object.act_failsByMishap _ _ _ (.ok _) fun actions locator => ?_
  exact (actions.surface_failsByMishap.setText locator text).bind fun _ => .pure _

theorem readText_failsByMishap (target : Target) :
    FailsByMishap (object.readText target : Run β Value) := by
  refine (object.logAction_failsByMishap _ _).bind fun _ => ?_
  exact object.act_failsByMishap _ _ _ (target.spoken_onlyMishaps.map _) fun actions =>
    actions.surface_failsByMishap.readText

theorem readAttribute_failsByMishap (target : Target) (name : Value) :
    FailsByMishap (object.readAttribute target name : Run β Value) := by
  refine (FailsByMishap.ofExcept name.spoken_onlyMishaps).bind fun shown => ?_
  refine (object.logAction_failsByMishap _ _).bind fun _ => ?_
  exact object.act_failsByMishap _ _ _ (target.spoken_onlyMishaps.map _) fun actions locator =>
    actions.surface_failsByMishap.readAttribute locator name

theorem runCall_failsByMishap (arguments : List Value) (sliceAt : Nat) (last : Value)
    (call : PrimitiveCall) :
    FailsByMishap (object.runCall arguments sliceAt last call : Run β Value) := by
  refine .get_bind fun world => ?_
  refine (FailsByMishap.ofExcept (object.resolve_onlyMishaps _ _ _)).bind fun target => ?_
  cases call with
  | click locator =>
    refine (object.orInstead_failsByMishap _ _ _ ?_).bind fun _ => .pure _
    exact object.click_failsByMishap target
  | setText locator argument field =>
    refine .get_bind fun world => ?_
    have given := object.valueFor_onlyMishaps world arguments argument field
    refine (object.orInstead_failsByMishap _ _ _ (.ofExcept given)).bind fun value => ?_
    split
    · exact .pure _
    · refine (FailsByMishap.ofExcept (Value.spoken_onlyMishaps _)).bind fun text => ?_
      refine (object.orInstead_failsByMishap _ _ _ ?_).bind fun _ => .pure _
      exact object.fill_failsByMishap target _
  | readText locator => exact object.orInstead_failsByMishap _ _ _ (object.readText_failsByMishap _)
  | readAttribute locator name =>
    exact object.orInstead_failsByMishap _ _ _ (object.readAttribute_failsByMishap _ _)

/-- No primitive call of an operation fails because of a contract. -/
theorem runCalls_failsByMishap (arguments : List Value) (sliceAt : Nat) (last : Value)
    (calls : List PrimitiveCall) :
    FailsByMishap (object.runCalls arguments sliceAt last calls : Run β Value) := by
  induction calls generalizing last with
  | nil => exact .pure _
  | cons call rest ih =>
    exact (object.runCall_failsByMishap arguments sliceAt last call).bind fun next => ih next

end LiveObject
end PageContracts
