import PageContracts.Proofs.Runs
import PageContracts.Driver.Navigation

/-! # Addresses

The texts and numbers among the arguments of an address fill its template, the query parameters go
behind it, and all other arguments are only logged. Which address comes of it, or which failure, is
settled by the first two alone, as long as each of the others can be shown: what is to be logged about
an argument is how it looks, and an argument that cannot be shown keeps the address from being made. -/
namespace PageContracts

open Runs

variable {β : Type}

namespace Runs

variable {ε σ α γ : Type}

/-- What a program gives, apart from the state it leaves behind. -/
def given : EStateM.Result ε σ α → Except ε α
  | .ok a _ => .ok a
  | .error e _ => .error e

theorem given_bind_of_error {run : EStateM ε σ α} {s : σ} {e : ε} (h : given (run s) = .error e)
    (next : α → EStateM ε σ γ) : given ((run >>= next) s) = .error e := by
  cases ran : run s with
  | ok a t =>
    rw [ran] at h
    cases h
  | error failure t =>
    rw [ran] at h
    cases h
    rw [bind_of_error ran]
    rfl

theorem given_bind_of_ok {run : EStateM ε σ α} {s : σ} {a : α} (h : given (run s) = .ok a)
    (next : α → EStateM ε σ γ) : ∃ t, given ((run >>= next) s) = given (next a t) := by
  cases ran : run s with
  | ok b t =>
    rw [ran] at h
    cases h
    exact ⟨t, by rw [bind_of_ok ran]⟩
  | error failure t =>
    rw [ran] at h
    cases h

theorem given_ofExcept (result : Except Failure α) (world : World β) :
    given ((Run.ofExcept result : Run β α) world) = result := by
  cases result <;> rfl

end Runs

namespace QueryParams

@[simp] theorem pairs_append (params others : QueryParams) :
    (params.append others).pairs = params.pairs ++ others.pairs := rfl

theorem pairs_foldl_append (first : QueryParams) (rest : List QueryParams) :
    (rest.foldl append first).pairs = first.pairs ++ rest.flatMap pairs := by
  induction rest generalizing first with
  | nil => simp
  | cons next rest ih => rw [List.foldl_cons, ih, pairs_append, List.flatMap_cons, List.append_assoc]

end QueryParams

namespace Url

variable {arguments others before after : List Value} {argument : Value}

/-- Whether an argument fills a placeholder: it is a text or a number, and no truth value. -/
def fills (argument : Value) : Bool :=
  match argument.core with
  | .text _ => true
  | .int _ => true
  | .float _ => true
  | _ => false

theorem isSome_placeholderValue? (argument : Value) :
    (placeholderValue? argument).isSome = fills argument := by
  unfold placeholderValue? fills
  cases argument.core <;> rfl

theorem filterMap_placeholderValue? (arguments : List Value) :
    arguments.filterMap placeholderValue? = (arguments.filter fills).filterMap placeholderValue? := by
  rw [List.filterMap_filter]
  congr 1
  funext argument
  have same := isSome_placeholderValue? argument
  cases filling : fills argument with
  | true => simp
  | false =>
    rw [filling] at same
    simpa using same

theorem isSenseless_iff :
    isSenseless argument = true ↔ fills argument = false ∧ parameters? argument = none := by
  rw [isSenseless, ← isSome_placeholderValue?]
  cases placeholderValue? argument <;> cases parameters? argument <;> simp

/-- Query parameters have no other part in an address. -/
theorem fills_of_parameters? {params : QueryParams} (h : parameters? argument = some params) :
    fills argument = false := by
  cases argument with
  | query _ => rfl
  | _ => cases h

theorem parameters?_of_fills (h : fills argument = true) : parameters? argument = none := by
  cases params : parameters? argument with
  | none => rfl
  | some found =>
    rw [fills_of_parameters? params] at h
    cases h

@[simp] theorem pairs_joined (params : List QueryParams) :
    (joined params).pairs = params.flatMap QueryParams.pairs := by
  rw [joined, QueryParams.pairs_foldl_append]
  rfl

theorem joined_cons (first : QueryParams) (rest : List QueryParams) :
    joined (first :: rest) = joined [rest.foldl QueryParams.append first] := by
  have pairs : (joined (first :: rest)).pairs =
      (joined [rest.foldl QueryParams.append first]).pairs := by
    simp [QueryParams.pairs_foldl_append]
  exact congrArg QueryParams.mk pairs

/-- The same texts and numbers one after the other, and the same query parameters. -/
structure Alike (arguments others : List Value) : Prop where
  fillers : arguments.filter fills = others.filter fills
  parameters : arguments.filterMap parameters? = others.filterMap parameters?

/-- The arguments that are no query parameters. -/
def withoutParameters (arguments : List Value) : List Value :=
  arguments.filter fun argument => (parameters? argument).isNone

/-- Nothing keeps the arguments that have no place in an address from being shown. -/
def Shown (arguments : List Value) : Prop :=
  ∀ argument ∈ arguments, isSenseless argument = true → argument.flaw? = none

section Filling

variable (filling : ∀ argument ∈ arguments, fills argument = true)

include filling

theorem shown_of_fills : Shown arguments := by
  intro argument listed senseless
  have unfit := (isSenseless_iff.mp senseless).1
  rw [filling argument listed] at unfit
  cases unfit

/-- Texts and numbers fill the template and do nothing else. -/
theorem make_of_fills (template : String) :
    make template arguments = filled template (arguments.filterMap placeholderValue?) := by
  have bare : arguments.filterMap parameters? = [] :=
    List.filterMap_eq_nil_iff.mpr fun argument listed => parameters?_of_fills (filling argument listed)
  have whole : filled template (arguments.filterMap placeholderValue?) >>= pure =
      filled template (arguments.filterMap placeholderValue?) := bind_pure _
  rw [make, bare]
  exact whole

theorem filled_of_fills (some : arguments ≠ []) (template : String) :
    filled template (arguments.filterMap placeholderValue?) =
      Template.fill template (arguments.filterMap placeholderValue?) := by
  obtain ⟨first, rest, rfl⟩ := List.exists_cons_of_ne_nil some
  have placed : (placeholderValue? first).isSome = true := by
    rw [isSome_placeholderValue?, filling first List.mem_cons_self]
  obtain ⟨value, placed⟩ := Option.isSome_iff_exists.mp placed
  rw [List.filterMap_cons_some placed]
  rfl

end Filling

/-- Leaving out an argument that has no place in an address leaves the arguments alike. -/
theorem Alike.leaving (senseless : isSenseless argument = true) :
    Alike (before ++ argument :: after) (before ++ after) := by
  obtain ⟨unfit, bare⟩ := isSenseless_iff.mp senseless
  refine ⟨?_, ?_⟩
  · rw [List.filter_append, List.filter_append, List.filter_cons_of_neg (by simp [unfit])]
  · rw [List.filterMap_append, List.filterMap_append, List.filterMap_cons_none bare]

theorem Alike.make_eq (alike : Alike arguments others) (template : String) :
    make template arguments = make template others := by
  rw [make, make, filterMap_placeholderValue? arguments, filterMap_placeholderValue? others,
    alike.fillers, alike.parameters]

theorem Shown.leaving (shown : Shown (before ++ argument :: after)) : Shown (before ++ after) := by
  intro other listed
  have kept : other ∈ before ++ argument :: after := by
    rcases List.mem_append.mp listed with early | late
    · exact List.mem_append_left _ early
    · exact List.mem_append_right _ (List.mem_cons_of_mem _ late)
  exact shown other kept

theorem withParameters_joined (url : String) (params : List QueryParams) :
    withParameters url (joined params) =
      if ∀ one ∈ params, one.pairs = [] then url
      else url ++ (if '?' ∈ url.toList then "&" else "?") ++
        String.intercalate "&" ((params.flatMap QueryParams.pairs).map QueryParams.pairText) := by
  have empty : (joined params).nonempty = false ↔ ∀ one ∈ params, one.pairs = [] := by
    rw [QueryParams.nonempty, pairs_joined]
    simp
  rw [withParameters]
  by_cases none : ∀ one ∈ params, one.pairs = []
  · rw [if_pos none, empty.mpr none, if_neg Bool.false_ne_true]
  · have some : (joined params).nonempty = true := by
      rw [← Bool.not_eq_false, empty]
      exact none
    rw [if_neg none, if_pos some, QueryParams.text, pairs_joined, hasQuery]
    simp

end Url

namespace PageDriver

open Url

variable {arguments before after : List Value} {argument : Value}

/-- What is logged about arguments that have no place in an address. -/
def logSenseless (arguments : List Value) : Run β Unit :=
  (arguments.filter isSenseless).forM fun argument => do
    Run.log .error (← Run.ofExcept (senselessMessage argument))

theorem makeUrl_eq (template : String) (arguments : List Value) :
    (makeUrl template arguments : Run β String) =
      (logSenseless arguments >>= fun _ => Run.ofExcept (make template arguments)) := rfl

theorem logSenseless_cons_of_placed (placed : isSenseless argument = false) (rest : List Value) :
    (logSenseless (argument :: rest) : Run β Unit) = logSenseless rest := by
  rw [logSenseless, List.filter_cons_of_neg (by simp [placed])]
  rfl

theorem logSenseless_cons_of_senseless (senseless : isSenseless argument = true)
    (rest : List Value) : (logSenseless (argument :: rest) : Run β Unit) =
      ((Run.ofExcept (senselessMessage argument) >>= Run.log .error) >>= fun _ =>
        logSenseless rest) := by
  rw [logSenseless, List.filter_cons_of_pos senseless]
  rfl

theorem senselessMessage_of_shown (shown : argument.flaw? = none) :
    ∃ message, senselessMessage argument = .ok message := by
  rw [senselessMessage, Value.written, shown]
  exact ⟨_, rfl⟩

theorem senselessMessage_of_unshown {mishap : Mishap} (unshown : argument.flaw? = some mishap) :
    senselessMessage argument = .error mishap.failure := by
  rw [senselessMessage, Value.written, unshown]
  rfl

theorem given_logSenseless (shown : Shown arguments) (world : World β) :
    given (logSenseless arguments world) = .ok () := by
  induction arguments generalizing world with
  | nil => rfl
  | cons argument rest ih =>
    have others : Shown rest := fun other listed => shown other (List.mem_cons_of_mem _ listed)
    cases sense : isSenseless argument with
    | false =>
      rw [logSenseless_cons_of_placed sense]
      exact ih others world
    | true =>
      obtain ⟨message, told⟩ := senselessMessage_of_shown (shown argument List.mem_cons_self sense)
      rw [logSenseless_cons_of_senseless sense, ofExcept_bind_of_ok told]
      exact ih others _

/-- The first argument without a place that cannot be shown ends it all. -/
theorem given_logSenseless_unshown {mishap : Mishap} (shown : Shown before)
    (senseless : isSenseless argument = true) (unshown : argument.flaw? = some mishap)
    (world : World β) :
    given (logSenseless (before ++ argument :: after) world) = .error mishap.failure := by
  induction before generalizing world with
  | nil =>
    rw [List.nil_append, logSenseless_cons_of_senseless senseless,
      senselessMessage_of_unshown unshown]
    rfl
  | cons first rest ih =>
    have others : Shown rest := fun other listed => shown other (List.mem_cons_of_mem _ listed)
    rw [List.cons_append]
    cases sense : isSenseless first with
    | false =>
      rw [logSenseless_cons_of_placed sense]
      exact ih others world
    | true =>
      obtain ⟨message, told⟩ := senselessMessage_of_shown (shown first List.mem_cons_self sense)
      rw [logSenseless_cons_of_senseless sense, ofExcept_bind_of_ok told]
      exact ih others _

theorem given_makeUrl (shown : Shown arguments) (template : String) (world : World β) :
    given (makeUrl template arguments world) = make template arguments := by
  rw [makeUrl_eq]
  obtain ⟨later, same⟩ := given_bind_of_ok (given_logSenseless shown world)
    fun _ => Run.ofExcept (make template arguments)
  rw [same, given_ofExcept]

theorem given_makeUrl_unshown {mishap : Mishap} (shown : Shown before)
    (senseless : isSenseless argument = true) (unshown : argument.flaw? = some mishap)
    (template : String) (world : World β) :
    given (makeUrl template (before ++ argument :: after) world) = .error mishap.failure := by
  rw [makeUrl_eq]
  exact given_bind_of_error (given_logSenseless_unshown shown senseless unshown world) _

/-- How the address of a template and arguments comes of them, where `fills` tells which arguments are
texts and numbers, and a merged row of query parameters is the first followed by the others in turn. -/
structure Separates (β : Type) (template : String) (arguments : List Value) : Prop where
  /-- Only the texts and numbers in their order and the query parameters in theirs matter, and not the
  state the address is made in. -/
  alike : Shown arguments → ∀ others, Shown others → Alike arguments others →
    ∀ world later : World β,
      given (makeUrl template others later) = given (makeUrl template arguments world)
  dropped : Shown arguments → ∀ before argument after, arguments = before ++ argument :: after →
    isSenseless argument = true → ∀ world : World β,
      given (makeUrl template (before ++ after) world) = given (makeUrl template arguments world)
  merged : Shown arguments → ∀ first rest, arguments.filterMap parameters? = first :: rest →
    ∀ world : World β,
      given (makeUrl template
          (arguments.filter fills ++ [Value.query (rest.foldl QueryParams.append first)]) world) =
        given (makeUrl template arguments world)
  /-- The address, or the failure, is that without any query parameters, and they go behind it. -/
  formed : ∀ world : World β, given (makeUrl template arguments world) =
    (given (makeUrl template (withoutParameters arguments) world)).map
      fun plain =>
        let params := arguments.filterMap parameters?
        if ∀ one ∈ params, one.pairs = [] then plain
        else plain ++ (if '?' ∈ plain.toList then "&" else "?") ++
          String.intercalate "&" ((params.flatMap QueryParams.pairs).map QueryParams.pairText)
  /-- Where an argument that has no place in the address cannot be shown, the first such is what
  goes wrong. -/
  unshown : ¬ Shown arguments → ∃ before argument after mishap,
    arguments = before ++ argument :: after ∧ Shown before ∧ isSenseless argument = true ∧
      argument.flaw? = some mishap ∧
        ∀ world : World β, given (makeUrl template arguments world) = .error mishap.failure

end PageDriver

namespace Url

theorem shown_or_unshown (arguments : List Value) :
    Shown arguments ∨ ∃ before argument after mishap, arguments = before ++ argument :: after ∧
      Shown before ∧ isSenseless argument = true ∧ argument.flaw? = some mishap := by
  induction arguments with
  | nil => exact .inl nofun
  | cons first rest ih =>
    by_cases bad : isSenseless first = true ∧ first.flaw? ≠ none
    · obtain ⟨senseless, flawed⟩ := bad
      obtain ⟨mishap, flaw⟩ := Option.ne_none_iff_exists'.mp flawed
      exact .inr ⟨[], first, rest, mishap, rfl, nofun, senseless, flaw⟩
    · have fine : isSenseless first = true → first.flaw? = none := by
        intro senseless
        by_contra flawed
        exact bad ⟨senseless, flawed⟩
      rcases ih with shown | ⟨before, argument, after, mishap, rfl, shown, senseless, flaw⟩
      · exact .inl (List.forall_mem_cons.mpr ⟨fine, shown⟩)
      · refine .inr ⟨first :: before, argument, after, mishap, rfl, ?_, senseless, flaw⟩
        exact List.forall_mem_cons.mpr ⟨fine, shown⟩

theorem Shown.withoutParameters (shown : Shown arguments) : Shown (withoutParameters arguments) :=
  fun argument listed => shown argument (List.mem_of_mem_filter listed)

theorem Shown.filter_fills (shown : Shown arguments) : Shown (arguments.filter fills) :=
  fun argument listed => shown argument (List.mem_of_mem_filter listed)

theorem filter_fills_withoutParameters (arguments : List Value) :
    (withoutParameters arguments).filter fills = arguments.filter fills := by
  rw [withoutParameters, List.filter_filter]
  congr 1
  funext argument
  cases params : parameters? argument with
  | none => simp
  | some found => simp [fills_of_parameters? params]

theorem filterMap_parameters?_withoutParameters (arguments : List Value) :
    (withoutParameters arguments).filterMap parameters? = [] := by
  rw [withoutParameters, List.filterMap_filter, List.filterMap_eq_nil_iff]
  intro argument _
  cases parameters? argument <;> simp

theorem filterMap_parameters?_filter_fills (arguments : List Value) :
    (arguments.filter fills).filterMap parameters? = [] := by
  rw [List.filterMap_filter, List.filterMap_eq_nil_iff]
  intro argument _
  cases params : parameters? argument with
  | none => simp
  | some found => simp [fills_of_parameters? params]

theorem filter_fills_append_query (arguments : List Value) (params : QueryParams) :
    (arguments.filter fills ++ [Value.query params]).filter fills = arguments.filter fills := by
  have unfit : fills (.query params) = false := rfl
  rw [List.filter_append, List.filter_filter, List.filter_cons_of_neg (by simp [unfit])]
  simp

theorem filterMap_parameters?_append_query (arguments : List Value) (params : QueryParams) :
    (arguments.filter fills ++ [Value.query params]).filterMap parameters? = [params] := by
  rw [List.filterMap_append, filterMap_parameters?_filter_fills]
  rfl

theorem make_merged {first : QueryParams} {rest : List QueryParams}
    (listed : arguments.filterMap parameters? = first :: rest) (template : String) :
    make template (arguments.filter fills ++ [Value.query (rest.foldl QueryParams.append first)]) =
      make template arguments := by
  rw [make, make, filterMap_placeholderValue? (_ ++ _), filter_fills_append_query,
    filterMap_parameters?_append_query, listed, joined_cons first rest,
    ← filterMap_placeholderValue?]

theorem make_withoutParameters (template : String) (arguments : List Value) :
    make template arguments = (make template (withoutParameters arguments)).map fun plain =>
      withParameters plain (joined (arguments.filterMap parameters?)) := by
  have fillers := filterMap_placeholderValue? (withoutParameters arguments)
  rw [filter_fills_withoutParameters, ← filterMap_placeholderValue?] at fillers
  rw [make, make, fillers, filterMap_parameters?_withoutParameters]
  cases filled template (arguments.filterMap placeholderValue?) <;> rfl

end Url

namespace PageDriver

open Url

theorem given_makeUrl_withoutParameters (template : String) (arguments : List Value)
    (world : World β) : given (makeUrl template arguments world) =
      (given (makeUrl template (withoutParameters arguments) world)).map fun plain =>
        withParameters plain (joined (arguments.filterMap parameters?)) := by
  rcases shown_or_unshown arguments with
    shown | ⟨before, argument, after, mishap, rfl, shown, senseless, flaw⟩
  · rw [given_makeUrl shown, given_makeUrl shown.withoutParameters, make_withoutParameters]
  -- The argument that cannot be shown is no query parameter, so it stays the first of its kind.
  · have parted : withoutParameters (before ++ argument :: after) =
        withoutParameters before ++ argument :: withoutParameters after := by
      have bare : (parameters? argument).isNone = true := by
        rw [(isSenseless_iff.mp senseless).2]
        rfl
      rw [withoutParameters, List.filter_append, List.filter_cons, if_pos bare]
      rfl
    rw [given_makeUrl_unshown shown senseless flaw, parted,
      given_makeUrl_unshown shown.withoutParameters senseless flaw]
    rfl

/-- Addresses keep the two kinds of their arguments apart, whatever the template and the
arguments are. -/
theorem separates_of_makeUrl (template : String) (arguments : List Value) :
    Separates β template arguments := by
  constructor
  case alike =>
    intro shown others shown' alike world later
    rw [given_makeUrl shown, given_makeUrl shown', alike.make_eq]
  case dropped =>
    rintro shown before argument after rfl senseless world
    have alike : Alike (before ++ argument :: after) (before ++ after) := .leaving senseless
    rw [given_makeUrl shown, given_makeUrl shown.leaving, alike.make_eq]
  case merged =>
    intro shown first rest listed world
    have placed : Shown (arguments.filter fills ++
        [Value.query (rest.foldl QueryParams.append first)]) := by
      intro argument among senseless
      rcases List.mem_append.mp among with filling | one
      · exact shown.filter_fills argument filling senseless
      · rw [List.mem_singleton.mp one] at senseless
        cases senseless
    rw [given_makeUrl shown, given_makeUrl placed, make_merged listed]
  case formed =>
    intro world
    rw [given_makeUrl_withoutParameters]
    simp only [withParameters_joined]
  case unshown =>
    intro hidden
    rcases shown_or_unshown arguments with
      shown | ⟨before, argument, after, mishap, rfl, shown, senseless, flaw⟩
    · exact absurd shown hidden
    · exact ⟨before, argument, after, mishap, rfl, shown, senseless, flaw, fun world =>
        given_makeUrl_unshown shown senseless flaw template world⟩

end PageDriver

namespace Notes

theorem typeBreach_apart (message : String) :
    (Failure.typeBreach message).kind.isSynthesis = false :=
  rfl

/-- A note that its author lets say nothing of how it looks. -/
def mute : Value :=
  .record { number := 0, name := "Note" } []
    { unshown := some ⟨.typeBreach "__repr__ returned non-string", typeBreach_apart _⟩ } none

/-- A state in which nothing has happened. -/
def desk : World Unit where
  browser := ()
  clock := ⟨2024, 5, 6, 7, 8, 9, 0⟩

/-- A note has no place in an address, and still keeps one from being made. -/
theorem note_stands_in_the_way :
    Url.isSenseless mute = true ∧ given (PageDriver.makeUrl "/x" [] desk) = .ok "/x" ∧
      given (PageDriver.makeUrl "/x" [mute] desk) =
        .error (.typeBreach "__repr__ returned non-string") := by
  refine ⟨rfl, rfl, rfl⟩

end Notes
end PageContracts
