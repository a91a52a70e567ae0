import PageContracts.Plan.Rule
import PageContracts.Proofs.Arguments
import PageContracts.Proofs.Declarations

/-! # Extending locators

A text is set behind a template with its percent signs doubled. In a template that has placeholders
they are read as single ones again, and the text is appended as it is. A template without placeholders
is used as it stands: there the doubled signs stay doubled, and a percent sign that the template ends
with makes a placeholder of a letter that the text begins with. -/
namespace PageContracts

open Runs

namespace Template

/-- Whether a percent sign at the end of a template is left without a partner: whether the template
ends in an odd number of them. -/
def endsOpen (template : List Char) : Bool :=
  template.foldl (fun opened c => c = '%' && !opened) false

section Ending

variable {c : Char} {rest : List Char}

theorem endsOpen_of_ne (h : c ≠ '%') : endsOpen (c :: rest) = endsOpen rest := by
  simp [endsOpen, h]

@[simp] theorem endsOpen_percent : endsOpen ('%' :: '%' :: rest) = endsOpen rest := by
  simp [endsOpen]

theorem endsOpen_other (h : c ≠ '%') : endsOpen ('%' :: c :: rest) = endsOpen rest := by
  simp [endsOpen, h]

end Ending

/-- Whether what is read from a place on leaves a percent sign without a partner. -/
def Place.endsOpen (rest : List Char) : Place → Bool
  | .text | .inside _ _ => Template.endsOpen rest
  | .opened => Template.endsOpen ('%' :: rest)

/-- A template that can be filled leaves no percent sign without a partner. -/
theorem closed_of_complete (place : Place) (index : Nat) (rest : List Char)
    (complete : AllComplete (piecesFrom place index rest)) : place.endsOpen rest = false := by
  induction place, index, rest using piecesFrom.induct with
  | case1 index => rfl
  | case2 index rest ih =>
    rw [piecesFrom, if_pos rfl] at complete
    exact ih complete
  | case3 index c rest apart ih =>
    rw [piecesFrom, if_neg apart] at complete
    exact (endsOpen_of_ne apart).trans (ih (allComplete_cons.mp complete).2)
  | case4 index =>
    obtain ⟨_, _, letter, -⟩ := (allComplete_cons.mp complete).1
    cases letter
  | case5 index rest ih =>
    rw [piecesFrom, if_pos rfl] at complete
    exact endsOpen_percent.trans (ih (allComplete_cons.mp complete).2)
  | case6 index rest apart => exact (allComplete_cons.mp complete).1.elim
  | case7 index c rest apart bracket next onward more ih =>
    simp only [piecesFrom, if_neg apart, if_neg bracket, more] at complete
    exact (endsOpen_other apart).trans (ih complete)
  | case8 index c rest apart bracket onward done ih =>
    simp only [piecesFrom, if_neg apart, if_neg bracket, done] at complete
    exact (endsOpen_other apart).trans (ih (allComplete_cons.mp complete).2)
  | case9 stage read index => rfl
  | case10 stage read index c rest next onward more ih =>
    simp only [piecesFrom, more] at complete
    exact (endsOpen_of_ne (ne_percent_of_more more)).trans (ih complete)
  | case11 stage read index c rest onward done ih =>
    simp only [piecesFrom, done] at complete
    obtain ⟨ended, others⟩ := allComplete_cons.mp complete
    exact (endsOpen_of_ne (ne_percent_of_done done ended)).trans (ih others)

/-- What is counted behind a template, together with a percent sign that the template leaves. -/
theorem countMarks_append (template behind : List Char) :
    countMarks (template ++ behind) =
      countMarks template + countMarks (if endsOpen template then '%' :: behind else behind) := by
  induction template using countMarks.induct with
  | case1 rest ih =>
    rw [endsOpen_percent, countMarks_percent]
    exact countMarks_percent.trans ih
  | case2 c rest apart mark ih =>
    rw [endsOpen_other apart, countMarks_mark mark, Nat.add_right_comm, ← ih]
    exact countMarks_mark mark
  | case3 c rest apart other ih =>
    rw [endsOpen_of_ne apart, countMarks_of_ne apart] at ih
    rw [endsOpen_other apart, countMarks_other apart other, ← ih]
    exact (countMarks_other apart other).trans (countMarks_of_ne apart).symm
  | case4 c rest alone ih =>
    by_cases apart : c = '%'
    · cases rest with
      | nil =>
        subst apart
        exact (Nat.zero_add _).symm
      | cons next more => exact (alone next more apart rfl).elim
    · rw [endsOpen_of_ne apart, countMarks_of_ne apart, ← ih]
      exact countMarks_of_ne apart
  | case5 => exact (Nat.zero_add _).symm

/-- Whether the reading stands where a conversion that has begun has no letter yet. -/
def Place.Unended : Place → Prop
  | .inside _ read => read.letter = none
  | _ => True

/-- A template that can be filled is read to its end before what stands behind it. -/
theorem piecesFrom_append (place : Place) (index : Nat) (rest behind : List Char)
    (unended : place.Unended) (complete : AllComplete (piecesFrom place index rest)) :
    piecesFrom place index (rest ++ behind) =
      piecesFrom place index rest ++ piecesFrom .text (index + rest.length) behind := by
  have shift (index : Nat) (c : Char) (rest : List Char) :
      index + (c :: rest).length = index + 1 + rest.length := by
    rw [List.length_cons, Nat.add_assoc, Nat.add_comm 1]
  induction place, index, rest using piecesFrom.induct with
  | case1 index => rfl
  | case2 index rest ih =>
    rw [piecesFrom, if_pos rfl] at complete ⊢
    rw [List.cons_append, piecesFrom, if_pos rfl, shift, ih trivial complete]
  | case3 index c rest apart ih =>
    rw [piecesFrom, if_neg apart] at complete ⊢
    rw [List.cons_append, piecesFrom, if_neg apart, shift, ih trivial (allComplete_cons.mp complete).2]
    rfl
  | case4 index =>
    obtain ⟨_, _, letter, -⟩ := (allComplete_cons.mp complete).1
    cases letter
  | case5 index rest ih =>
    rw [piecesFrom, if_pos rfl] at complete ⊢
    rw [List.cons_append, piecesFrom, if_pos rfl, shift, ih trivial (allComplete_cons.mp complete).2]
    rfl
  | case6 index rest apart => exact (allComplete_cons.mp complete).1.elim
  | case7 index c rest apart bracket next onward more ih =>
    simp only [piecesFrom, if_neg apart, if_neg bracket, more] at complete ⊢
    simp only [List.cons_append, piecesFrom, if_neg apart, if_neg bracket, more]
    rw [shift, ih (letter_of_more more) complete]
  | case8 index c rest apart bracket onward done ih =>
    simp only [piecesFrom, if_neg apart, if_neg bracket, done] at complete ⊢
    simp only [List.cons_append, piecesFrom, if_neg apart, if_neg bracket, done]
    rw [shift, ih trivial (allComplete_cons.mp complete).2]
  | case9 stage read index =>
    -- the template ends inside a conversion, so the conversion has no letter
    obtain ⟨_, _, letter, -⟩ := (allComplete_cons.mp complete).1
    rw [unended] at letter
    cases letter
  | case10 stage read index c rest next onward more ih =>
    simp only [piecesFrom, more] at complete ⊢
    simp only [List.cons_append, piecesFrom, more]
    rw [shift, ih ((letter_of_more more).trans unended) complete]
  | case11 stage read index c rest onward done ih =>
    simp only [piecesFrom, done] at complete ⊢
    simp only [List.cons_append, piecesFrom, done]
    rw [shift, ih trivial (allComplete_cons.mp complete).2]

/-- A character as a part that is filled with it. -/
def Part.ofChar (c : Char) : Part :=
  if apart : c = '%' then .percent else .plain c apart

theorem Part.written_ofChar (c : Char) :
    (ofChar c).written = if c = '%' then ['%', '%'] else [c] := by
  unfold ofChar
  split <;> rfl

theorem Part.takes_ofChar (c : Char) : (ofChar c).takes = 0 := by
  unfold ofChar
  split <;> rfl

theorem Part.piece_ofChar (index : Nat) (c : Char) : (ofChar c).piece index = .literal c := by
  unfold ofChar
  split
  · next percent => rw [percent, piece]
  · rfl

/-- A text with its percent signs doubled. -/
def doubled (text : List Char) : List Char :=
  written (text.map Part.ofChar)

theorem toList_escapePercent (text : String) :
    (LocatorDescriptor.escapePercent text).toList = doubled text.toList := by
  rw [LocatorDescriptor.escapePercent, String.toList_ofList, doubled, written, List.flatMap_map]
  congr 1
  funext c
  exact (Part.written_ofChar c).symm

theorem doubled_cons (c : Char) (text : List Char) :
    doubled (c :: text) = (Part.ofChar c).written ++ doubled text :=
  rfl

theorem doubled_of_apart {text : List Char} (apart : '%' ∉ text) : doubled text = text := by
  induction text with
  | nil => rfl
  | cons c rest ih =>
    rw [List.mem_cons, not_or] at apart
    rw [doubled_cons, Part.written_ofChar, if_neg (Ne.symm apart.1), ih apart.2]
    rfl

theorem length_doubled (text : List Char) :
    (doubled text).length = text.length + text.count '%' := by
  induction text with
  | nil => rfl
  | cons c rest ih =>
    rw [doubled_cons, Part.written_ofChar, List.length_append, ih, List.count_cons, List.length_cons]
    by_cases percent : c = '%'
    · simp [percent]
      omega
    · simp [percent]
      omega

@[simp] theorem countMarks_doubled (text : List Char) : countMarks (doubled text) = 0 := by
  induction text with
  | nil => rfl
  | cons c rest ih => rw [doubled_cons, countMarks_part, ih, Part.takes_ofChar]

theorem piecesFrom_doubled (index : Nat) (text : List Char) :
    piecesFrom .text index (doubled text) = text.map .literal := by
  induction text generalizing index with
  | nil => rfl
  | cons c rest ih =>
    rw [doubled_cons, piecesFrom_part, ih, Part.piece_ofChar, List.map_cons]

/-- Literal text behind pieces is filled in behind them. -/
theorem fillPieces_append {pieces : List Piece} {arguments : List Value} {text : List Char}
    (h : fillPieces pieces arguments = .ok text) (behind : List Char) :
    fillPieces (pieces ++ behind.map .literal) arguments = .ok (text ++ behind) := by
  induction pieces generalizing arguments text with
  | nil =>
    cases arguments with
    | cons value rest => cases h
    | nil =>
      cases h
      induction behind with
      | nil => rfl
      | cons c rest ih => exact except_bind_eq_ok.mpr ⟨rest, ih, rfl⟩
  | cons piece pieces ih =>
    cases piece with
    | named => cases h
    | literal c =>
      obtain ⟨more, filled, ended⟩ := except_bind_eq_ok.mp h
      cases ended
      exact except_bind_eq_ok.mpr ⟨_, ih filled, rfl⟩
    | conversion read =>
      obtain ⟨⟨front, rest⟩, applied, h⟩ := except_bind_eq_ok.mp h
      obtain ⟨more, filled, ended⟩ := except_bind_eq_ok.mp h
      cases ended
      rw [List.append_assoc]
      exact except_bind_eq_ok.mpr ⟨_, applied, except_bind_eq_ok.mpr ⟨_, ih filled, rfl⟩⟩

end Template

namespace LocatorDescriptor

open Template (endsOpen doubled countMarks)

/-- A text can stand behind a template that has no placeholders: it has no percent sign, and begins
with no letter of a mark where the template leaves a percent sign for it. -/
def Joins (template suffix : String) : Prop :=
  '%' ∉ suffix.toList ∧
    (endsOpen template.toList = true →
      suffix.toList.head? ≠ some 's' ∧ suffix.toList.head? ≠ some 'd')

instance (template suffix : String) : Decidable (Joins template suffix) :=
  inferInstanceAs (Decidable (_ ∧ (_ → _)))

/-- Extending a descriptor by a text appends the text to what it is formatted to, and changes neither
its kind nor its placeholders. -/
structure Appends (descriptor : LocatorDescriptor) (suffix : String) (arguments : List Value)
    (text : String) : Prop where
  kind : (descriptor.extended suffix).kind = descriptor.kind
  placeholders : (descriptor.extended suffix).placeholders = descriptor.placeholders
  formats : (descriptor.extended suffix).format arguments = .ok (text ++ suffix)

variable {descriptor : LocatorDescriptor} {suffix text : String} {arguments : List Value}

theorem toList_extended (descriptor : LocatorDescriptor) (suffix : String) :
    (descriptor.extended suffix).template.toList =
      descriptor.template.toList ++ doubled suffix.toList := by
  rw [extended, String.toList_append, Template.toList_escapePercent]

theorem placeholders_extended (descriptor : LocatorDescriptor) (suffix : String) :
    (descriptor.extended suffix).placeholders = descriptor.placeholders +
      countMarks (if endsOpen descriptor.template.toList then '%' :: doubled suffix.toList
        else doubled suffix.toList) := by
  rw [placeholders, Template.placeholderCount, toList_extended, Template.countMarks_append]
  rfl

/-- Whatever is appended to a template that can be filled is filled in as it is. -/
theorem appends_of_filled (placed : descriptor.placeholders ≠ 0)
    (formats : descriptor.format arguments = .ok text) : descriptor.Appends suffix arguments text := by
  rw [format, if_neg placed] at formats
  obtain ⟨filled, fills, ended⟩ := except_bind_eq_ok.mp formats
  cases ended
  obtain ⟨complete, -⟩ := Template.complete_of_filled fills
  have closed : endsOpen descriptor.template.toList = false :=
    Template.closed_of_complete .text 0 _ complete
  have counted : (descriptor.extended suffix).placeholders = descriptor.placeholders := by
    rw [placeholders_extended, closed, if_neg Bool.false_ne_true, Template.countMarks_doubled]
    rfl
  refine ⟨rfl, counted, ?_⟩
  rw [format, counted, if_neg placed]
  have read : Template.pieces (descriptor.extended suffix).template =
      Template.pieces descriptor.template ++ suffix.toList.map .literal := by
    rw [Template.pieces, toList_extended, Template.piecesFrom_append .text 0 _ _ trivial complete,
      Template.piecesFrom_doubled]
    rfl
  refine except_bind_eq_ok.mpr ⟨filled ++ suffix.toList, ?_, ?_⟩
  · rw [read]
    exact Template.fillPieces_append fills suffix.toList
  · rw [String.ofList_append, String.ofList_toList]
    rfl

/-- A text without percent signs has no placeholders. -/
theorem countMarks_of_apart {text : List Char} (apart : '%' ∉ text) : countMarks text = 0 := by
  rw [← Template.doubled_of_apart apart]
  exact Template.countMarks_doubled text

theorem countMarks_open_of_joins {text : List Char} (apart : '%' ∉ text)
    (unmarked : text.head? ≠ some 's' ∧ text.head? ≠ some 'd') : countMarks ('%' :: text) = 0 := by
  cases text with
  | nil => exact Template.countMarks_open
  | cons c rest =>
    rw [List.mem_cons, not_or] at apart
    have other : ¬ (c = 's' ∨ c = 'd') := by
      rintro (rfl | rfl)
      · exact unmarked.1 rfl
      · exact unmarked.2 rfl
    rw [Template.countMarks_other (Ne.symm apart.1) other]
    exact countMarks_of_apart apart.2

theorem countMarks_open_pos {c : Char} (mark : c = 's' ∨ c = 'd') {text : List Char}
    (apart : '%' ∉ text) (head : text.head? = some c) : countMarks ('%' :: text) ≠ 0 := by
  cases text with
  | nil => cases head
  | cons first rest =>
    cases head
    rw [Template.countMarks_mark mark]
    exact Nat.succ_ne_zero _

/-- A text that joins a template without placeholders is appended to it, and no other text is: there
is a new placeholder, or the text is not what stands behind the template. -/
theorem joins_iff (plain : descriptor.placeholders = 0) :
    Joins descriptor.template suffix ↔
      (descriptor.extended suffix).placeholders = 0 ∧
        (descriptor.extended suffix).template = descriptor.template ++ suffix := by
  have counted := placeholders_extended descriptor suffix
  rw [plain, Nat.zero_add] at counted
  have same : (descriptor.extended suffix).template = descriptor.template ++ suffix ↔
      '%' ∉ suffix.toList := by
    rw [← String.toList_inj, toList_extended, String.toList_append, List.append_cancel_left_eq]
    constructor
    · intro literal
      have length := congrArg List.length literal
      rw [Template.length_doubled] at length
      exact List.count_eq_zero.mp (by omega)
    · exact Template.doubled_of_apart
  rw [same, counted, Joins]
  constructor
  · rintro ⟨apart, unmarked⟩
    refine ⟨?_, apart⟩
    rw [Template.doubled_of_apart apart]
    split
    · next opened => exact countMarks_open_of_joins apart (unmarked opened)
    · exact countMarks_of_apart apart
  · rintro ⟨unmarked, apart⟩
    refine ⟨apart, fun opened => ?_⟩
    rw [if_pos opened, Template.doubled_of_apart apart] at unmarked
    constructor
    · intro head
      exact countMarks_open_pos (.inl rfl) apart head unmarked
    · intro head
      exact countMarks_open_pos (.inr rfl) apart head unmarked

/-- A descriptor that is formatted without arguments has no placeholders. -/
theorem placeholders_of_format_nil (formats : descriptor.format [] = .ok text) :
    descriptor.placeholders = 0 := by
  by_contra placed
  rw [format, if_neg placed] at formats
  obtain ⟨filled, fills, -⟩ := except_bind_eq_ok.mp formats
  obtain ⟨complete, needed⟩ := Template.complete_of_filled fills
  have enough : countMarks descriptor.template.toList ≤
      Template.demand (Template.pieces descriptor.template) :=
    (Template.covers_of_complete .text 0 _ complete).enough
  rw [needed] at enough
  exact placed (Nat.le_zero.mp enough)

theorem format_of_plain (plain : descriptor.placeholders = 0) (arguments : List Value) :
    descriptor.format arguments = .ok descriptor.template :=
  if_pos plain

/-- What a text is appended to: any descriptor with placeholders that can be formatted, and one
without them where the text joins its template. -/
theorem appends_iff (formats : descriptor.format arguments = .ok text) :
    descriptor.Appends suffix arguments text ↔
      descriptor.placeholders ≠ 0 ∨ Joins descriptor.template suffix := by
  by_cases plain : descriptor.placeholders = 0
  · -- the template is used as it stands, and so is the extended one unless it has got placeholders
    rw [format_of_plain plain] at formats
    cases formats
    rw [joins_iff plain, or_iff_right (not_not.mpr plain)]
    constructor
    · intro appends
      have still : (descriptor.extended suffix).placeholders = 0 :=
        appends.placeholders.trans plain
      have formats := appends.formats
      rw [format_of_plain still] at formats
      exact ⟨still, Except.ok.inj formats⟩
    · rintro ⟨still, joined⟩
      refine ⟨rfl, still.trans plain.symm, ?_⟩
      rw [format_of_plain still, joined]
  · exact ⟨fun _ => .inl plain, fun _ => appends_of_filled plain formats⟩

end LocatorDescriptor

namespace Rule

/-- The locators of the fields of a model are the operation's locator extended by the fields' names. -/
theorem mem_calls_setModel {table : ClassTable} {operation : Operation}
    {descriptor : LocatorDescriptor} (located : operation.locator = some descriptor)
    {call : PrimitiveCall} (listed : call ∈ Rule.setModel.calls table operation) :
    ∃ field, call = .setText (descriptor.extended field) 0 (some field) := by
  obtain ⟨field, -, rfl⟩ := List.mem_map.mp listed
  exact ⟨field.name, by rw [located, fieldLocator]⟩

/-- The locator of an operation that takes nothing but a model has no placeholders. -/
theorem placeholders_of_accepts_setModel {table : ClassTable} {operation : Operation}
    {descriptor : LocatorDescriptor} (accepted : Rule.setModel.accepts table operation = true)
    (located : operation.locator = some descriptor) : descriptor.placeholders = 0 := by
  obtain ⟨shaped, fits⟩ := Bool.and_eq_true_iff.mp accepted
  obtain ⟨-, typed⟩ := Bool.and_eq_true_iff.mp (Bool.and_eq_true_iff.mp shaped).2
  have alone : (operation.parameterTypes.drop 1).length = 0 := by
    split at typed
    · next type only => rw [only, List.drop_succ_cons, List.drop_zero, List.length_nil]
    · cases typed
  cases checked : Rule.setModel.checkArguments operation with
  | error failure =>
    rw [checked] at fits
    cases fits
  | ok done =>
    rw [Rule.checkArguments, located] at checked
    obtain ⟨counted, -⟩ := tried_of_checkArguments checked
    exact counted.symm.trans alone

end Rule

namespace LocatorDescriptor

/-- A text is appended to whatever a locator is formatted to just where the locator has placeholders or
the text joins its template. The locators of the fields of a model never have placeholders: they are
formatted to the locator of the model with the field's name behind it just where the name joins. -/
theorem appends_iff_joins (descriptor : LocatorDescriptor) :
    (∀ suffix arguments text, descriptor.format arguments = .ok text →
      (descriptor.Appends suffix arguments text ↔
        descriptor.placeholders ≠ 0 ∨ Joins descriptor.template suffix)) ∧
    ∀ table operation, Rule.setModel.accepts table operation = true →
      operation.locator = some descriptor →
        ∀ locator argument field,
          .setText locator argument (some field) ∈ (Rule.setModel.plan table operation).calls →
            ∃ text, descriptor.format [] = .ok text ∧
              (locator.format [] = .ok (text ++ field) ↔ Joins descriptor.template field) := by
  refine ⟨fun suffix arguments text => appends_iff, ?_⟩
  intro table operation accepted located locator argument field planned
  have plain := Rule.placeholders_of_accepts_setModel accepted located
  obtain ⟨name, same⟩ := Rule.mem_calls_setModel located planned
  cases same
  refine ⟨descriptor.template, format_of_plain plain [], ?_⟩
  rw [joins_iff plain]
  constructor
  · intro formats
    have still := placeholders_of_format_nil formats
    rw [format_of_plain still] at formats
    exact ⟨still, Except.ok.inj formats⟩
  · rintro ⟨still, joined⟩
    rw [format_of_plain still, joined]

end LocatorDescriptor

namespace AddressForm

/-- A locator of a cell takes any text behind it, and the street is looked for behind the locator of
the row. -/
theorem street_appended :
    LocatorDescriptor.Appends { kind := .css, template := "cell-%s" } "-50%s" [.text "a"] "cell-a" ∧
      Rule.setModel.accepts classes (fillIn "row-") = true ∧
      .setText { kind := .id, template := "row-street" } 0 (some "street") ∈
        (Rule.setModel.plan classes (fillIn "row-")).calls ∧
      LocatorDescriptor.format { kind := .id, template := "row-street" } [] =
        .ok ("row-" ++ "street") := by
  have formats : LocatorDescriptor.format { kind := .css, template := "cell-%s" } [.text "a"] =
      .ok "cell-a" := by
    decide +kernel
  have accepted : Rule.setModel.accepts classes (fillIn "row-") = true := by decide +kernel
  have planned : .setText { kind := .id, template := "row-street" } 0 (some "street") ∈
      (Rule.setModel.plan classes (fillIn "row-")).calls := by
    decide +kernel
  refine ⟨?_, accepted, planned, ?_⟩
  · refine ((LocatorDescriptor.appends_iff_joins _).1 _ _ _ formats).mpr (.inl ?_)
    decide +kernel
  · obtain ⟨text, formats, appended⟩ :=
      (LocatorDescriptor.appends_iff_joins _).2 _ _ accepted rfl _ _ _ planned
    cases formats
    exact appended.mpr (by decide +kernel)

/-- A street behind a template that ends in a percent sign makes a placeholder of its own, and a percent
sign behind a template without placeholders stays doubled. -/
theorem street_misread :
    (LocatorDescriptor.format { kind := .id, template := "row%" } [] = .ok "row%" ∧
      Rule.setModel.accepts classes (fillIn "row%") = true ∧
      .setText (LocatorDescriptor.extended { kind := .id, template := "row%" } "street") 0
          (some "street") ∈ (Rule.setModel.plan classes (fillIn "row%")).calls ∧
      (LocatorDescriptor.extended { kind := .id, template := "row%" } "street").placeholders = 1 ∧
      ∃ failure, LocatorDescriptor.format
        (LocatorDescriptor.extended { kind := .id, template := "row%" } "street") [] =
          .error failure) ∧
    LocatorDescriptor.format { kind := .id, template := "row-" } [] = .ok "row-" ∧
      LocatorDescriptor.format
        (LocatorDescriptor.extended { kind := .id, template := "row-" } "50%") [] =
          .ok "row-50%%" :=
  ⟨⟨by decide +kernel, by decide +kernel, by decide +kernel, by decide +kernel, _, rfl⟩,
    by decide +kernel, by decide +kernel⟩

end AddressForm
end PageContracts
