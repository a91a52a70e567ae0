import PageContracts.Proofs.Placeholders

/-! # Arguments for locators

A locator is tried out with one sample for each parameter. A template that the samples fill holds no
conversion but marks, and a mark that takes a sample takes every value of the sample's type: whatever
the parameters are given later, the locator can be formatted. -/
namespace PageContracts

open Runs

namespace Template

variable {index : Nat} {value : Value} {arguments : List Value}

/-- A mark shows whatever its letter makes of its argument. -/
theorem apply_mark (letter : Char) (index : Nat) (value : Value) (arguments : List Value) :
    applyConversion { letter := some (letter, index) } (value :: arguments) =
      (convert {} none letter index value).map fun converted =>
        (layOut {} 0 letter converted, arguments) := by
  change (convert {} none letter index value >>= fun converted =>
    requireRoom 0 >>= fun _ => .ok (layOut {} 0 letter converted, arguments)) = _
  cases convert {} none letter index value <;> rfl

theorem convert_text {text : String} (spoken : value.spoken = .ok text) :
    convert {} none 's' index value = .ok ⟨false, text.toList⟩ := by
  have letter : isTextLetter 's' = true := rfl
  rw [convert, if_pos letter, spoken]
  rfl

theorem written_of_writable {i : Int} (writable : i.natAbs < Value.unwritable)
    (form : Value → String) : (Value.int i).written form = .ok (form (.int i)) := by
  rw [Value.written, Value.flaw?, Value.digitFlaw?, if_pos writable]

theorem spoken_of_writable {i : Int} (writable : i.natAbs < Value.unwritable) :
    (Value.int i).spoken = .ok (Value.int i).display := by
  simp only [Value.spoken, Value.speaks, Bool.not_true, Bool.false_eq_true, if_false,
    written_of_writable writable]

theorem convert_number {i : Int} (counts : value.toInt? = some i)
    (writable : i.natAbs < Value.unwritable) :
    convert {} none 'd' index value = .ok ⟨true, integerText i 10 [] none⟩ := by
  have read : decimalOf 'd' value = .ok i := by
    unfold decimalOf
    rw [counts]
  have other : ¬ isTextLetter 'd' = true := nofun
  have letter : isDecimalLetter 'd' = true := rfl
  rw [convert, if_neg other, if_pos letter, read]
  simp only [bind, Except.bind, written_of_writable writable, requireDigits, pure, Except.pure]

/-- A value of a type that may feed a placeholder: a text, an integer with no more digits than can be
written, or a truth value, which is an integer as well. -/
inductive Feeds : TypeRef → Value → Prop
  | text (text : String) : Feeds .text (.text text)
  | integer (i : Int) (writable : i.natAbs < Value.unwritable) : Feeds .integer (.int i)
  | truth (b : Bool) : Feeds .integer (.bool b)

variable {type : TypeRef} {types : List TypeRef} {sample : Value} {samples : List Value}

theorem Feeds.converts_text (feeds : Feeds type value) :
    ∃ converted, convert {} none 's' index value = .ok converted := by
  have speaks : ∃ text, value.spoken = .ok text := by
    cases feeds with
    | text text => exact ⟨text, rfl⟩
    | integer i writable => exact ⟨_, spoken_of_writable writable⟩
    | truth b => exact ⟨_, rfl⟩
  obtain ⟨text, spoken⟩ := speaks
  exact ⟨_, convert_text spoken⟩

theorem Feeds.converts_number (feeds : Feeds type value) (number : type = .integer) :
    ∃ converted, convert {} none 'd' index value = .ok converted := by
  cases feeds with
  | text text => exact absurd number (by decide)
  | integer i writable => exact ⟨_, convert_number rfl writable⟩
  | truth b =>
    have writable : (if b then 1 else 0 : Int).natAbs < Value.unwritable := by
      cases b <;> decide +kernel
    exact ⟨_, convert_number rfl writable⟩

/-- A mark that shows the sample of a type shows every value of the type. -/
theorem Feeds.converts_of_sample {letter : Char} {converted : Converted} (feeds : Feeds type value)
    (sampled : sampleOf? type = some sample) (mark : letter = 's' ∨ letter = 'd')
    (tried : convert {} none letter index sample = .ok converted) :
    ∃ shown, convert {} none letter index value = .ok shown := by
  rcases mark with rfl | rfl
  · exact feeds.converts_text
  · refine feeds.converts_number ?_
    cases feeds with
    | text text =>
      cases sampled
      cases tried
    | integer i writable => rfl
    | truth b => rfl

/-- Where samples fill pieces, any values of the samples' types do. -/
def Trusts (pieces : List Piece) : Prop :=
  ∀ types samples arguments text,
    List.Forall₂ (fun type sample => sampleOf? type = some sample) types samples →
      List.Forall₂ Feeds types arguments → fillPieces pieces samples = .ok text →
        ∃ filled, fillPieces pieces arguments = .ok filled

theorem Trusts.literal {pieces : List Piece} (h : Trusts pieces) (c : Char) :
    Trusts (.literal c :: pieces) := by
  intro types samples arguments text sampled feeds tried
  obtain ⟨more, triedMore, -⟩ := except_bind_eq_ok.mp tried
  obtain ⟨behind, filled⟩ := h _ _ _ _ sampled feeds triedMore
  exact ⟨_, except_bind_eq_ok.mpr ⟨behind, filled, rfl⟩⟩

theorem Trusts.mark {pieces : List Piece} (h : Trusts pieces) {letter : Char}
    (mark : letter = 's' ∨ letter = 'd') (index : Nat) :
    Trusts (.conversion { letter := some (letter, index) } :: pieces) := by
  intro types samples arguments text sampled feeds tried
  obtain ⟨⟨front, left⟩, applied, tried⟩ := except_bind_eq_ok.mp tried
  obtain ⟨more, triedMore, -⟩ := except_bind_eq_ok.mp tried
  cases sampled with
  | nil => cases applied
  | @cons type sample types samples first others =>
    cases feeds with
    | @cons _ value _ arguments fed rest =>
      rw [apply_mark] at applied
      cases tries : convert {} none letter index sample with
      | error failure =>
        rw [tries] at applied
        cases applied
      | ok converted =>
        rw [tries] at applied
        cases applied
        obtain ⟨shown, shows⟩ := fed.converts_of_sample first mark tries
        obtain ⟨behind, filled⟩ := h _ _ _ _ others rest triedMore
        refine ⟨layOut {} 0 letter shown ++ behind, ?_⟩
        rw [fillPieces, apply_mark, shows]
        exact except_bind_eq_ok.mpr ⟨(_, arguments), rfl, except_bind_eq_ok.mpr ⟨behind, filled, rfl⟩⟩

theorem trusts_written (parts : List Part) (index : Nat) :
    Trusts (piecesFrom .text index (written parts)) := by
  induction parts generalizing index with
  | nil =>
    intro types samples arguments text sampled feeds tried
    cases sampled with
    | nil =>
      cases feeds
      exact ⟨[], rfl⟩
    | cons first others => cases tried
  | cons part parts ih =>
    have spelled : written (part :: parts) = part.written ++ written parts := rfl
    rw [spelled, piecesFrom_part]
    cases part with
    | plain c apart => exact (ih _).literal c
    | percent => exact (ih _).literal '%'
    | text => exact (ih _).mark (.inl rfl) _
    | number => exact (ih _).mark (.inr rfl) _

end Template

open Template (Feeds)

/-- All types have samples, or there is a first one without. -/
theorem samples_cases (types : List TypeRef) :
    (∃ samples, List.Forall₂ (fun type sample => sampleOf? type = some sample) types samples) ∨
      ∃ fed type rest, types = fed ++ type :: rest ∧
        (∀ other ∈ fed, (sampleOf? other).isSome = true) ∧ sampleOf? type = none := by
  induction types with
  | nil => exact .inl ⟨[], .nil⟩
  | cons type types ih =>
    cases sampled : sampleOf? type with
    | none => exact .inr ⟨[], type, types, rfl, nofun, sampled⟩
    | some sample =>
      rcases ih with ⟨samples, others⟩ | ⟨fed, first, rest, rfl, feeds, unknown⟩
      · exact .inl ⟨sample :: samples, .cons sampled others⟩
      · refine .inr ⟨type :: fed, first, rest, rfl, ?_, unknown⟩
        intro other listed
        rcases List.mem_cons.mp listed with rfl | listed
        · rw [sampled]
          rfl
        · exact feeds other listed

theorem samplesOf_known {types : List TypeRef} {samples : List Value} (operation : String)
    (sampled : List.Forall₂ (fun type sample => sampleOf? type = some sample) types samples) :
    samplesOf operation types = .ok samples := by
  induction sampled with
  | nil => rfl
  | @cons type sample types samples first _ ih =>
    rw [samplesOf, first]
    exact congrArg (Except.map (sample :: ·)) ih

theorem samplesOf_unknown {fed rest : List TypeRef} {type : TypeRef} (operation : String)
    (feeds : ∀ other ∈ fed, (sampleOf? other).isSome = true) (unknown : sampleOf? type = none) :
    samplesOf operation (fed ++ type :: rest) = .error
      (if type.hashable then
        arityFailure operation ("unsupported locator argument type " ++ type.quotedName)
      else .typeBreach "unhashable type") := by
  induction fed with
  | nil =>
    rw [List.nil_append, samplesOf, unknown]
    dsimp only
    split <;> rfl
  | cons first fed ih =>
    obtain ⟨sample, sampled⟩ := Option.isSome_iff_exists.mp (feeds first List.mem_cons_self)
    have failed := ih fun other listed => feeds other (List.mem_cons_of_mem _ listed)
    rw [List.cons_append, samplesOf, sampled]
    exact congrArg (Except.map (sample :: ·)) failed

theorem samplesOf_eq_ok {operation : String} {types : List TypeRef} {samples : List Value}
    (h : samplesOf operation types = .ok samples) :
    List.Forall₂ (fun type sample => sampleOf? type = some sample) types samples := by
  rcases samples_cases types with ⟨known, sampled⟩ | ⟨fed, type, rest, rfl, feeds, unknown⟩
  · cases (samplesOf_known operation sampled).symm.trans h
    exact sampled
  · cases (samplesOf_unknown operation feeds unknown).symm.trans h

/-- Parameters that fit a locator are as many as its placeholders, and their samples format it. -/
theorem tried_of_checkArguments {descriptor : LocatorDescriptor} {types : List TypeRef}
    {operation : String} (accepted : checkArguments (some descriptor) types operation = .ok ()) :
    types.length = descriptor.placeholders ∧
      ∃ samples text, List.Forall₂ (fun type sample => sampleOf? type = some sample) types samples ∧
        descriptor.format samples = .ok text := by
  unfold checkArguments at accepted
  dsimp only at accepted
  split at accepted
  · cases accepted
  · next counted =>
    obtain ⟨samples, sampled, accepted⟩ := except_bind_eq_ok.mp accepted
    refine ⟨Decidable.not_not.mp counted, samples, ?_⟩
    cases tried : descriptor.format samples with
    | ok text => exact ⟨text, samplesOf_eq_ok sampled, rfl⟩
    | error failure =>
      rw [tried] at accepted
      dsimp only at accepted
      split at accepted <;> cases accepted

namespace LocatorDescriptor

/-- A locator whose parameters have been found to fit can be formatted with all texts and integers
that are given for them. -/
theorem formats_of_checkArguments {descriptor : LocatorDescriptor} {types : List TypeRef}
    {operation : String} (accepted : checkArguments (some descriptor) types operation = .ok ())
    {arguments : List Value} (given : List.Forall₂ Feeds types arguments) :
    ∃ text, descriptor.format arguments = .ok text := by
  obtain ⟨counted, samples, text, sampled, tried⟩ := tried_of_checkArguments accepted
  unfold format at tried ⊢
  split at tried
  · next plain => exact ⟨_, if_pos plain⟩
  · next placed =>
    rw [if_neg placed]
    have length : samples.length = Template.placeholderCount descriptor.template :=
      sampled.length_eq.symm.trans counted
    -- the samples are as many as the placeholders, so the template holds no conversion but marks
    obtain ⟨parts, spelled⟩ := Template.marked_of_filled tried length
    obtain ⟨filled, tried, -⟩ := except_bind_eq_ok.mp tried
    rw [Template.pieces, spelled] at tried
    obtain ⟨result, fills⟩ := Template.trusts_written parts 0 _ _ _ _ sampled given tried
    refine ⟨_, except_bind_eq_ok.mpr ⟨result, ?_, rfl⟩⟩
    rw [Template.pieces, spelled]
    exact fills

/-- The locator of a row takes the name of the group and the number of the row. -/
theorem row_formats :
    checkArguments (some { kind := .id, template := "row-%s[%d]-100%%" }) [.text, .integer] "rows" =
        .ok () ∧
      List.Forall₂ Feeds [.text, .integer] [.text "%c", .int (-3)] ∧
      ∃ text, format { kind := .id, template := "row-%s[%d]-100%%" } [.text "%c", .int (-3)] =
        .ok text := by
  have accepted : checkArguments (some { kind := .id, template := "row-%s[%d]-100%%" })
      [.text, .integer] "rows" = .ok () := by
    decide +kernel
  have given : List.Forall₂ Feeds [.text, .integer] [.text "%c", .int (-3)] :=
    .cons (.text _) (.cons (.integer _ (by decide +kernel)) .nil)
  exact ⟨accepted, given, formats_of_checkArguments accepted given⟩

end LocatorDescriptor
end PageContracts
