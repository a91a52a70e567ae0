import PageContracts.Proofs.Arguments

/-! # Formatting

A template whose only conversions are marks is checked and filled exactly: the parameters that are
accepted are those that suit the marks one by one, and what the marks make of their arguments stands in
their places. The counting of marks, the trial with samples and the filling all follow the parts of the
template, so each of them is settled by one induction over the parts. -/
namespace PageContracts

open Runs

theorem Value.eq_of_written {form : Value → String} {value : Value} {text : String}
    (written : value.written form = .ok text) : text = form value := by
  unfold Value.written at written
  split at written <;> cases written
  rfl

theorem Value.eq_display_of_spoken {value : Value} {text : String} (spoken : value.spoken = .ok text) :
    text = value.display := by
  unfold Value.spoken at spoken
  split at spoken
  · cases spoken
  · cases value with
    | record ofClass attributes traits core =>
      obtain ⟨unshown, look, said, byFields, compares, speaks, hashable, conversions⟩ := traits
      cases said with
      | some said =>
        cases spoken
        rfl
      | none =>
        cases core with
        | none => exact Value.eq_of_written spoken
        | some inner =>
          cases inner with
          | text s =>
            cases spoken
            rfl
          | bytes b =>
            cases look with
            | none =>
              cases spoken
              rfl
            | some look => exact Value.eq_of_written spoken
          | _ => exact Value.eq_of_written spoken
    | _ => exact Value.eq_of_written spoken

namespace Template

/-- Whether a part is a placeholder. -/
def Part.isMark : Part → Bool
  | .text | .number => true
  | .plain .. | .percent => false

/-- The placeholders among some parts, in order. -/
def marks (parts : List Part) : List Part :=
  parts.filter Part.isMark

/-- What a placeholder shows of an argument: a number mark shows the number that it is, a text mark its
text. -/
def Part.shown : Part → Value → List Char
  | .number, value => ((value.toInt?.map Value.int).getD value).display.toList
  | _, value => value.display.toList

/-- The parts one after the other, with the arguments in the places of the placeholders. -/
def fillIn : List Part → List Value → List Char
  | .plain c _ :: parts, arguments => c :: fillIn parts arguments
  | .percent :: parts, arguments => '%' :: fillIn parts arguments
  | mark :: parts, argument :: arguments => mark.shown argument ++ fillIn parts arguments
  | _, _ => []

/-- Types for the placeholders among some parts: as many, texts and integers only, and an integer for
each number mark. -/
structure Suits (parts : List Part) (types : List TypeRef) : Prop where
  counted : types.length = (marks parts).length
  known : ∀ type ∈ types, type = .text ∨ type = .integer
  numbers : ∀ i : Nat, (marks parts)[i]? = some Part.number → types[i]? = some TypeRef.integer

/-- An argument for a parameter of a type: what has a text for a text, and a number with no more digits
than can be written for an integer, be it an integer, a truth value or something that descends from
integers. -/
inductive Serves : TypeRef → Value → Prop
  | text {value : Value} {text : String} (spoken : value.spoken = .ok text) : Serves .text value
  | integer {value : Value} {text : String} {i : Int} (spoken : value.spoken = .ok text)
      (counts : value.toInt? = some i) (writable : i.natAbs < Value.unwritable) :
      Serves .integer value

section Suiting

variable {parts : List Part} {type : TypeRef} {types : List TypeRef}

theorem suits_bare (bare : marks parts = []) : Suits parts types ↔ types = [] := by
  constructor
  · intro suits
    have counted := suits.counted
    rw [bare] at counted
    exact List.eq_nil_of_length_eq_zero counted
  · rintro rfl
    refine ⟨by rw [bare]; rfl, fun _ listed => (List.not_mem_nil listed).elim, ?_⟩
    intro i placed
    rw [bare] at placed
    cases placed

theorem suits_literal {part : Part} (literal : part.isMark = false) :
    Suits (part :: parts) types ↔ Suits parts types := by
  have same : marks (part :: parts) = marks parts :=
    List.filter_cons_of_neg (Bool.not_eq_true _ ▸ literal)
  constructor
  · intro suits
    exact ⟨same ▸ suits.counted, suits.known, same ▸ suits.numbers⟩
  · intro suits
    exact ⟨same ▸ suits.counted, suits.known, same ▸ suits.numbers⟩

theorem suits_text :
    Suits (.text :: parts) (type :: types) ↔ (type = .text ∨ type = .integer) ∧ Suits parts types := by
  constructor
  · intro suits
    refine ⟨suits.known type List.mem_cons_self, Nat.succ.inj suits.counted, ?_, ?_⟩
    · intro other listed
      exact suits.known other (List.mem_cons_of_mem _ listed)
    · intro i placed
      exact suits.numbers (i + 1) placed
  · rintro ⟨known, suits⟩
    refine ⟨congrArg Nat.succ suits.counted, List.forall_mem_cons.mpr ⟨known, suits.known⟩, ?_⟩
    intro i placed
    cases i with
    | zero => cases placed
    | succ i => exact suits.numbers i placed

theorem suits_number :
    Suits (.number :: parts) (type :: types) ↔ type = .integer ∧ Suits parts types := by
  constructor
  · intro suits
    refine ⟨Option.some.inj (suits.numbers 0 rfl), Nat.succ.inj suits.counted, ?_, ?_⟩
    · intro other listed
      exact suits.known other (List.mem_cons_of_mem _ listed)
    · intro i placed
      exact suits.numbers (i + 1) placed
  · rintro ⟨rfl, suits⟩
    refine ⟨congrArg Nat.succ suits.counted, ?_, ?_⟩
    · exact List.forall_mem_cons.mpr ⟨.inr rfl, suits.known⟩
    · intro i placed
      cases i with
      | zero => rfl
      | succ i => exact suits.numbers i placed

theorem countMarks_written (parts : List Part) :
    countMarks (written parts) = (marks parts).length := by
  induction parts with
  | nil => rfl
  | cons part parts ih =>
    have spelled : written (part :: parts) = part.written ++ written parts := rfl
    rw [spelled, countMarks_part, ih]
    cases part <;> rfl

end Suiting

section Showing

variable {type : TypeRef} {value : Value}

theorem Serves.spoken (serves : Serves type value) : value.spoken = .ok value.display := by
  cases serves with
  | text spoken => rw [← Value.eq_display_of_spoken spoken, spoken]
  | integer spoken => rw [← Value.eq_display_of_spoken spoken, spoken]

/-- Without flags and width an argument is laid out as it is. -/
theorem layOut_bare (letter : Char) (converted : Converted) :
    layOut {} 0 letter converted = converted.body := by
  obtain ⟨numeric, body⟩ := converted
  unfold layOut splitPrefix
  cases numeric with
  | false => simp
  | true =>
    cases body with
    | nil => simp
    | cons c rest =>
      by_cases sign : c = '-'
      · subst sign
        simp
      · simp [sign]

theorem integerText_bare (i : Int) : integerText i 10 [] none = (Value.int i).display.toList := by
  have shown : (Value.int i).display = toString i := rfl
  rw [shown]
  cases i with
  | ofNat n =>
    have digits : (toString (Int.ofNat n)).toList = Nat.toDigits 10 n := String.toList_ofList
    have positive : ¬ Int.ofNat n < 0 := Int.not_lt.mpr (Int.natCast_nonneg n)
    rw [digits, integerText, if_neg positive]
    rfl
  | negSucc n =>
    have digits : (toString (Int.negSucc n)).toList = '-' :: Nat.toDigits 10 (n + 1) := by
      change ("-" ++ String.ofList (Nat.toDigits 10 (n + 1))).toList = _
      rw [String.toList_append]
      exact congrArg (List.cons '-') String.toList_ofList
    rw [digits, integerText, if_pos (Int.negSucc_lt_zero n)]
    rfl

theorem apply_text (serves : Serves type value) (index : Nat) (arguments : List Value) :
    applyConversion { letter := some ('s', index) } (value :: arguments) =
      .ok (Part.text.shown value, arguments) := by
  rw [apply_mark, convert_text serves.spoken]
  exact congrArg (fun front => Except.ok (front, arguments)) (layOut_bare _ _)

theorem apply_number (serves : Serves type value) (number : type = .integer) (index : Nat)
    (arguments : List Value) :
    applyConversion { letter := some ('d', index) } (value :: arguments) =
      .ok (Part.number.shown value, arguments) := by
  cases serves with
  | text spoken => exact absurd number (by decide)
  | integer spoken counts writable =>
    rw [apply_mark, convert_number counts writable, Part.shown, counts]
    exact congrArg (fun front => Except.ok (front, arguments))
      ((layOut_bare _ _).trans (integerText_bare _))

/-- A number mark refuses a text. -/
theorem apply_number_text (text : String) (index : Nat) (arguments : List Value) :
    ∃ failure, applyConversion { letter := some ('d', index) } (.text text :: arguments) =
      .error failure ∧ failure.kind = .wrongType := by
  rw [apply_mark]
  exact ⟨_, rfl, rfl⟩

end Showing

section Filling

variable {parts : List Part} {types : List TypeRef} {arguments samples : List Value}

/-- Only texts and integers have a sample. -/
theorem sampleOf?_eq_some {type : TypeRef} {sample : Value} (sampled : sampleOf? type = some sample) :
    type = .text ∨ type = .integer := by
  unfold sampleOf? at sampled
  split at sampled
  · next text => exact .inl text
  · split at sampled
    · next integer => exact .inr integer
    · cases sampled

theorem serves_sample {type : TypeRef} {sample : Value} (sampled : sampleOf? type = some sample) :
    Serves type sample := by
  rcases sampleOf?_eq_some sampled with rfl | rfl
  · cases sampled
    exact .text rfl
  · cases sampled
    have writable : (0 : Int).natAbs < Value.unwritable := by decide +kernel
    exact .integer (spoken_of_writable writable) rfl writable

/-- Arguments for suitable types stand in the places of the marks. -/
theorem fillPieces_written (suits : Suits parts types) (given : List.Forall₂ Serves types arguments)
    (index : Nat) :
    fillPieces (piecesFrom .text index (written parts)) arguments = .ok (fillIn parts arguments) := by
  induction parts generalizing index types arguments with
  | nil =>
    cases (suits_bare rfl).mp suits
    cases given
    rfl
  | cons part parts ih =>
    have spelled : written (part :: parts) = part.written ++ written parts := rfl
    rw [spelled, piecesFrom_part]
    cases part with
    | plain c apart =>
      exact except_bind_eq_ok.mpr ⟨_, ih ((suits_literal rfl).mp suits) given _, rfl⟩
    | percent =>
      exact except_bind_eq_ok.mpr ⟨_, ih ((suits_literal rfl).mp suits) given _, rfl⟩
    | text =>
      cases given with
      | nil => cases suits.counted
      | cons serves given =>
        have behind := ih (suits_text.mp suits).2 given (index + 2)
        exact except_bind_eq_ok.mpr ⟨_, apply_text serves _ _, except_bind_eq_ok.mpr ⟨_, behind, rfl⟩⟩
    | number =>
      cases given with
      | nil => cases suits.counted
      | cons serves given =>
        obtain ⟨number, suits⟩ := suits_number.mp suits
        have behind := ih suits given (index + 2)
        exact except_bind_eq_ok.mpr
          ⟨_, apply_number serves number _ _, except_bind_eq_ok.mpr ⟨_, behind, rfl⟩⟩

/-- Samples for types that do not suit the marks are refused at the first number mark that is given a
text. -/
theorem fillPieces_refused (counted : types.length = (marks parts).length)
    (unsuited : ¬ Suits parts types)
    (sampled : List.Forall₂ (fun type sample => sampleOf? type = some sample) types samples)
    (index : Nat) :
    ∃ failure, fillPieces (piecesFrom .text index (written parts)) samples = .error failure ∧
      failure.kind = .wrongType := by
  induction parts generalizing index types samples with
  | nil => exact (unsuited ((suits_bare rfl).mpr (List.eq_nil_of_length_eq_zero counted))).elim
  | cons part parts ih =>
    have spelled : written (part :: parts) = part.written ++ written parts := rfl
    rw [spelled, piecesFrom_part]
    cases part with
    | plain c apart =>
      have unsuited := unsuited ∘ (suits_literal rfl).mpr
      obtain ⟨failure, failed, kind⟩ := ih counted unsuited sampled (index + 1)
      exact ⟨failure, except_bind_of_error failed _, kind⟩
    | percent =>
      have unsuited := unsuited ∘ (suits_literal rfl).mpr
      obtain ⟨failure, failed, kind⟩ := ih counted unsuited sampled (index + 2)
      exact ⟨failure, except_bind_of_error failed _, kind⟩
    | text =>
      cases sampled with
      | nil => cases counted
      | @cons type sample types samples first others =>
        have known := sampleOf?_eq_some first
        have unsuited : ¬ Suits parts types := fun suits =>
          unsuited (suits_text.mpr ⟨known, suits⟩)
        obtain ⟨failure, failed, kind⟩ := ih (Nat.succ.inj counted) unsuited others (index + 2)
        have shown := apply_text (serves_sample first) (index + 1) samples
        refine ⟨failure, ?_, kind⟩
        rw [Part.piece, fillPieces, shown]
        exact except_bind_of_error failed _
    | number =>
      cases sampled with
      | nil => cases counted
      | @cons type sample types samples first others =>
        rcases sampleOf?_eq_some first with rfl | rfl
        · cases first
          obtain ⟨failure, failed, kind⟩ := apply_number_text " " (index + 1) samples
          exact ⟨failure, except_bind_of_error failed _, kind⟩
        · have unsuited : ¬ Suits parts types := fun suits =>
            unsuited (suits_number.mpr ⟨rfl, suits⟩)
          obtain ⟨failure, failed, kind⟩ := ih (Nat.succ.inj counted) unsuited others (index + 2)
          have shown := apply_number (serves_sample first) rfl (index + 1) samples
          refine ⟨failure, ?_, kind⟩
          rw [Part.piece, fillPieces, shown]
          exact except_bind_of_error failed _

end Filling

end Template

open Template (Part Suits Serves written marks fillIn)

/-- How an operation is refused whose parameters do not fit its locator: by a failure that names the
operation, unless something stands among the parameter types that cannot even be looked up. -/
inductive Refusal (operation : String) (types : List TypeRef) : Failure → Prop
  | arity (message : String) : Refusal operation types (arityFailure operation message)
  | unhashable {type : TypeRef} (listed : type ∈ types) (unhashable : type.hashable = false) :
      Refusal operation types (.typeBreach "unhashable type")

section Checking

variable {operation : String} {types : List TypeRef}

theorem sampleOf?_of_known {type : TypeRef} (known : type = .text ∨ type = .integer) :
    ∃ sample, sampleOf? type = some sample := by
  rcases known with rfl | rfl
  · exact ⟨.text " ", rfl⟩
  · exact ⟨.int 0, rfl⟩

/-- Samples are found for all types, or a type without a sample is refused. -/
theorem samplesOf_cases (operation : String) (types : List TypeRef) :
    (∃ samples, samplesOf operation types = .ok samples) ∨
      (∃ type ∈ types, sampleOf? type = none) ∧
        ∃ failure, samplesOf operation types = .error failure ∧ Refusal operation types failure := by
  rcases samples_cases types with ⟨samples, sampled⟩ | ⟨fed, type, rest, rfl, feeds, unknown⟩
  · exact .inl ⟨samples, samplesOf_known operation sampled⟩
  · have listed : type ∈ fed ++ type :: rest := List.mem_append_cons_self
    refine .inr ⟨⟨type, listed, unknown⟩, _, samplesOf_unknown operation feeds unknown, ?_⟩
    cases hashes : type.hashable with
    | true => exact .arity _
    | false => exact .unhashable listed hashes

end Checking

namespace LocatorDescriptor

variable {descriptor : LocatorDescriptor} {parts : List Part} {types : List TypeRef}

theorem placeholders_written (spelled : descriptor.template.toList = written parts) :
    descriptor.placeholders = (marks parts).length := by
  rw [placeholders, Template.placeholderCount, spelled, Template.countMarks_written]

/-- Arguments for suitable types are filled in; a template without marks is not looked into. -/
theorem format_written (spelled : descriptor.template.toList = written parts)
    (suits : Suits parts types) {arguments : List Value}
    (given : List.Forall₂ Serves types arguments) :
    descriptor.format arguments = .ok
      (if marks parts = [] then descriptor.template else String.ofList (fillIn parts arguments)) := by
  by_cases bare : marks parts = []
  · have none : descriptor.placeholders = 0 := by
      rw [placeholders_written spelled, bare]
      rfl
    rw [format, if_pos none, if_pos bare]
  · have placed : ¬ descriptor.placeholders = 0 := by
      rw [placeholders_written spelled]
      exact fun empty => bare (List.eq_nil_of_length_eq_zero empty)
    rw [format, if_neg placed, if_neg bare, Template.fill, Template.pieces, spelled,
      Template.fillPieces_written suits given 0]
    rfl

/-- Parameters that suit the marks are accepted and all others are refused. -/
theorem checkArguments_written (spelled : descriptor.template.toList = written parts)
    (types : List TypeRef) (operation : String) :
    Suits parts types ∧ checkArguments (some descriptor) types operation = .ok () ∨
      ¬ Suits parts types ∧ ∃ failure,
        checkArguments (some descriptor) types operation = .error failure ∧
          Refusal operation types failure := by
  have marked := placeholders_written spelled
  by_cases counted : types.length = descriptor.placeholders
  · have agreed : ¬ types.length ≠ descriptor.placeholders := not_not.mpr counted
    unfold checkArguments
    dsimp only
    rw [if_neg agreed]
    rcases samplesOf_cases operation types with ⟨samples, found⟩ | ⟨unknown, failure, failed, refusal⟩
    · have sampled := samplesOf_eq_ok found
      rw [found]
      by_cases suits : Suits parts types
      · have given := sampled.imp fun _ _ => Template.serves_sample
        refine .inl ⟨suits, ?_⟩
        simp only [bind, Except.bind, format_written spelled suits given]
      · have placed : ¬ descriptor.placeholders = 0 := by
          intro none
          have bare := List.eq_nil_of_length_eq_zero (marked.symm.trans none)
          have empty := List.eq_nil_of_length_eq_zero (counted.trans none)
          exact suits ((Template.suits_bare bare).mpr empty)
        obtain ⟨failure, refused, kind⟩ :=
          Template.fillPieces_refused (counted.trans marked) suits sampled 0
        have failed : descriptor.format samples = .error failure := by
          rw [format, if_neg placed, Template.fill, Template.pieces, spelled, refused]
          rfl
        refine .inr ⟨suits, ?_⟩
        simp only [bind, Except.bind, failed, kind, true_or, if_true]
        exact ⟨_, rfl, .arity _⟩
    · obtain ⟨type, listed, unknown⟩ := unknown
      refine .inr ⟨?_, failure, except_bind_of_error failed _, refusal⟩
      intro suits
      obtain ⟨sample, sampled⟩ := sampleOf?_of_known (suits.known type listed)
      rw [unknown] at sampled
      cases sampled
  · refine .inr ⟨?_, _, if_pos counted, .arity _⟩
    intro suits
    exact counted (suits.counted.trans marked.symm)

/-- A locator is read as some parts: its placeholders are the marks among them, the parameters it takes
are those that suit them, and the text it gives is theirs, or its template as it stands if nothing is to
be filled in. -/
structure ReadAs (descriptor : LocatorDescriptor) (parts : List Part) : Prop where
  counts : descriptor.placeholders = (marks parts).length
  accepts : ∀ types operation,
    checkArguments (some descriptor) types operation = .ok () ↔ Suits parts types
  refuses : ∀ types operation, ¬ Suits parts types →
    ∃ failure, checkArguments (some descriptor) types operation = .error failure ∧
      Refusal operation types failure
  formats : ∀ types arguments, Suits parts types → List.Forall₂ Serves types arguments →
    descriptor.format arguments = .ok
      (if marks parts = [] then descriptor.template else String.ofList (fillIn parts arguments))

end LocatorDescriptor

end PageContracts
