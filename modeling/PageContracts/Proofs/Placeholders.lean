import PageContracts.Locator
import PageContracts.Proofs.Runs

/-! # Placeholders

Counting the placeholders of a template knows three marks, `%s`, `%d` and `%%`; filling it knows all
conversions. Where a template can be filled at all, both pass over it in step: every conversion takes
an argument, and only those written as marks are counted. So a template that can be filled with as many
arguments as it has placeholders holds no conversion but marks. -/
namespace PageContracts.Template

open Runs

/-- The number of arguments that a width or a precision takes. -/
def Amount.demand : Amount → Nat
  | .fromArgument => 1
  | _ => 0

/-- The number of arguments that a conversion takes. -/
def Conversion.demand (conversion : Conversion) : Nat :=
  conversion.width.demand + conversion.precision.demand + 1

/-- The number of arguments that pieces take. -/
def demand : List Piece → Nat
  | [] => 0
  | .conversion conversion :: rest => conversion.demand + demand rest
  | _ :: rest => demand rest

/-- A piece that some arguments can fill: a conversion has a letter, which is no percent sign. -/
def Piece.Complete : Piece → Prop
  | .literal _ => True
  | .conversion read => ∃ letter index, read.letter = some (letter, index) ∧ letter ≠ '%'
  | .named => False

/-- All of some pieces can be filled. -/
def AllComplete (pieces : List Piece) : Prop :=
  ∀ piece ∈ pieces, piece.Complete

theorem allComplete_nil : AllComplete [] :=
  fun _ listed => (List.not_mem_nil listed).elim

theorem allComplete_cons {piece : Piece} {rest : List Piece} :
    AllComplete (piece :: rest) ↔ piece.Complete ∧ AllComplete rest :=
  List.forall_mem_cons

section Reading

variable {stage next : Stage} {read onward : Conversion} {index : Nat} {c : Char}

/-- A percent sign inside a conversion is its letter. -/
theorem readMore_percent (stage : Stage) (read : Conversion) (index : Nat) :
    readMore stage read index '%' = .done { read with letter := some ('%', index) } := by
  cases stage <;> rfl

theorem ne_percent_of_more (h : readMore stage read index c = .more next onward) : c ≠ '%' := by
  rintro rfl
  rw [readMore_percent] at h
  cases h

theorem ne_percent_of_done (h : readMore stage read index c = .done onward)
    (complete : (Piece.conversion onward).Complete) : c ≠ '%' := by
  rintro rfl
  rw [readMore_percent] at h
  cases h
  obtain ⟨letter, position, same, other⟩ := complete
  cases same
  exact other rfl

theorem letter_of_afterPrecision (h : afterPrecision read index c = .more next onward) :
    onward.letter = read.letter := by
  unfold afterPrecision readLetter at h
  split at h <;> cases h
  rfl

theorem letter_of_afterWidth (h : afterWidth read index c = .more next onward) :
    onward.letter = read.letter := by
  unfold afterWidth at h
  split at h
  · cases h
    rfl
  · exact letter_of_afterPrecision h

theorem eq_of_grown {amount : Amount} (h : grown stage amount read = .more next onward) :
    onward = read := by
  unfold grown at h
  split at h <;> cases h
  rfl

/-- A conversion that goes on has no more of a letter than before. -/
theorem letter_of_more (h : readMore stage read index c = .more next onward) :
    onward.letter = read.letter := by
  cases stage with
  | flags =>
    simp only [readMore] at h
    split at h
    · cases h
      rfl
    · split at h
      · cases h
        rfl
      · split at h
        · cases h
          rfl
        · exact letter_of_afterWidth h
  | width =>
    simp only [readMore] at h
    split at h
    · rw [eq_of_grown h]
    · exact letter_of_afterWidth h
  | widthDone => exact letter_of_afterWidth h
  | precisionStart =>
    simp only [readMore] at h
    split at h
    · cases h
      rfl
    · split at h
      · cases h
        rfl
      · exact letter_of_afterPrecision h
  | precision =>
    simp only [readMore] at h
    split at h
    · rw [eq_of_grown h]
    · exact letter_of_afterPrecision h
  | precisionDone => exact letter_of_afterPrecision h
  | letter => cases h

/-- A conversion that ends right behind its percent sign is the letter alone. -/
theorem eq_of_done (h : readMore .flags {} index c = .done onward) :
    onward = { letter := some (c, index) } := by
  simp only [readMore] at h
  split at h
  · cases h
  · split at h
    · cases h
    · split at h
      · cases h
      · unfold afterWidth afterPrecision readLetter at h
        split at h
        · cases h
        · split at h <;> cases h
          rfl

end Reading

section Counting

variable {c : Char} {rest : List Char}

theorem countMarks_of_ne (h : c ≠ '%') : countMarks (c :: rest) = countMarks rest := by
  rw [countMarks]
  rintro _ _ rfl
  exact (h rfl).elim

@[simp] theorem countMarks_percent : countMarks ('%' :: '%' :: rest) = countMarks rest := by
  simp [countMarks]

theorem countMarks_mark (h : c = 's' ∨ c = 'd') :
    countMarks ('%' :: c :: rest) = countMarks rest + 1 := by
  rcases h with rfl | rfl <;> simp [countMarks]

theorem countMarks_other (apart : c ≠ '%') (h : ¬ (c = 's' ∨ c = 'd')) :
    countMarks ('%' :: c :: rest) = countMarks rest := by
  rw [countMarks, if_neg apart, if_neg h, countMarks_of_ne apart]

@[simp] theorem countMarks_open : countMarks ['%'] = 0 := by
  simp [countMarks]

end Counting

/-- A part of a template in which the only conversions are marks. -/
inductive Part where
  | plain (c : Char) (apart : c ≠ '%')
  | percent
  | text
  | number

/-- A part as it stands in a template. -/
def Part.written : Part → List Char
  | .plain c _ => [c]
  | .percent => ['%', '%']
  | .text => ['%', 's']
  | .number => ['%', 'd']

/-- The number of arguments that a part takes. -/
def Part.takes : Part → Nat
  | .plain .. | .percent => 0
  | .text | .number => 1

/-- Parts as they stand in a template. -/
def written (parts : List Part) : List Char :=
  parts.flatMap Part.written

theorem countMarks_part (part : Part) (rest : List Char) :
    countMarks (part.written ++ rest) = countMarks rest + part.takes := by
  cases part with
  | plain c apart => exact countMarks_of_ne apart
  | percent => exact countMarks_percent
  | text => exact countMarks_mark (.inl rfl)
  | number => exact countMarks_mark (.inr rfl)

/-- What is read of a part that begins at a position. -/
def Part.piece (index : Nat) : Part → Piece
  | .plain c _ => .literal c
  | .percent => .literal '%'
  | .text => .conversion { letter := some ('s', index + 1) }
  | .number => .conversion { letter := some ('d', index + 1) }

theorem piecesFrom_part (part : Part) (index : Nat) (rest : List Char) :
    piecesFrom .text index (part.written ++ rest) =
      part.piece index :: piecesFrom .text (index + part.written.length) rest := by
  cases part with
  | plain c apart => exact if_neg apart
  | percent => rfl
  | text => rfl
  | number => rfl

/-- So many arguments are at least as many as placeholders are counted, and if they are as many, the
template is one of marks. -/
structure Covers (needed : Nat) (template : List Char) : Prop where
  enough : countMarks template ≤ needed
  marked : countMarks template = needed → ∃ parts, template = written parts

/-- So many arguments cover what is counted from a place on. Within a conversion they are more, since
one of them is for the conversion, which is not counted. -/
def Place.Covers (needed : Nat) (rest : List Char) : Place → Prop
  | .text => Template.Covers needed rest
  | .opened => Template.Covers needed ('%' :: rest)
  | .inside _ _ => countMarks rest < needed

theorem Covers.part {needed : Nat} {rest : List Char} (part : Part) (h : Covers needed rest) :
    Covers (part.takes + needed) (part.written ++ rest) where
  enough := by
    rw [countMarks_part]
    have enough := h.enough
    omega
  marked same := by
    rw [countMarks_part] at same
    obtain ⟨parts, rfl⟩ := h.marked (by omega)
    exact ⟨part :: parts, rfl⟩

/-- A template that can be filled takes as many arguments as it has placeholders, or more. -/
theorem covers_of_complete (place : Place) (index : Nat) (rest : List Char)
    (complete : AllComplete (piecesFrom place index rest)) :
    place.Covers (demand (piecesFrom place index rest)) rest := by
  induction place, index, rest using piecesFrom.induct with
  | case1 index => exact ⟨Nat.le_refl _, fun _ => ⟨[], rfl⟩⟩
  | case2 index rest ih =>
    rw [piecesFrom, if_pos rfl] at complete ⊢
    exact ih complete
  | case3 index c rest apart ih =>
    rw [piecesFrom, if_neg apart] at complete ⊢
    have covers := (ih (allComplete_cons.mp complete).2).part (.plain c apart)
    rwa [Part.takes, Nat.zero_add] at covers
  | case4 index =>
    obtain ⟨_, _, letter, -⟩ := (allComplete_cons.mp complete).1
    cases letter
  | case5 index rest ih =>
    rw [piecesFrom, if_pos rfl] at complete ⊢
    have covers := (ih (allComplete_cons.mp complete).2).part .percent
    rwa [Part.takes, Nat.zero_add] at covers
  | case6 index rest apart => exact (allComplete_cons.mp complete).1.elim
  | case7 index c rest apart bracket next onward more ih =>
    simp only [piecesFrom, if_neg apart, if_neg bracket, more] at complete ⊢
    have behind := ih complete
    -- what does not end a conversion is no letter, so no mark is counted here
    have unmarked : ¬ (c = 's' ∨ c = 'd') := by
      rintro (rfl | rfl) <;> cases more
    constructor
    · rw [countMarks_other apart unmarked]
      exact Nat.le_of_lt behind
    · rw [countMarks_other apart unmarked]
      intro same
      exact (Nat.ne_of_lt behind same).elim
  | case8 index c rest apart bracket onward done ih =>
    cases eq_of_done done
    simp only [piecesFrom, if_neg apart, if_neg bracket, done] at complete ⊢
    have covers := ih (allComplete_cons.mp complete).2
    by_cases mark : c = 's' ∨ c = 'd'
    · have part : ∃ part : Part, part.written = ['%', c] ∧ part.takes = 1 := by
        rcases mark with rfl | rfl
        · exact ⟨.text, rfl, rfl⟩
        · exact ⟨.number, rfl, rfl⟩
      obtain ⟨part, spelled, takes⟩ := part
      have covers := Covers.part part covers
      rwa [spelled, takes] at covers
    · -- another letter takes an argument without being counted: the demand gets ahead for good
      have enough : countMarks rest ≤ demand (piecesFrom .text (index + 1) rest) := covers.enough
      have needed : demand (.conversion { letter := some (c, index) } ::
          piecesFrom .text (index + 1) rest) = 1 + demand (piecesFrom .text (index + 1) rest) := rfl
      rw [needed]
      constructor
      · rw [countMarks_other apart mark]
        omega
      · rw [countMarks_other apart mark]
        omega
  | case9 stage read index => exact Nat.succ_pos _
  | case10 stage read index c rest next onward more ih =>
    simp only [piecesFrom, more] at complete ⊢
    rw [Place.Covers, countMarks_of_ne (ne_percent_of_more more)]
    exact ih complete
  | case11 stage read index c rest onward done ih =>
    simp only [piecesFrom, done] at complete ⊢
    obtain ⟨ended, others⟩ := allComplete_cons.mp complete
    have enough : countMarks rest ≤ demand (piecesFrom .text (index + 1) rest) := (ih others).enough
    rw [Place.Covers, countMarks_of_ne (ne_percent_of_done done ended)]
    have needed : demand (.conversion onward :: piecesFrom .text (index + 1) rest) =
        onward.width.demand + onward.precision.demand + 1 +
          demand (piecesFrom .text (index + 1) rest) := rfl
    omega

section Filling

variable {conversion : Conversion} {arguments rest : List Value} {front text : List Char}

theorem length_of_takeAmount {limit : Nat} {excess : String} {amount : Amount} {given : Option Int}
    (h : takeAmount limit excess amount arguments = .ok (given, rest)) :
    arguments.length = amount.demand + rest.length := by
  cases amount with
  | unset =>
    cases h
    exact (Nat.zero_add _).symm
  | given n =>
    cases h
    exact (Nat.zero_add _).symm
  | excessive => cases h
  | fromArgument =>
    cases arguments with
    | nil => cases h
    | cons value more =>
      rw [takeAmount] at h
      split at h
      · cases h
      · split at h <;> cases h
        exact Nat.add_comm _ _

/-- A conversion that has been carried out has a letter that means something, and has taken its
arguments. -/
theorem complete_of_applied (h : applyConversion conversion arguments = .ok (front, rest)) :
    (Piece.conversion conversion).Complete ∧ arguments.length = conversion.demand + rest.length := by
  obtain ⟨⟨width, later⟩, first, h⟩ := except_bind_eq_ok.mp h
  obtain ⟨⟨precision, last⟩, second, h⟩ := except_bind_eq_ok.mp h
  have widthTaken := length_of_takeAmount first
  have precisionTaken := length_of_takeAmount second
  cases ended : conversion.letter with
  | none =>
    rw [ended] at h
    cases h
  | some place =>
    obtain ⟨letter, index⟩ := place
    rw [ended] at h
    cases last with
    | nil => cases h
    | cons value more =>
      obtain ⟨converted, conversed, h⟩ := except_bind_eq_ok.mp h
      obtain ⟨_, _, h⟩ := except_bind_eq_ok.mp h
      cases h
      refine ⟨⟨letter, index, ended, ?_⟩, ?_⟩
      · rintro rfl
        cases conversed
      · rw [widthTaken, precisionTaken, Conversion.demand, List.length_cons]
        omega

/-- Pieces that arguments have filled can be filled, and take just as many. -/
theorem complete_of_filled {pieces : List Piece} (h : fillPieces pieces arguments = .ok text) :
    AllComplete pieces ∧ demand pieces = arguments.length := by
  induction pieces generalizing arguments text with
  | nil =>
    cases arguments with
    | nil => exact ⟨allComplete_nil, rfl⟩
    | cons value rest => cases h
  | cons piece pieces ih =>
    cases piece with
    | literal c =>
      obtain ⟨more, filled, -⟩ := except_bind_eq_ok.mp h
      obtain ⟨complete, needed⟩ := ih filled
      exact ⟨allComplete_cons.mpr ⟨trivial, complete⟩, needed⟩
    | conversion read =>
      obtain ⟨⟨front, rest⟩, applied, h⟩ := except_bind_eq_ok.mp h
      obtain ⟨more, filled, -⟩ := except_bind_eq_ok.mp h
      obtain ⟨complete, needed⟩ := ih filled
      obtain ⟨ended, taken⟩ := complete_of_applied applied
      refine ⟨allComplete_cons.mpr ⟨ended, complete⟩, ?_⟩
      rw [demand, needed, taken]
    | named => cases h

/-- A template that has been filled with as many arguments as it has placeholders is one of marks. -/
theorem marked_of_filled {template : String} {result : String}
    (h : fill template arguments = .ok result) (counted : arguments.length = placeholderCount template) :
    ∃ parts, template.toList = written parts := by
  obtain ⟨text, filled, -⟩ := except_bind_eq_ok.mp h
  obtain ⟨complete, needed⟩ := complete_of_filled filled
  have covers : Covers (demand (pieces template)) template.toList :=
    covers_of_complete .text 0 template.toList complete
  exact covers.marked (by rw [needed, counted, placeholderCount])

end Filling

end PageContracts.Template
