import PageContracts.Proofs.Addresses
import PageContracts.Proofs.Escaping
import PageContracts.Proofs.Formatting

/-! # Substitutions

What is put in the place of a mark of an address template holds none of the characters that mark off
the parts of a URL: a text is escaped, and an integer has digits and a sign only. It is not looked into
again either, so the URL has the parts that the template has, and every text can be read back from it. -/
namespace PageContracts

open Runs
open FormEncoding (Escaped mayStand isUnreserved decode? encode)

namespace Template

variable {parts : List Part} {arguments rest left : List Value} {argument value : Value}
  {text front : List Char} {c : Char}

/-- A text or an integer. -/
inductive Simple : Value → Prop
  | text (s : String) : Simple (.text s)
  | integer (i : Int) : Simple (.int i)

/-- What stands for an argument in a URL: for a text an escaped one, from which it can be read back, and
for an integer its digits, with a sign if it has one. -/
inductive Stands : Value → List Char → Prop
  | text {s : String} {shown : List Char} (escaped : Escaped shown)
      (back : decode? (String.ofList shown) = some s) : Stands (.text s) shown
  | integer (i : Int) : Stands (.int i) (toString i).toList

/-- The parts of a template one after the other, with what stands for the arguments in the places of
the marks. -/
inductive PutIn : List Part → List Value → List Char → Prop
  | nil : PutIn [] [] []
  | plain {c : Char} {apart : c ≠ '%'} {parts : List Part} {arguments : List Value}
      {text : List Char} (behind : PutIn parts arguments text) :
      PutIn (.plain c apart :: parts) arguments (c :: text)
  | percent {parts : List Part} {arguments : List Value} {text : List Char}
      (behind : PutIn parts arguments text) : PutIn (.percent :: parts) arguments ('%' :: text)
  | mark {part : Part} {argument : Value} {front : List Char} {parts : List Part}
      {arguments : List Value} {text : List Char} (mark : part.isMark = true)
      (stands : Stands argument front) (behind : PutIn parts arguments text) :
      PutIn (part :: parts) (argument :: arguments) (front ++ text)

section Standing

theorem isUnreserved_of_isDigit (h : c.isDigit = true) : isUnreserved c = true := by
  rw [Char.isDigit, Bool.and_eq_true, decide_eq_true_eq, decide_eq_true_eq] at h
  have between : '0' ≤ c ∧ c ≤ '9' := h
  have digit : Characters.isAsciiDigit c = true := by
    simp [Characters.isAsciiDigit, between]
  simp [isUnreserved, digit]

theorem isUnreserved_of_mem_toString {i : Int} (h : c ∈ (toString i).toList) :
    isUnreserved c = true := by
  have shown : (toString i).toList = integerText i 10 [] none := (integerText_bare i).symm
  rw [shown, integerText, List.append_nil, List.mem_append] at h
  rcases h with sign | digit
  · split at sign
    · rw [List.mem_singleton.mp sign]
      rfl
    · cases sign
  · exact isUnreserved_of_isDigit (Nat.isDigit_of_mem_toDigits (by decide) (by decide) digit)

/-- What marks off the parts of a URL does not stand for an argument. -/
theorem Stands.not_mem (h : Stands argument front) (never : mayStand c = false) : c ∉ front := by
  cases h with
  | text escaped back => exact escaped.not_mem never
  | integer i =>
    intro listed
    have unreserved := isUnreserved_of_mem_toString listed
    rw [mayStand, unreserved] at never
    cases never

theorem stands_encode (s : String) : Stands (.text s) (encode s).toList := by
  refine .text (FormEncoding.escaped_encode s) ?_
  rw [String.ofList_toList]
  exact FormEncoding.decode?_encode s

theorem placeholderValue?_text (s : String) :
    Url.placeholderValue? (.text s) = some (.text (encode s)) := by
  have nothing : encode "" = "" := by decide +kernel
  unfold Url.placeholderValue?
  dsimp only [Value.core]
  split
  · next empty => rw [empty, nothing]
  · rfl

theorem writable_of_flaw?_eq_none {i : Int} (h : Value.digitFlaw? i = none) :
    i.natAbs < Value.unwritable := by
  unfold Value.digitFlaw? at h
  split at h
  · assumption
  · nomatch h

theorem flaw?_eq_none_of_written {form : Value → String} {shown : String}
    (h : value.written form = .ok shown) : value.flaw? = none := by
  cases flaw : value.flaw? with
  | none => rfl
  | some mishap =>
    rw [Value.written, flaw] at h
    cases h

theorem spoken_int (i : Int) : (Value.int i).spoken = (Value.int i).written Value.display := by
  simp only [Value.spoken, Value.speaks, Bool.not_true, Bool.false_eq_true, if_false]

/-- A mark shows only integers that can be written. -/
theorem writable_of_converted {letter : Char} {index : Nat} {i : Int} {converted : Converted}
    (mark : letter = 's' ∨ letter = 'd')
    (h : convert {} none letter index (.int i) = .ok converted) : i.natAbs < Value.unwritable := by
  have written : ∃ form shown, (Value.int i).written form = .ok shown := by
    rcases mark with rfl | rfl
    · obtain ⟨shown, spoken, -⟩ := except_bind_eq_ok.mp h
      rw [spoken_int] at spoken
      exact ⟨_, shown, spoken⟩
    · obtain ⟨_, counted, h⟩ := except_bind_eq_ok.mp h
      cases counted
      obtain ⟨shown, written, -⟩ := except_bind_eq_ok.mp h
      exact ⟨_, shown, written⟩
  obtain ⟨form, shown, written⟩ := written
  have flawless := flaw?_eq_none_of_written written
  rw [Value.flaw?] at flawless
  exact writable_of_flaw?_eq_none flawless

/-- A mark shows what stands for its argument, or nothing at all. -/
theorem stands_of_applied {letter : Char} {index : Nat} (mark : letter = 's' ∨ letter = 'd')
    (simple : Simple argument) (placed : Url.placeholderValue? argument = some value)
    (applied : applyConversion { letter := some (letter, index) } (value :: rest) =
      .ok (front, left)) : left = rest ∧ Stands argument front := by
  cases simple with
  | text s =>
    rw [placeholderValue?_text] at placed
    cases placed
    rcases mark with rfl | rfl
    · have serves : Serves .text (.text (encode s)) := .text rfl
      rw [apply_text serves] at applied
      cases applied
      exact ⟨rfl, stands_encode s⟩
    · obtain ⟨failure, refused, -⟩ := apply_number_text (encode s) index rest
      rw [refused] at applied
      cases applied
  | integer i =>
    cases placed
    have writable : i.natAbs < Value.unwritable := by
      have applied := applied
      rw [apply_mark] at applied
      cases converts : convert {} none letter index (.int i) with
      | error failure =>
        rw [converts] at applied
        cases applied
      | ok converted => exact writable_of_converted mark converts
    have serves : Serves .integer (.int i) := .integer (spoken_of_writable writable) rfl writable
    rcases mark with rfl | rfl
    · rw [apply_text serves] at applied
      cases applied
      exact ⟨rfl, .integer i⟩
    · rw [apply_number serves rfl] at applied
      cases applied
      exact ⟨rfl, .integer i⟩

end Standing

section Putting

theorem exists_placeholderValue? (simple : Simple argument) :
    ∃ value, Url.placeholderValue? argument = some value := by
  cases simple with
  | text s => exact ⟨_, placeholderValue?_text s⟩
  | integer i => exact ⟨_, rfl⟩

/-- A template of marks that can be filled with texts and integers is filled with what stands for
them. -/
theorem putIn_of_filled (simple : ∀ argument ∈ arguments, Simple argument) (index : Nat)
    (filled : fillPieces (piecesFrom .text index (written parts))
      (arguments.filterMap Url.placeholderValue?) = .ok text) : PutIn parts arguments text := by
  induction parts generalizing index arguments text with
  | nil =>
    cases arguments with
    | nil =>
      cases filled
      exact .nil
    | cons argument rest =>
      obtain ⟨value, placed⟩ := exists_placeholderValue? (simple argument List.mem_cons_self)
      rw [List.filterMap_cons_some placed] at filled
      cases filled
  | cons part parts ih =>
    have spelled : written (part :: parts) = part.written ++ written parts := rfl
    rw [spelled, piecesFrom_part] at filled
    -- marks differ in their letter only, and what stands for an argument is the same for both
    have marked (mark : part.isMark = true) {letter : Char} (drawn : letter = 's' ∨ letter = 'd')
        (piece : part.piece index = .conversion { letter := some (letter, index + 1) }) :
        PutIn (part :: parts) arguments text := by
      rw [piece] at filled
      obtain ⟨⟨front, left⟩, applied, filled⟩ := except_bind_eq_ok.mp filled
      obtain ⟨more, behind, ended⟩ := except_bind_eq_ok.mp filled
      cases ended
      cases arguments with
      | nil => cases applied
      | cons argument rest =>
        obtain ⟨simple, others⟩ := List.forall_mem_cons.mp simple
        obtain ⟨value, placed⟩ := exists_placeholderValue? simple
        rw [List.filterMap_cons_some placed] at applied
        obtain ⟨rfl, stands⟩ := stands_of_applied drawn simple placed applied
        exact .mark mark stands (ih others _ behind)
    cases part with
    | plain c apart =>
      obtain ⟨more, behind, ended⟩ := except_bind_eq_ok.mp filled
      cases ended
      exact .plain (ih simple _ behind)
    | percent =>
      obtain ⟨more, behind, ended⟩ := except_bind_eq_ok.mp filled
      cases ended
      exact .percent (ih simple _ behind)
    | text => exact marked rfl (.inl rfl) rfl
    | number => exact marked rfl (.inr rfl) rfl

/-- What marks off the parts of a URL stands there as often as in the template. -/
theorem PutIn.count_eq (putIn : PutIn parts arguments text) (never : mayStand c = false) :
    text.count c = (written parts).count c := by
  have apart {d : Char} (stands : mayStand d = true) : d ≠ c := by
    rintro rfl
    rw [stands] at never
    cases never
  have spelled (part : Part) (parts : List Part) :
      (written (part :: parts)).count c = part.written.count c + (written parts).count c :=
    List.count_append
  induction putIn with
  | nil => rfl
  | @plain d _ parts _ text _ ih =>
    rw [spelled, Part.written, List.count_cons, ih, List.count_cons, List.count_nil]
    omega
  | percent _ ih =>
    have percent : '%' ≠ c := apart rfl
    rw [spelled, Part.written, List.count_cons_of_ne percent, ih]
    simp [percent]
  | @mark part argument front parts _ text mark stands _ ih =>
    have written : part.written.count c = 0 := by
      have percent : '%' ≠ c := apart rfl
      have letter : 's' ≠ c ∧ 'd' ≠ c := ⟨apart (by decide), apart (by decide)⟩
      cases part with
      | text => simp [Part.written, percent, letter]
      | number => simp [Part.written, percent, letter]
      | _ => cases mark
    rw [spelled, written, List.count_append, ih, List.count_eq_zero.mpr (stands.not_mem never)]

end Putting

/-- The characters that mark off the parts of a URL, and the space. -/
def structural : List Char :=
  ['/', '?', '&', '#', '=', ':', '@', ' ']

/-- A URL of the shape of its template. -/
structure KeepsShape (parts : List Part) (arguments : List Value) (url : List Char) : Prop where
  counts : ∀ c ∈ structural, url.count c = (written parts).count c
  /-- Without arguments the template is the URL, with its percent signs still doubled. -/
  bare : arguments = [] → url = written parts
  placed : arguments ≠ [] → PutIn parts arguments url

theorem fills_of_simple (simple : Simple argument) : Url.fills argument = true := by
  cases simple <;> rfl

theorem mayStand_of_mem_structural (h : c ∈ structural) : mayStand c = false := by
  simp only [structural, List.mem_cons, List.not_mem_nil, or_false] at h
  rcases h with rfl | rfl | rfl | rfl | rfl | rfl | rfl | rfl <;> rfl

end Template

namespace PageDriver

open Template

variable {β : Type} {parts : List Part} {arguments : List Value} {template url : String}

/-- Whatever the texts and integers among the arguments are, the URL has the shape of its template. -/
theorem keepsShape_of_makeUrl (spelled : template.toList = written parts)
    (simple : ∀ argument ∈ arguments, Simple argument) (world : World β)
    (made : given (makeUrl template arguments world) = .ok url) :
    KeepsShape parts arguments url.toList := by
  have filling : ∀ argument ∈ arguments, Url.fills argument = true :=
    fun argument listed => fills_of_simple (simple argument listed)
  rw [given_makeUrl (Url.shown_of_fills filling), Url.make_of_fills filling] at made
  by_cases none : arguments = []
  · rw [none] at made
    cases made
    rw [spelled, none]
    exact ⟨fun _ _ => rfl, fun _ => rfl, fun some => absurd rfl some⟩
  · rw [Url.filled_of_fills filling none] at made
    obtain ⟨text, filled, ended⟩ := except_bind_eq_ok.mp made
    cases ended
    rw [pieces, spelled] at filled
    have putIn := putIn_of_filled simple 0 filled
    rw [String.toList_ofList]
    refine ⟨fun c listed => ?_, fun empty => absurd empty none, fun _ => putIn⟩
    exact putIn.count_eq (mayStand_of_mem_structural listed)

end PageDriver

namespace Notes

/-- The slash, the question mark and the percent sign of an argument are no more than text. -/
theorem keepsShape_of_odd_text :
    let parts : List Template.Part := [.plain '/' (by decide), .text, .plain '?' (by decide),
      .percent, .plain '=' (by decide), .number]
    let arguments : List Value := [.text "a/b?é %s", .int (-7)]
    "/%s?%%=%d".toList = Template.written parts ∧
      given (PageDriver.makeUrl "/%s?%%=%d" arguments desk) = .ok "/a%2Fb%3F%C3%A9+%25s?%=-7" ∧
        Template.KeepsShape parts arguments "/a%2Fb%3F%C3%A9+%25s?%=-7".toList := by
  intro parts arguments
  have spelled : "/%s?%%=%d".toList = Template.written parts := by decide +kernel
  have simple : ∀ argument ∈ arguments, Template.Simple argument :=
    List.forall_mem_cons.mpr ⟨.text _, List.forall_mem_cons.mpr ⟨.integer _, nofun⟩⟩
  have made : given (PageDriver.makeUrl "/%s?%%=%d" arguments desk) =
      .ok "/a%2Fb%3F%C3%A9+%25s?%=-7" := by
    decide +kernel
  exact ⟨spelled, made, PageDriver.keepsShape_of_makeUrl spelled simple desk made⟩

end Notes
end PageContracts
