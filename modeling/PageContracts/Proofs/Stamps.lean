import Mathlib.Data.List.Basic
import PageContracts.Driver.Screenshots
import PageContracts.Proofs.Paths

/-! # Stamps

The name of a picture ends with the time it is taken at. The fields of the time are what is between the
dots, and each of them is read off its digits, so that one name stands for one millisecond. Slashes in
the rest of the name do not get in the way: the end of the name stays the end of the path. -/
namespace PageContracts

theorem Characters.mem_intercalate {separator c : Char} {pieces : List (List Char)}
    (among : c ∈ [separator].intercalate pieces) : c = separator ∨ ∃ piece ∈ pieces, c ∈ piece := by
  induction pieces with
  | nil => cases among
  | cons piece rest ih =>
    cases rest with
    | nil =>
      rw [List.intercalate_singleton] at among
      exact .inr ⟨piece, List.mem_cons_self, among⟩
    | cons next more =>
      rw [List.intercalate_cons_cons, List.append_assoc, List.mem_append, List.mem_append,
        List.mem_singleton] at among
      rcases among with first | mark | later
      · exact .inr ⟨piece, List.mem_cons_self, first⟩
      · exact .inl mark
      · obtain mark | ⟨other, listed, there⟩ := ih later
        · exact .inl mark
        · exact .inr ⟨other, List.mem_cons_of_mem _ listed, there⟩

namespace Clock

variable {a b : Clock}

/-- Two readings of the clock tell the same millisecond. -/
structure Agrees (a b : Clock) : Prop where
  year : a.year = b.year
  month : a.month = b.month
  day : a.day = b.day
  hour : a.hour = b.hour
  minute : a.minute = b.minute
  second : a.second = b.second
  millisecond : a.microsecond / 1000 = b.microsecond / 1000

theorem agrees_iff_fields : a.Agrees b ↔ a.fields = b.fields := by
  constructor
  · rintro ⟨year, month, day, hour, minute, second, millisecond⟩
    rw [fields, fields, Clock.millisecond, Clock.millisecond, year, month, day, hour, minute, second,
      millisecond]
  · intro same
    simp only [fields, Clock.millisecond, List.cons.injEq] at same
    obtain ⟨year, month, day, hour, minute, second, millisecond, -⟩ := same
    exact ⟨year, month, day, hour, minute, second, millisecond⟩

/-- The digits of the fields of a reading. -/
def digits (clock : Clock) : List (List Char) :=
  clock.fields.map (Nat.toDigits 10)

theorem toList_stamp (clock : Clock) : clock.stamp.toList = ['.'].intercalate clock.digits := by
  have shown (n : Nat) : (toString n).toList = Nat.toDigits 10 n := by
    rw [Nat.toString_eq_repr, Nat.toList_repr]
  rw [stamp, String.toList_intercalate, List.map_map, digits]
  exact congrArg (['.'].intercalate ·) (List.map_congr_left fun n _ => shown n)

theorem isDigit_of_digits {clock : Clock} {c : Char} {field : List Char}
    (listed : field ∈ clock.digits) (among : c ∈ field) : c.isDigit = true := by
  obtain ⟨n, -, rfl⟩ := List.mem_map.mp listed
  exact Nat.isDigit_of_mem_toDigits (by decide) (by decide) among

theorem splitOn_stamp (clock : Clock) : clock.stamp.toList.splitOn '.' = clock.digits := by
  rw [toList_stamp]
  refine List.splitOn_intercalate '.' (fun field listed dot => ?_) (List.cons_ne_nil _ _)
  have digit := isDigit_of_digits listed dot
  exact absurd digit (by decide)

theorem unslashed_stamp (clock : Clock) : '/' ∉ clock.stamp.toList := by
  rw [toList_stamp]
  intro slash
  obtain mark | ⟨field, listed, among⟩ := Characters.mem_intercalate slash
  · exact absurd mark (by decide)
  · exact absurd (isDigit_of_digits listed among) (by decide)

/-- A stamp tells all fields of the reading. -/
theorem stamp_eq_iff : a.stamp = b.stamp ↔ a.Agrees b := by
  rw [agrees_iff_fields]
  constructor
  · intro same
    have digits : a.digits = b.digits := by
      rw [← splitOn_stamp, ← splitOn_stamp, same]
    have tell : Function.Injective (Nat.toDigits 10) := by
      intro m n same
      rw [← Nat.ofDigitChars_ten_toDigits (n := m), same, Nat.ofDigitChars_ten_toDigits]
    exact List.map_injective_iff.mpr tell digits
  · intro same
    rw [stamp, stamp, same]

end Clock

namespace PageDriver

variable {base testName : String} {driver : PageDriver} {a b : Clock}

/-- The end of the name of a picture, from the time on. -/
def nameEnd (clock : Clock) : String :=
  "[" ++ clock.stamp ++ "].png"

theorem screenshotName_eq (base testName : String) (clock : Clock) :
    screenshotName base testName clock = base ++ "-" ++ testName ++ nameEnd clock := by
  simp only [screenshotName, nameEnd, String.append_assoc]

theorem nameEnd_eq_iff : nameEnd a = nameEnd b ↔ a.Agrees b := by
  rw [← Clock.stamp_eq_iff, nameEnd, nameEnd, ← String.toList_inj, ← String.toList_inj]
  simp

theorem unslashed_nameEnd (clock : Clock) : '/' ∉ (nameEnd clock).toList := by
  have plain := clock.unslashed_stamp
  simp [nameEnd, plain]

/-- Whatever a name of a picture begins with, it is the name of an entry. -/
theorem entryName_append_nameEnd (before : String) (clock : Clock) :
    FilePath.EntryName (before ++ nameEnd clock) := by
  have long : 3 ≤ (before ++ nameEnd clock).length := by
    have extension : "].png".length = 5 := by decide
    rw [nameEnd, String.length_append, String.length_append, String.length_append, extension]
    omega
  have apart {other : String} (short : other.length < 3) : before ++ nameEnd clock ≠ other := by
    rintro rfl
    exact absurd short (Nat.not_lt.mpr long)
  exact ⟨apart (by decide), apart (by decide), apart (by decide)⟩

theorem unslashed_screenshotName_iff (clock : Clock) :
    '/' ∉ (screenshotName base testName clock).toList ↔
      '/' ∉ base.toList ∧ '/' ∉ testName.toList := by
  have plain := unslashed_nameEnd clock
  rw [screenshotName_eq]
  simp [plain]

/-- The path of a picture that a driver takes. -/
def picturePath (driver : PageDriver) (base : String) (clock : Clock) : FilePath :=
  driver.screenshotDir.append (.parse (screenshotName base driver.testName clock))

/-- The path of a name of a picture ends with a part that differs in nothing but the time. -/
theorem parts_parse_screenshotName (base testName : String) :
    ∃ before, ∃ last : String, ∀ clock,
      (FilePath.parse (screenshotName base testName clock)).parts =
        before ++ [last ++ nameEnd clock] := by
  obtain ⟨pieces, last, splits⟩ :=
    Characters.splitOn_append '/' (base ++ "-" ++ testName).toList
  refine ⟨(pieces.map String.ofList).filter FilePath.isPart, String.ofList last, fun clock => ?_⟩
  have named := entryName_append_nameEnd (String.ofList last) clock
  have end_eq : String.ofList (last ++ (nameEnd clock).toList) =
      String.ofList last ++ nameEnd clock := by
    rw [String.ofList_append, String.ofList_toList]
  have split := splits _ (unslashed_nameEnd clock)
  rw [← String.toList_append, ← screenshotName_eq] at split
  rw [FilePath.parse_eq, split, List.map_append, List.map_singleton, end_eq, List.filter_append]
  exact congrArg _ (List.filter_cons_of_pos named.isPart)

theorem parts_picturePath (driver : PageDriver) (base : String) :
    ∃ last : String, ∀ clock, ∃ before,
      (driver.picturePath base clock).parts = before ++ [last ++ nameEnd clock] := by
  obtain ⟨before, last, ends⟩ := parts_parse_screenshotName base driver.testName
  refine ⟨last, fun clock => ?_⟩
  rw [picturePath, FilePath.append]
  split
  · exact ⟨before, ends clock⟩
  · exact ⟨driver.screenshotDir.parts ++ before, by rw [ends clock, List.append_assoc]⟩

/-- How the pictures that a driver takes at two times are told apart. -/
structure TellsTime (driver : PageDriver) (base : String) (a b : Clock) : Prop where
  names : screenshotName base driver.testName a = screenshotName base driver.testName b ↔ a.Agrees b
  paths : driver.picturePath base a = driver.picturePath base b ↔ a.Agrees b
  shown : driver.screenshotDir.Normal →
    ((driver.picturePath base a).display = (driver.picturePath base b).display ↔ a.Agrees b)
  places : ∀ (files : FileStore) first second, files.locate (driver.picturePath base a) = .ok first →
    files.locate (driver.picturePath base b) = .ok second → (first = second ↔ a.Agrees b)

theorem screenshotName_eq_iff :
    screenshotName base testName a = screenshotName base testName b ↔ a.Agrees b := by
  rw [screenshotName_eq, screenshotName_eq, ← nameEnd_eq_iff, String.append_right_inj]

theorem picturePath_eq_of_agrees (driver : PageDriver) (base : String) (agrees : a.Agrees b) :
    driver.picturePath base a = driver.picturePath base b := by
  rw [picturePath, picturePath, screenshotName_eq_iff.mpr agrees]

theorem agrees_of_concat {before others : List String} {last : String}
    (same : before ++ [last ++ nameEnd a] = others ++ [last ++ nameEnd b]) : a.Agrees b := by
  have ends := List.append_inj_right' same (by simp)
  rw [List.singleton_inj, String.append_right_inj] at ends
  exact nameEnd_eq_iff.mp ends

/-- Pictures taken at different milliseconds have different names, paths and places, and pictures taken
in the same millisecond have the same. -/
theorem tellsTime (driver : PageDriver) (base : String) (a b : Clock) : TellsTime driver base a b := by
  obtain ⟨last, ends⟩ := parts_picturePath driver base
  obtain ⟨before, first⟩ := ends a
  obtain ⟨others, second⟩ := ends b
  have paths : driver.picturePath base a = driver.picturePath base b ↔ a.Agrees b := by
    refine ⟨fun same => ?_, picturePath_eq_of_agrees driver base⟩
    have parts := congrArg FilePath.parts same
    rw [first, second] at parts
    exact agrees_of_concat parts
  refine ⟨screenshotName_eq_iff, paths, fun normal => ?_, fun files there elsewhere leads others => ?_⟩
  · have read (clock : Clock) : FilePath.parse (driver.picturePath base clock).display =
        driver.picturePath base clock :=
      (normal.append (FilePath.normal_parse _)).parse_display
    rw [← paths]
    refine ⟨fun same => ?_, fun same => congrArg _ same⟩
    rw [← read a, same, read b]
  · constructor
    · rintro rfl
      have up (clock : Clock) := (entryName_append_nameEnd last clock).up
      rw [FileStore.locate_eq_ok_iff, first] at leads
      rw [FileStore.locate_eq_ok_iff, second] at others
      obtain ⟨_, -, -, rfl⟩ := FileStore.follow_concat (up a) leads.2
      obtain ⟨_, -, -, same⟩ := FileStore.follow_concat (up b) others.2
      exact agrees_of_concat same
    · intro agrees
      rw [picturePath_eq_of_agrees driver base agrees] at leads
      exact Except.ok.inj (leads.symm.trans others)

end PageDriver
end PageContracts
