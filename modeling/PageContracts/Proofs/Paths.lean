import PageContracts.Files
import PageContracts.Proofs.Keys

/-! # Paths

A path as it is shown names just that path. Behind a directory, a name without slashes is the name of an
entry; where there is a slash in it, it is split into several names. -/
namespace PageContracts

namespace Characters

/-- What is added to a text, and has no separator, is added to the last piece. -/
theorem splitOn_append (separator : Char) (text : List Char) :
    ∃ pieces last, ∀ added, separator ∉ added →
      splitOn separator (text ++ added) = pieces ++ [last ++ added] := by
  induction text with
  | nil =>
    refine ⟨[], [], fun added plain => ?_⟩
    rw [splitOn_eq]
    exact List.splitOn_eq_singleton plain
  | cons c rest ih =>
    obtain ⟨pieces, last, later⟩ := ih
    by_cases mark : c = separator
    · refine ⟨[] :: pieces, last, fun added plain => ?_⟩
      rw [List.cons_append, splitOn, if_pos mark, later added plain, List.cons_append]
    · cases pieces with
      | nil =>
        refine ⟨[], c :: last, fun added plain => ?_⟩
        rw [List.cons_append, splitOn, if_neg mark, later added plain]
        rfl
      | cons piece pieces =>
        refine ⟨(c :: piece) :: pieces, last, fun added plain => ?_⟩
        rw [List.cons_append, splitOn, if_neg mark, later added plain]
        rfl

end Characters

namespace FilePath

open Characters

/-- Whether a piece of a text is a part of the path that it names. -/
def isPart (piece : String) : Bool :=
  piece ≠ "" && piece ≠ "."

theorem isPart_iff {piece : String} : isPart piece = true ↔ piece ≠ "" ∧ piece ≠ "." := by
  simp [isPart]

theorem parse_eq (text : String) : parse text =
    { root := rootOf text.toList
      parts := ((splitOn '/' text.toList).map String.ofList).filter isPart } :=
  rfl

/-- A path as it is read from a text. -/
structure Normal (path : FilePath) : Prop where
  root : path.root = "" ∨ path.root = "/" ∨ path.root = "//"
  parts : ∀ part ∈ path.parts, part ≠ "" ∧ part ≠ "." ∧ '/' ∉ part.toList

theorem normal_parse (text : String) : (parse text).Normal := by
  constructor
  · change rootOf text.toList = "" ∨ rootOf text.toList = "/" ∨ rootOf text.toList = "//"
    unfold rootOf
    split
    · exact .inl rfl
    · exact .inr (.inr rfl)
    · exact .inr (.inl rfl)
  · intro part among
    obtain ⟨listed, kept⟩ := List.mem_filter.mp among
    obtain ⟨piece, split, rfl⟩ := List.mem_map.mp listed
    obtain ⟨nonempty, here⟩ := isPart_iff.mp kept
    refine ⟨nonempty, here, ?_⟩
    rw [String.toList_ofList]
    exact not_mem_of_splitOn '/' piece split

variable {path dir : FilePath} {name : String}

theorem Normal.append {other : FilePath} (normal : path.Normal) (others : other.Normal) :
    (path.append other).Normal := by
  rw [FilePath.append]
  split
  · exact others
  · refine ⟨normal.root, fun part among => ?_⟩
    rcases List.mem_append.mp among with mine | added
    · exact normal.parts part mine
    · exact others.parts part added

/-- The characters of a path behind the slashes that it starts with. -/
def body (path : FilePath) : List Char :=
  ['/'].intercalate (path.parts.map String.toList)

theorem Normal.splitOn_body (normal : path.Normal) :
    ((splitOn '/' path.body).map String.ofList).filter isPart = path.parts := by
  have kept : path.parts.filter isPart = path.parts := by
    refine List.filter_eq_self.mpr fun part among => isPart_iff.mpr ?_
    obtain ⟨nonempty, here, -⟩ := normal.parts part among
    exact ⟨nonempty, here⟩
  have plain : ∀ part ∈ path.parts.map String.toList, '/' ∉ part := by
    intro part among
    obtain ⟨part, listed, rfl⟩ := List.mem_map.mp among
    exact (normal.parts part listed).2.2
  rw [body, splitOn_eq]
  cases parts : path.parts with
  | nil => rfl
  | cons first others =>
    rw [← parts, List.splitOn_intercalate '/' plain (by simp [parts]), List.map_map]
    simp only [Function.comp_def, String.ofList_toList, List.map_id']
    exact kept

theorem Normal.body_starts (normal : path.Normal) :
    path.body.takeWhile (· = '/') = [] := by
  rw [body]
  cases parts : path.parts with
  | nil => rfl
  | cons first others =>
    obtain ⟨some, -, plain⟩ := normal.parts first (by simp [parts])
    cases text : first.toList with
    | nil => exact absurd (String.toList_eq_nil_iff.mp text) some
    | cons c rest =>
      have apart : c ≠ '/' := fun same => plain (by rw [text, same]; exact List.mem_cons_self)
      cases others with
      | nil => simp [text, apart]
      | cons => simp [text, apart]

theorem splitOn_slashes (slashes : Nat) (text : List Char) :
    splitOn '/' (List.replicate slashes '/' ++ text) =
      List.replicate slashes [] ++ splitOn '/' text := by
  induction slashes with
  | zero => rfl
  | succ slashes ih =>
    rw [List.replicate_succ, List.cons_append, splitOn, if_pos rfl, ih, List.replicate_succ,
      List.cons_append]

theorem Normal.parse_body (normal : path.Normal) (slashes : Nat) :
    parse (String.ofList (List.replicate slashes '/' ++ path.body)) =
      { root := rootOf (List.replicate slashes '/'), parts := path.parts } := by
  have all : ∀ c ∈ List.replicate slashes '/', decide (c = '/') = true := by simp
  have root : rootOf (List.replicate slashes '/' ++ path.body) =
      rootOf (List.replicate slashes '/') := by
    have alone : (List.replicate slashes '/').takeWhile (· = '/') = List.replicate slashes '/' := by
      simp
    rw [rootOf, rootOf, List.takeWhile_append_of_pos all, normal.body_starts, List.append_nil, alone]
  have none : ((List.replicate slashes []).map String.ofList).filter isPart = [] := by
    rw [List.map_replicate]
    exact List.filter_replicate_of_neg (by decide)
  rw [parse_eq, String.toList_ofList, root, splitOn_slashes, List.map_append, List.filter_append, none,
    List.nil_append, normal.splitOn_body]

theorem display_of_shown (shown : path.isAbsolute = true ∨ path.parts ≠ []) :
    path.display = path.root ++ String.intercalate "/" path.parts := by
  have some : ¬ ((!path.isAbsolute && path.parts.isEmpty) = true) := by
    rcases shown with absolute | named
    · simp [absolute]
    · simp [named]
  rw [display, if_neg some]

theorem display_eq (shown : path.isAbsolute = true ∨ path.parts ≠ []) :
    path.display = String.ofList (path.root.toList ++ path.body) := by
  rw [display_of_shown shown, ← String.toList_inj, String.toList_append, String.toList_intercalate,
    body, String.toList_ofList, String.toList_ofList]

/-- A path as it is shown is read as that path. -/
theorem Normal.parse_display (normal : path.Normal) : parse path.display = path := by
  have rooted (slashes : Nat) (starts : path.root.toList = List.replicate slashes '/')
      (same : rootOf (List.replicate slashes '/') = path.root)
      (shown : path.isAbsolute = true ∨ path.parts ≠ []) : parse path.display = path := by
    rw [display_eq shown, starts, normal.parse_body, same]
  rcases normal.root with root | root | root
  · cases parts : path.parts with
    | nil =>
      have here : path = { root := "", parts := [] } := by
        rw [← root, ← parts]
      rw [here]
      decide
    | cons => exact rooted 0 (by rw [root]; rfl) (by rw [root]; rfl) (.inr (by simp [parts]))
  · exact rooted 1 (by rw [root]; rfl) (by rw [root]; rfl) (.inl (by simp [isAbsolute, root]))
  · exact rooted 2 (by rw [root]; rfl) (by rw [root]; rfl) (.inl (by simp [isAbsolute, root]))

/-- The entry of a directory that has a name. -/
def entry (dir : FilePath) (name : String) : FilePath :=
  { dir with parts := dir.parts ++ [name] }

@[simp] theorem parent_entry (dir : FilePath) (name : String) : (dir.entry name).parent = dir := by
  simp [parent, entry]

theorem display_entry (some : dir.parts ≠ []) (name : String) :
    (dir.entry name).display = dir.display ++ ("/" ++ name) := by
  have entered : (dir.entry name).parts ≠ [] := by simp [entry]
  rw [display_of_shown (.inr some), display_of_shown (.inr entered), entry,
    String.intercalate_append_of_ne_nil some (List.cons_ne_nil _ _), String.intercalate_singleton]
  simp only [String.append_assoc]

/-- A text that can be the name of an entry, for as long as there are no slashes in it. -/
structure EntryName (name : String) : Prop where
  nonempty : name ≠ ""
  here : name ≠ "."
  up : name ≠ ".."

theorem EntryName.isPart (named : EntryName name) : isPart name = true :=
  isPart_iff.mpr ⟨named.nonempty, named.here⟩

theorem parse_of_unslashed (named : EntryName name) (plain : '/' ∉ name.toList) :
    parse name = { root := "", parts := [name] } := by
  have root : rootOf name.toList = "" := by
    cases text : name.toList with
    | nil => rfl
    | cons c rest =>
      have apart : c ≠ '/' := fun same => plain (by rw [text, same]; exact List.mem_cons_self)
      simp [rootOf, apart]
  rw [parse_eq, root, splitOn_eq, List.splitOn_eq_singleton plain, List.map_singleton,
    String.ofList_toList, List.filter_cons_of_pos named.isPart, List.filter_nil]

/-- What a name leads to behind a directory is an entry of it just if there is no slash in the name. -/
theorem append_parse_eq_entry_iff (dir : FilePath) (named : EntryName name) :
    dir.append (.parse name) = dir.entry name ↔ '/' ∉ name.toList := by
  constructor
  · intro same
    have among : name ∈ (parse name).parts := by
      rw [append] at same
      split at same
      · rw [same]
        exact List.mem_append_right _ List.mem_cons_self
      · have parts := congrArg FilePath.parts same
        rw [List.append_cancel_left parts]
        exact List.mem_cons_self
    exact ((normal_parse name).parts name among).2.2
  · intro plain
    rw [parse_of_unslashed named plain]
    rfl

end FilePath

namespace FileStore

variable {store : FileStore} {dir : FilePath} {name : String}

/-- Where a way leads that ends with a name: to what is behind the directory that the way leads to
without the name. -/
theorem follow_concat {parts place there : List String} (up : name ≠ "..")
    (leads : store.follow place (parts ++ [name]) = .ok there) :
    ∃ directory, store.follow place parts = .ok directory ∧
      store.entryAt? directory = some .directory ∧ there = directory ++ [name] := by
  induction parts generalizing place with
  | nil =>
    rw [List.nil_append, follow] at leads
    split at leads
    · cases leads
    · cases leads
    · next directory =>
      rw [if_neg up] at leads
      split at leads
      · cases leads
      · cases leads
        exact ⟨place, rfl, directory, rfl⟩
  | cons part rest ih =>
    rw [List.cons_append, follow] at leads
    rw [follow]
    split at leads
    · cases leads
    · cases leads
    · split at leads
      · next back =>
        rw [if_pos back]
        exact ih leads
      · next onward =>
        rw [if_neg onward]
        split at leads
        · cases leads
        · next short =>
          rw [if_neg short]
          exact ih leads

/-- The path can be looked up. -/
structure Usable (path : FilePath) : Prop where
  sound : path.display.toList.contains '\x00' = false
  short : path.display.utf8ByteSize ≤ longestPath
  relative : path.isAbsolute = false

theorem locate_eq_ok_iff {path : FilePath} {there : List String} :
    store.locate path = .ok there ↔ Usable path ∧ store.follow [] path.parts = .ok there := by
  rw [locate]
  constructor
  · intro leads
    split at leads
    · cases leads
    · next sound =>
      split at leads
      · cases leads
      · next short =>
        split at leads
        · cases leads
        · next relative =>
          exact ⟨⟨Bool.eq_false_iff.mpr sound, Nat.not_lt.mp short, Bool.eq_false_iff.mpr relative⟩,
            leads⟩
  · rintro ⟨usable, leads⟩
    rw [if_neg (Bool.eq_false_iff.mp usable.sound), if_neg (Nat.not_lt.mpr usable.short),
      if_neg (Bool.eq_false_iff.mp usable.relative)]
    exact leads

theorem Usable.directory (usable : Usable (dir.entry name)) : Usable dir := by
  have relative : dir.isAbsolute = false := usable.relative
  by_cases some : dir.parts = []
  · have here : dir.display = "." := by
      rw [FilePath.display, some, relative]
      rfl
    exact ⟨by rw [here]; rfl, by rw [here]; decide, relative⟩
  · obtain ⟨sound, short, -⟩ := usable
    rw [FilePath.display_entry some] at sound short
    rw [String.toList_append, List.contains_eq_mem, decide_eq_false_iff_not] at sound
    rw [String.utf8ByteSize_append] at short
    refine ⟨?_, by omega, relative⟩
    rw [List.contains_eq_mem, decide_eq_false_iff_not]
    exact fun broken => sound (List.mem_append_left _ broken)

/-- An entry of a directory is found in the place that the directory has. -/
theorem locate_entry {there : List String} (up : name ≠ "..")
    (leads : store.locate (dir.entry name) = .ok there) :
    ∃ directory, store.locate dir = .ok directory ∧
      store.entryAt? directory = some .directory ∧ there = directory ++ [name] := by
  obtain ⟨usable, leads⟩ := locate_eq_ok_iff.mp leads
  obtain ⟨directory, behind, opens, rfl⟩ := follow_concat up leads
  exact ⟨directory, locate_eq_ok_iff.mpr ⟨usable.directory, behind⟩, opens, rfl⟩

end FileStore
end PageContracts
