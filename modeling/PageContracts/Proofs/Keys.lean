import PageContracts.Proofs.QueryStrings
import PageContracts.Settings.Lookup

/-! # Keys of settings

A dotted key is the parts between its dots, and the environment variable that overrides a setting is
named by the same parts in upper case, with underscores between them. That no other character has a
dot in its upper case is read off the tables of the forms. -/
namespace PageContracts

namespace Characters

open CharacterTables

variable {c : Char} {text : List Char} {pieces : List (List Char)}

theorem ne_dot_of_code {code : Nat} (apart : code ≠ 46) : Char.ofNat code ≠ '.' := by
  intro same
  have value : (Char.ofNat code).toNat = 46 := congrArg Char.toNat same
  by_cases valid : code.isValidChar
  · rw [Char.ofNat, dif_pos valid] at value
    exact apart value
  · rw [Char.ofNat, dif_neg valid] at value
    cases value

theorem upperExpansions_undotted :
    ∀ entry ∈ upperExpansions, ∀ code ∈ entry.2, code ≠ 46 := by
  decide +kernel

theorem upperRuns_undotted : ∀ run ∈ upperRuns, 46 < (run.first : Int) + run.offset := by
  decide +kernel

/-- No character but a dot has a dot in its upper case. -/
theorem upperForms_undotted (apart : c ≠ '.') : '.' ∉ upperForms c := by
  unfold upperForms
  split
  · rw [List.mem_singleton, asciiUpper]
    split
    · next small =>
      have least : 97 ≤ c.toNat := small.1
      exact (ne_dot_of_code (by omega)).symm
    · exact apart.symm
  · split
    · next entry _ codes listed =>
      have given := List.mem_of_find?_eq_some listed
      intro dotted
      obtain ⟨code, among, dot⟩ := List.mem_map.mp dotted
      exact ne_dot_of_code (upperExpansions_undotted _ given code among) dot
    · split
      · next run listed =>
        have given := List.mem_of_find?_eq_some listed
        have within := List.find?_some listed
        simp only [Bool.and_eq_true, decide_eq_true_eq] at within
        have beyond := upperRuns_undotted run given
        rw [List.mem_singleton]
        exact (ne_dot_of_code (by omega)).symm
      · rw [List.mem_singleton]
        exact apart.symm

/-- Upper case with underscores for dots. -/
def underscored (text : List Char) : List Char :=
  (text.flatMap upperForms).map fun c => if c = '.' then '_' else c

theorem underscored_of_undotted (undotted : '.' ∉ text) :
    underscored text = text.flatMap upperForms := by
  have kept : ∀ c ∈ text.flatMap upperForms, (if c = '.' then '_' else c) = c := by
    intro c among
    obtain ⟨source, there, form⟩ := List.mem_flatMap.mp among
    have other : source ≠ '.' := fun same => undotted (same ▸ there)
    have undot : c ≠ '.' := fun dot : c = '.' => upperForms_undotted other (dot ▸ form)
    exact if_neg undot
  exact (List.map_congr_left kept).trans (List.map_id _)

theorem underscored_append (front back : List Char) :
    underscored (front ++ back) = underscored front ++ underscored back := by
  rw [underscored, List.flatMap_append, List.map_append]
  rfl

theorem underscored_intercalate (undotted : ∀ piece ∈ pieces, '.' ∉ piece) :
    underscored (List.intercalate ['.'] pieces) =
      List.intercalate ['_'] (pieces.map fun piece => piece.flatMap upperForms) := by
  induction pieces with
  | nil => rfl
  | cons piece rest ih =>
    obtain ⟨apart, undotted⟩ := List.forall_mem_cons.mp undotted
    have first := underscored_of_undotted apart
    cases rest with
    | nil => simpa only [List.map_cons, List.map_nil, List.intercalate_singleton] using first
    | cons next more =>
      have mark : underscored ['.'] = ['_'] := by decide
      rw [List.intercalate_cons_cons, underscored_append, underscored_append, first, mark,
        ih undotted]
      simp only [List.map_cons, List.intercalate_cons_cons]

theorem not_mem_of_splitOn (separator : Char) :
    ∀ piece ∈ splitOn separator text, separator ∉ piece := by
  induction text with
  | nil =>
    intro piece among
    rw [List.mem_singleton.mp among]
    exact List.not_mem_nil
  | cons c rest ih =>
    rw [splitOn]
    split
    · exact List.forall_mem_cons.mpr ⟨List.not_mem_nil, ih⟩
    · next apart =>
      have begun : ∀ piece, separator ∉ piece → separator ∉ c :: piece := by
        intro piece clean among
        rcases List.mem_cons.mp among with same | later
        · exact apart same.symm
        · exact clean later
      cases pieces : splitOn separator rest with
      | nil => exact List.forall_mem_cons.mpr ⟨begun [] List.not_mem_nil, List.forall_mem_nil _⟩
      | cons piece more =>
        obtain ⟨clean, others⟩ := List.forall_mem_cons.mp (pieces ▸ ih)
        exact List.forall_mem_cons.mpr ⟨begun piece clean, others⟩

end Characters

namespace Settings

open Characters

variable {parts others : List String} {key : String}

/-- The parts that a dotted key is spelled with. -/
structure Spells (parts : List String) (key : String) : Prop where
  some : parts ≠ []
  undotted : ∀ part ∈ parts, '.' ∉ part.toList
  joined : String.intercalate "." parts = key

theorem Spells.pieces (spelled : Spells parts key) :
    ∀ piece ∈ parts.map String.toList, '.' ∉ piece := by
  intro piece among
  obtain ⟨part, there, rfl⟩ := List.mem_map.mp among
  exact spelled.undotted part there

theorem Spells.toList_eq (spelled : Spells parts key) :
    key.toList = List.intercalate ['.'] (parts.map String.toList) := by
  rw [← spelled.joined, String.toList_intercalate]
  rfl

theorem Spells.eq_keyParts (spelled : Spells parts key) : parts = keyParts key := by
  have some : parts.map String.toList ≠ [] := mt List.map_eq_nil_iff.mp spelled.some
  have split : splitOn '.' key.toList = parts.map String.toList := by
    rw [splitOn_eq, spelled.toList_eq, List.splitOn_intercalate '.' spelled.pieces some]
  have kept : (parts.map String.toList).map String.ofList = parts := by
    rw [List.map_map]
    exact (List.map_congr_left fun part _ => String.ofList_toList).trans (List.map_id _)
  rw [keyParts, split, kept]

/-- A key is spelled with one list of parts only. -/
theorem Spells.unique (spelled : Spells parts key) (again : Spells others key) : parts = others :=
  spelled.eq_keyParts.trans again.eq_keyParts.symm

theorem spells_keyParts (key : String) : Spells (keyParts key) key where
  some := by
    rw [keyParts, splitOn_eq]
    exact mt List.map_eq_nil_iff.mp (List.splitOn_ne_nil '.' key.toList)
  undotted := by
    intro part among
    obtain ⟨piece, there, rfl⟩ := List.mem_map.mp among
    rw [String.toList_ofList]
    exact not_mem_of_splitOn '.' piece there
  joined := by
    have kept : (keyParts key).map String.toList = key.toList.splitOn '.' := by
      rw [keyParts, splitOn_eq, List.map_map]
      exact (List.map_congr_left fun piece _ => String.toList_ofList).trans (List.map_id _)
    apply String.toList_inj.mp
    rw [String.toList_intercalate, kept]
    exact List.intercalate_splitOn '.'

/-- The variable that overrides a setting is named by its parts in upper case, with underscores
between them. -/
theorem variableName_eq (spelled : Spells parts key) :
    variableName key = String.intercalate "_" (parts.map upper) := by
  have raised : (upper key).toList = key.toList.flatMap upperForms := String.toList_ofList
  have dot : ".".toList = ['.'] := rfl
  have underscore : "_".toList = ['_'] := rfl
  have named : (variableName key).toList = underscored key.toList := by
    rw [variableName, toList_replace dot, underscore, raised, underscored, List.map_eq_flatMap]
    refine congrArg (List.flatMap · _) ?_
    funext c
    exact (apply_ite (fun c => [c]) (c = '.') '_' c).symm
  have each : (parts.map upper).map String.toList =
      (parts.map String.toList).map fun piece => piece.flatMap upperForms := by
    rw [List.map_map, List.map_map]
    exact List.map_congr_left fun part _ => String.toList_ofList
  apply String.toList_inj.mp
  rw [named, spelled.toList_eq, underscored_intercalate spelled.pieces, String.toList_intercalate,
    each]
  rfl

end Settings
end PageContracts
