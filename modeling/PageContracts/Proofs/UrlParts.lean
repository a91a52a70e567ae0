import PageContracts.Proofs.QueryStrings
import PageContracts.Proofs.Substitutions

/-! # The parts of a URL

A URL is cut at its first `#`, behind which its fragment stands, and what is left of it at the first
`?`, behind which its query stands. Query parameters are put behind the whole URL. So they are a part of
the query as long as there is no fragment; behind one they go on with it. -/
namespace PageContracts

open Runs

namespace Url

/-- What stands before the first of some marks and what stands behind it, if there is one. -/
def cut (mark : Char) : List Char → List Char × Option (List Char)
  | [] => ([], none)
  | c :: rest =>
    if c = mark then ([], some rest)
    else
      let (front, behind) := cut mark rest
      (c :: front, behind)

/-- A URL in parts, without the marks between them. -/
structure Parts where
  path : List Char
  query : Option (List Char)
  fragment : Option (List Char)
  deriving DecidableEq

def parts (url : List Char) : Parts :=
  let (front, fragment) := cut '#' url
  let (path, query) := cut '?' front
  { path, query, fragment }

/-- More for the query: behind what is there already, or all there is of it. -/
def Parts.withQuery (parts : Parts) (text : List Char) : Parts :=
  match parts.query with
  | none => { parts with query := some text }
  | some query => { parts with query := some (query ++ '&' :: text) }

/-- More for the fragment, if there is one. -/
def Parts.withFragment (parts : Parts) (tail : List Char) : Parts :=
  { parts with fragment := parts.fragment.map (· ++ tail) }

/-- What joins query parameters to a URL. -/
def joint (url : List Char) : Char :=
  if '?' ∈ url then '&' else '?'

section Cutting

variable {mark : Char} {url front text : List Char}

theorem cut_of_not_mem (whole : mark ∉ text) : cut mark text = (text, none) := by
  induction text with
  | nil => rfl
  | cons c rest ih =>
    rw [List.mem_cons, not_or] at whole
    rw [cut, if_neg (Ne.symm whole.1), ih whole.2]

theorem cut_append_cons (first : mark ∉ front) (behind : List Char) :
    cut mark (front ++ mark :: behind) = (front, some behind) := by
  induction front with
  | nil => rw [List.nil_append, cut, if_pos rfl]
  | cons c rest ih =>
    rw [List.mem_cons, not_or] at first
    rw [List.cons_append, cut, if_neg (Ne.symm first.1), ih first.2]

theorem parts_of_unmarked (bare : '#' ∉ url) :
    parts url = { path := (cut '?' url).1, query := (cut '?' url).2, fragment := none } := by
  rw [parts, cut_of_not_mem bare]

theorem parts_append_fragment (first : '#' ∉ front) (fragment : List Char) :
    parts (front ++ '#' :: fragment) = { parts front with fragment := some fragment } := by
  rw [parts_of_unmarked first, parts, cut_append_cons first]

/-- Without a fragment, what is joined to a URL is a part of its query. -/
theorem parts_joint (bare : '#' ∉ url) (bare' : '#' ∉ text) :
    parts (url ++ joint url :: text) = (parts url).withQuery text := by
  have apart : '#' ∉ url ++ joint url :: text := by
    have other : '#' ≠ joint url := by
      unfold joint
      split <;> decide
    simp [bare, bare', other]
  rw [parts_of_unmarked apart, parts_of_unmarked bare]
  by_cases marked : '?' ∈ url
  · obtain ⟨path, query, rfl, first⟩ := List.eq_append_cons_of_mem marked
    rw [joint, if_pos marked, List.append_assoc, List.cons_append, cut_append_cons first,
      cut_append_cons first]
    rfl
  · rw [joint, if_neg marked, cut_append_cons marked, cut_of_not_mem marked]
    rfl

/-- Behind a fragment, everything is a part of it. -/
theorem parts_append_of_mem (marked : '#' ∈ url) (tail : List Char) :
    parts (url ++ tail) = (parts url).withFragment tail := by
  obtain ⟨front, fragment, rfl, first⟩ := List.eq_append_cons_of_mem marked
  rw [List.append_assoc, List.cons_append, parts_append_fragment first,
    parts_append_fragment first]
  rfl

theorem withFragment_ne_withQuery (marked : '#' ∈ url) (c : Char) (tail : List Char) :
    (parts url).withFragment (c :: tail) ≠ (parts url).withQuery text := by
  obtain ⟨front, fragment, rfl, first⟩ := List.eq_append_cons_of_mem marked
  intro same
  have kept : ((parts (front ++ '#' :: fragment)).withQuery text).fragment = some fragment := by
    rw [parts_append_fragment first, Parts.withQuery]
    split <;> rfl
  rw [← same, parts_append_fragment first, Parts.withFragment, Option.map_some] at kept
  have longer := congrArg List.length (Option.some.inj kept)
  rw [List.length_append, List.length_cons] at longer
  omega

end Cutting

theorem toList_withParameters (url : String) {params : QueryParams}
    (some : params.nonempty = true) :
    (withParameters url params).toList = url.toList ++ joint url.toList :: params.text.toList := by
  rw [withParameters, if_pos some, String.toList_append, String.toList_append, List.append_assoc,
    hasQuery, joint]
  by_cases marked : '?' ∈ url.toList
  · simp [marked]
  · simp [marked]

/-- Where the text of query parameters stands in a URL, beside the plain one that is made without
them. -/
structure Joins (template : String) (arguments : List Value) (text plain url : List Char) : Prop where
  /-- They are in the query, and all the rest is as without them, just when there is no fragment. -/
  lands : parts url = (parts plain).withQuery text ↔ '#' ∉ plain
  strays : '#' ∈ plain → parts url = (parts plain).withFragment (joint plain :: text)
  /-- No text and no integer makes a fragment, so it is the template that has one. -/
  anchored : ∀ pieces, template.toList = Template.written pieces →
    (∀ argument ∈ arguments, Template.Simple argument) → ('#' ∈ plain ↔ '#' ∈ template.toList)

end Url

namespace PageDriver

open Url

variable {β : Type} {template url : String} {arguments : List Value}

theorem mem_template_iff {plain : String} {pieces : List Template.Part} {c : Char}
    (spelled : template.toList = Template.written pieces)
    (simple : ∀ argument ∈ arguments, Template.Simple argument) (world : World β)
    (made : given (makeUrl template arguments world) = .ok plain)
    (structural : c ∈ Template.structural) : c ∈ plain.toList ↔ c ∈ template.toList := by
  have counted := (keepsShape_of_makeUrl spelled simple world made).counts c structural
  rw [← List.count_pos_iff, ← List.count_pos_iff, counted, spelled]

/-- Query parameters with anything in them are joined to the URL that is made without them. -/
theorem joins_of_makeUrl (some : (joined (arguments.filterMap parameters?)).nonempty = true)
    (world : World β) (made : given (makeUrl template arguments world) = .ok url) :
    ∃ plain, given (makeUrl template (withoutParameters arguments) world) = .ok plain ∧
      Joins template (withoutParameters arguments)
        (joined (arguments.filterMap parameters?)).text.toList plain.toList url.toList := by
  rw [given_makeUrl_withoutParameters] at made
  cases plainly : given (makeUrl template (withoutParameters arguments) world) with
  | error failure =>
    rw [plainly] at made
    cases made
  | ok plain =>
    rw [plainly] at made
    cases made
    have unmarked : '#' ∉ (joined (arguments.filterMap parameters?)).text.toList :=
      QueryParams.not_mem_text rfl (by decide) (by decide) _
    refine ⟨plain, rfl, ?_⟩
    rw [toList_withParameters plain some]
    constructor
    case lands =>
      constructor
      · intro landed marked
        rw [parts_append_of_mem marked] at landed
        exact withFragment_ne_withQuery marked _ _ landed
      · exact fun bare => parts_joint bare unmarked
    case strays => exact fun marked => parts_append_of_mem marked _
    case anchored =>
      intro pieces spelled simple
      exact mem_template_iff spelled simple world plainly (by decide)

end PageDriver

namespace Notes

/-- A row of query parameters behind a query that the template has already. -/
theorem query_joined :
    let arguments : List Value := [.int 7, .query ⟨[("a", "b c")]⟩]
    given (PageDriver.makeUrl "/x?n=%d" arguments desk) = .ok "/x?n=7&a=b+c" ∧
      Url.parts "/x?n=7&a=b+c".toList = (Url.parts "/x?n=7".toList).withQuery "a=b+c".toList := by
  intro arguments
  have made : given (PageDriver.makeUrl "/x?n=%d" arguments desk) = .ok "/x?n=7&a=b+c" := by
    decide +kernel
  have plainly : given (PageDriver.makeUrl "/x?n=%d" [.int 7] desk) = .ok "/x?n=7" := by
    decide +kernel
  have text : (Url.joined (arguments.filterMap Url.parameters?)).text = "a=b+c" := by
    decide +kernel
  obtain ⟨plain, made', joins⟩ := PageDriver.joins_of_makeUrl (by decide +kernel) desk made
  obtain rfl : "/x?n=7" = plain := Except.ok.inj (plainly.symm.trans made')
  rw [text] at joins
  exact ⟨made, joins.lands.mpr (by decide)⟩

/-- Query parameters behind a fragment are no part of the query. -/
theorem query_strayed :
    given (PageDriver.makeUrl "/x#top" [] desk) = .ok "/x#top" ∧
      given (PageDriver.makeUrl "/x#top" [.query ⟨[("a", "1")]⟩] desk) = .ok "/x#top?a=1" ∧
        Url.parts "/x#top?a=1".toList = ⟨"/x".toList, none, some "top?a=1".toList⟩ ∧
          (Url.parts "/x#top".toList).withQuery "a=1".toList =
            ⟨"/x".toList, some "a=1".toList, some "top".toList⟩ := by
  refine ⟨?_, ?_, ?_, ?_⟩ <;> decide +kernel

end Notes
end PageContracts
