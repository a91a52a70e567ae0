import PageContracts.Proofs.Escaping
import PageContracts.QueryBuilding

/-! # Query strings

The marks between the pairs of a query string, and between a name and its value, stand nowhere else in
it, since names and values are escaped. So a query string is read back as the parameters it is made of,
different parameters have different query strings, and that of merged parameters is made of theirs. -/
namespace PageContracts

namespace Characters

/-- The pieces of a text are those that the library cuts it into. -/
theorem splitOn_eq (separator : Char) (text : List Char) :
    splitOn separator text = text.splitOn separator := by
  induction text with
  | nil => rfl
  | cons c rest ih =>
    rw [splitOn, List.splitOn_cons_eq_if_modifyHead, ih]
    by_cases mark : c = separator
    · rw [if_pos mark, if_pos (beq_iff_eq.mpr mark)]
    · rw [if_neg mark, if_neg (mark ∘ beq_iff_eq.mp)]
      have some := List.splitOn_ne_nil separator rest
      cases pieces : rest.splitOn separator with
      | nil => exact (some pieces).elim
      | cons piece more => rfl

end Characters

namespace QueryParams

open Characters FormEncoding

variable {c : Char} {params others : QueryParams}

theorem toList_pairText (pair : String × String) :
    (pairText pair).toList = (encode pair.1).toList ++ '=' :: (encode pair.2).toList := by
  have mark : "=".toList = ['='] := rfl
  rw [pairText, String.toList_append, String.toList_append, mark, List.append_assoc]
  rfl

theorem text_nil : (⟨[]⟩ : QueryParams).text = "" :=
  String.intercalate_nil

theorem text_cons (pair : String × String) (rest : List (String × String)) :
    (⟨pair :: rest⟩ : QueryParams).text =
      if rest = [] then pairText pair else pairText pair ++ "&" ++ (⟨rest⟩ : QueryParams).text := by
  cases rest with
  | nil => exact String.intercalate_singleton
  | cons next more => exact String.intercalate_cons_cons

theorem toList_text (params : QueryParams) :
    params.text.toList =
      List.intercalate ['&'] (params.pairs.map fun pair => (pairText pair).toList) := by
  have mark : "&".toList = ['&'] := rfl
  rw [text, String.toList_intercalate, mark, List.map_map]
  rfl

/-- What does not stand in an escaped text does not stand in a pair, unless it is its mark. -/
theorem not_mem_pairText (never : mayStand c = false) (apart : c ≠ '=') (pair : String × String) :
    c ∉ (pairText pair).toList := by
  have name := (escaped_encode pair.1).not_mem never
  have value := (escaped_encode pair.2).not_mem never
  rw [toList_pairText, List.mem_append, List.mem_cons]
  simp [name, value, apart]

theorem not_mem_text (never : mayStand c = false) (apart : c ≠ '=') (apart' : c ≠ '&')
    (params : QueryParams) : c ∉ params.text.toList := by
  obtain ⟨pairs⟩ := params
  induction pairs with
  | nil => exact List.not_mem_nil
  | cons pair rest ih =>
    have first := not_mem_pairText never apart pair
    rw [text_cons]
    split
    · exact first
    · have mark : "&".toList = ['&'] := rfl
      simp [String.toList_append, mark, first, apart', ih]

/-- There is a mark in every pair, and so in every query string that is not empty. -/
theorem text_eq_empty_iff : params.text = "" ↔ params.pairs = [] := by
  obtain ⟨pairs⟩ := params
  cases pairs with
  | nil => exact iff_of_true text_nil rfl
  | cons pair rest =>
    refine iff_of_false ?_ (List.cons_ne_nil _ _)
    intro empty
    have marked : '=' ∈ (⟨pair :: rest⟩ : QueryParams).text.toList := by
      rw [text_cons]
      split
      · simp [toList_pairText]
      · simp [toList_pairText, String.toList_append]
    rw [empty] at marked
    cases marked

/-- A name ends where the first mark is, and the value is all that follows. -/
theorem readPair?_pairText (pair : String × String) :
    readPair? (pairText pair).toList = some pair := by
  have apart : ∀ c ∈ (encode pair.1).toList, decide (c ≠ '=') = true := by
    rintro c listed
    refine decide_eq_true ?_
    rintro rfl
    exact (escaped_encode pair.1).not_mem rfl listed
  have ends : ((('=' :: (encode pair.2).toList) : List Char).takeWhile (· ≠ '=')) = [] := rfl
  have begins : ((('=' :: (encode pair.2).toList) : List Char).dropWhile (· ≠ '=')) =
      '=' :: (encode pair.2).toList := rfl
  rw [readPair?, toList_pairText, List.takeWhile_append_of_pos apart,
    List.dropWhile_append_of_pos apart, ends, begins, List.append_nil, String.ofList_toList,
    List.drop_succ_cons, List.drop_zero, String.ofList_toList, decode?_encode, decode?_encode]
  rfl

theorem mapM_readPair? (pairs : List (String × String)) :
    (pairs.map fun pair => (pairText pair).toList).mapM readPair? = some pairs := by
  induction pairs with
  | nil => rfl
  | cons pair rest ih =>
    rw [List.map_cons, List.mapM_cons, readPair?_pairText, ih]
    rfl

theorem read?_text (params : QueryParams) : read? params.text = some params := by
  by_cases none : params.pairs = []
  · have empty : params.text.toList.isEmpty = true := by
      rw [text_eq_empty_iff.mpr none]
      rfl
    rw [read?, if_pos empty, QueryParams.empty, ← none]
  · have full : ¬ params.text.toList.isEmpty = true := by
      rw [List.isEmpty_iff, String.toList_eq_nil_iff, text_eq_empty_iff]
      exact none
    have apart : ∀ piece ∈ params.pairs.map fun pair => (pairText pair).toList, '&' ∉ piece := by
      intro piece listed
      obtain ⟨pair, -, rfl⟩ := List.mem_map.mp listed
      exact not_mem_pairText rfl (by decide) pair
    have pieces : params.pairs.map (fun pair => (pairText pair).toList) ≠ [] :=
      none ∘ List.map_eq_nil_iff.mp
    rw [read?, if_neg full, splitOn_eq, toList_text, List.splitOn_intercalate '&' apart pieces,
      mapM_readPair?]
    rfl

theorem text_inj : params.text = others.text ↔ params = others := by
  constructor
  · intro same
    have read := read?_text params
    rw [same, read?_text] at read
    exact (Option.some.inj read).symm
  · rintro rfl
    rfl

theorem text_append (params others : QueryParams) :
    (params.append others).text =
      if params.pairs = [] then others.text
      else if others.pairs = [] then params.text
      else params.text ++ "&" ++ others.text := by
  obtain ⟨pairs⟩ := params
  obtain ⟨more⟩ := others
  split
  · next none =>
    cases none
    rfl
  · next some =>
    split
    · next none =>
      cases none
      rw [append, List.append_nil]
    · next some' =>
      rw [append, text, List.map_append, String.intercalate_append_of_ne_nil]
      · rfl
      · exact some ∘ List.map_eq_nil_iff.mp
      · exact some' ∘ List.map_eq_nil_iff.mp

/-- What a query string tells: the parameters it is made of, in their order and as often as they are
there. -/
structure Tells (params : QueryParams) : Prop where
  back : read? params.text = some params
  /-- Parameters are taken for the same just where their query strings are. -/
  apart : ∀ others : QueryParams,
    params.text = others.text ↔ params.equals (.query others) = true
  merged : ∀ others : QueryParams, ∃ both, params.merge (.query others) = .ok both ∧
    both.text =
      if params.pairs = [] then others.text
      else if others.pairs = [] then params.text
      else params.text ++ "&" ++ others.text

/-- Every query string tells its parameters, whatever stands in their names and values. -/
theorem tells_text (params : QueryParams) : params.Tells where
  back := read?_text params
  apart others := by
    rw [text_inj, equals, decide_eq_true_eq]
  merged others := ⟨_, rfl, text_append params others⟩

example : text ⟨[("a b", "50% é"), ("", "")]⟩ = "a+b=50%25+%C3%A9&=" := by decide +kernel

end QueryParams
end PageContracts
