import PageContracts.Locator

/-! # Selectors

A selector that quotes its value is read from its first quote on: a backslash takes the next character
as it is, and a quote without one ends the quoted text. What is read is just the value, and what follows
is what the kind puts there, since backslashes are escaped before quotes are. So a value has no way out of
its quotes, and different values have different selectors. -/
namespace PageContracts.ResolvedLocator

open Characters (replace toList_replace)

variable {c : Char} {text early written value after : List Char} {locator : ResolvedLocator}
  {front back : String}

/-- What a text between quotes denotes. A backslash takes the next character as it is, and a quote stands
there behind a backslash only. -/
inductive Denotes : List Char → List Char → Prop
  | nothing : Denotes [] []
  | plain {c : Char} {written value : List Char} (unquoted : c ≠ '"') (unescaped : c ≠ '\\')
      (behind : Denotes written value) : Denotes (c :: written) (c :: value)
  | escaped (c : Char) {written value : List Char} (behind : Denotes written value) :
      Denotes ('\\' :: c :: written) (c :: value)

section Reading

theorem readQuoted_plain (unquoted : c ≠ '"') (unescaped : c ≠ '\\') (rest : List Char) :
    readQuoted (c :: rest) =
      (readQuoted rest).map fun (value, after) => (c :: value, after) := by
  rw [readQuoted]
  · exact unquoted
  · intro same _
    exact unescaped same
  · intro _ _ same _
    exact unescaped same

theorem readQuoted_escaped (c : Char) (rest : List Char) :
    readQuoted ('\\' :: c :: rest) =
      (readQuoted rest).map fun (value, after) => (c :: value, after) := by
  rw [readQuoted]

theorem Denotes.read (denotes : Denotes written value) (after : List Char) :
    readQuoted (written ++ '"' :: after) = some (value, after) := by
  induction denotes with
  | nothing => rfl
  | plain unquoted unescaped _ ih =>
    rw [List.cons_append, readQuoted_plain unquoted unescaped, ih]
    rfl
  | escaped c _ ih =>
    rw [List.cons_append, List.cons_append, readQuoted_escaped, ih]
    rfl

theorem begins_of_map_readQuoted
    (read : ((readQuoted text).map fun (value, after) => (c :: value, after)) =
      some (value, after)) :
    ∃ behind, value = c :: behind ∧ readQuoted text = some (behind, after) := by
  obtain ⟨⟨behind, _⟩, read, same⟩ := Option.map_eq_some_iff.mp read
  cases same
  exact ⟨behind, rfl, read⟩

theorem denotes_of_readQuoted (read : readQuoted text = some (value, after)) :
    ∃ written, Denotes written value ∧ text = written ++ '"' :: after := by
  induction text using readQuoted.induct generalizing value with
  | case1 => cases read
  | case2 rest =>
    cases read
    exact ⟨[], .nothing, rfl⟩
  | case3 => cases read
  | case4 c rest ih =>
    rw [readQuoted_escaped] at read
    obtain ⟨behind, rfl, further⟩ := begins_of_map_readQuoted read
    obtain ⟨written, denotes, rfl⟩ := ih further
    exact ⟨'\\' :: c :: written, .escaped c denotes, rfl⟩
  | case5 c rest unquoted ends continues ih =>
    have unescaped : c ≠ '\\' := by
      intro same
      cases rest with
      | nil => exact ends same rfl
      | cons next rest => exact continues next rest same rfl
    rw [readQuoted_plain unquoted unescaped] at read
    obtain ⟨behind, rfl, further⟩ := begins_of_map_readQuoted read
    obtain ⟨written, denotes, rfl⟩ := ih further
    exact ⟨c :: written, .plain unquoted unescaped denotes, rfl⟩

/-- Reading ends at the quote behind a text that denotes what is read, and nowhere else. -/
theorem readQuoted_eq_some_iff :
    readQuoted text = some (value, after) ↔
      ∃ written, Denotes written value ∧ text = written ++ '"' :: after := by
  constructor
  · exact denotes_of_readQuoted
  · rintro ⟨written, denotes, rfl⟩
    exact denotes.read after

/-- No beginning of a text that denotes something is closed. -/
theorem Denotes.unclosed (denotes : Denotes written value) (begins : early <+: written) :
    readQuoted early = none := by
  obtain ⟨rest, rfl⟩ := begins
  cases read : readQuoted early with
  | none => rfl
  | some found =>
    -- A quote that closes the beginning would close the whole text there as well.
    obtain ⟨part, other, rfl⟩ := readQuoted_eq_some_iff.mp read
    have whole := denotes.read []
    rw [List.append_assoc, List.append_assoc, List.cons_append, other.read] at whole
    simp at whole

/-- There is one way to read a text up to a quote. -/
theorem Denotes.unique {written' value' after' : List Char} (denotes : Denotes written value)
    (other : Denotes written' value') (same : written ++ '"' :: after = written' ++ '"' :: after') :
    written = written' ∧ value = value' ∧ after = after' := by
  have read := denotes.read after
  rw [same, other.read, Option.some.injEq, Prod.mk.injEq] at read
  obtain ⟨rfl, rfl⟩ := read
  exact ⟨List.append_cancel_right same, rfl, rfl⟩

end Reading

section Quoting

theorem toList_quoteValue (value : String) :
    (quoteValue value).toList = value.toList.flatMap quoteChar :=
  String.toList_ofList

/-- Backslashes are doubled first, and then a backslash is put before every quote. -/
theorem quoteValue_eq_replace (value : String) :
    quoteValue value = replace "\"" "\\\"" (replace "\\" "\\\\" value) := by
  have slash : "\\".toList = ['\\'] := rfl
  have mark : "\"".toList = ['"'] := rfl
  apply String.toList_inj.mp
  rw [toList_quoteValue, toList_replace mark, toList_replace slash, List.flatMap_assoc]
  refine congrArg value.toList.flatMap ?_
  funext c
  rw [quoteChar]
  -- The second replacement adds backslashes, and none of them is doubled any more.
  by_cases backslash : c = '\\'
  · subst backslash
    decide
  · by_cases quote : c = '"'
    · subst quote
      decide
    · simp [backslash, quote]

-- In the other order the backslash before a quote would be doubled, and the quote end the text.
example :
    readQuoted (replace "\\" "\\\\" (replace "\"" "\\\"" "\"") ++ "\"]").toList =
      some (['\\'], ['"', ']']) := by
  decide +kernel

theorem denotes_quoteChar (c : Char) (behind : Denotes written value) :
    Denotes (quoteChar c ++ written) (c :: value) := by
  rw [quoteChar]
  split
  · exact .escaped c behind
  · next apart =>
    obtain ⟨unescaped, unquoted⟩ := not_or.mp apart
    exact .plain unquoted unescaped behind

theorem denotes_quoteValue (value : String) : Denotes (quoteValue value).toList value.toList := by
  rw [toList_quoteValue]
  induction value.toList with
  | nil => exact .nothing
  | cons c rest ih =>
    rw [List.flatMap_cons]
    exact denotes_quoteChar c ih

theorem quoteValue_inj {value other : String} :
    quoteValue value = quoteValue other ↔ value = other := by
  constructor
  · intro same
    have denotes := denotes_quoteValue value
    rw [same] at denotes
    obtain ⟨-, read, -⟩ := denotes.unique (denotes_quoteValue other) (Eq.refl (_ ++ ['"']))
    exact String.toList_inj.mp read
  · intro same
    rw [same]

end Quoting

/-- What stands around the quotes in the selectors of a kind. The other kinds do not quote. -/
def frame? : LocatorKind → Option (String × String)
  | .id => some ("[id=", "]")
  | .name => some ("[name=", "]")
  | .linkText => some ("a:text-is(", ")")
  | .partialLinkText => some ("a:has-text(", ")")
  | .css | .xpath | .tagName | .className => none

theorem toList_selector (framed : frame? locator.kind = some (front, back)) :
    locator.selector.toList =
      front.toList ++ '"' :: ((quoteValue locator.value).toList ++ '"' :: back.toList) := by
  obtain ⟨kind, value⟩ := locator
  cases kind <;> cases framed <;> simp [selector]

theorem unquoted_of_framed {kind : LocatorKind} (framed : frame? kind = some (front, back)) :
    '"' ∉ front.toList ∧ '"' ∉ back.toList := by
  cases kind <;> cases framed <;> decide

/-- The selector of a locator holds its value between quotes, with a front before and a back behind
them. -/
structure Encloses (locator : ResolvedLocator) (front back : String) : Prop where
  spelled : locator.selector.toList =
    front.toList ++ '"' :: ((quoteValue locator.value).toList ++ '"' :: back.toList)
  escaped : quoteValue locator.value = replace "\"" "\\\"" (replace "\\" "\\\\" locator.value)
  /-- The quote that opens is the first one of the selector. -/
  opens : '"' ∉ front.toList
  reads : readQuoted ((quoteValue locator.value).toList ++ '"' :: back.toList) =
    some (locator.value.toList, back.toList)
  /-- Cut off anywhere before the quote that closes, the text is not closed. -/
  unclosed : ∀ early, early <+: (quoteValue locator.value).toList → readQuoted early = none
  only : ∀ written value after, Denotes written value →
    (quoteValue locator.value).toList ++ '"' :: back.toList = written ++ '"' :: after →
    written = (quoteValue locator.value).toList ∧ value = locator.value.toList ∧ after = back.toList
  /-- The quote that closes is the last one of the selector. -/
  closes : '"' ∉ back.toList

theorem encloses_of_framed (framed : frame? locator.kind = some (front, back)) :
    locator.Encloses front back where
  spelled := toList_selector framed
  escaped := quoteValue_eq_replace locator.value
  opens := (unquoted_of_framed framed).1
  reads := (denotes_quoteValue locator.value).read back.toList
  unclosed _ begins := (denotes_quoteValue locator.value).unclosed begins
  only _ _ _ denotes same := denotes.unique (denotes_quoteValue locator.value) same.symm
  closes := (unquoted_of_framed framed).2

theorem selector_inj {kind : LocatorKind} {value other : String} :
    selector ⟨kind, value⟩ = selector ⟨kind, other⟩ ↔ value = other := by
  cases kind <;> simp [selector, quoteValue_inj]

/-- What the selector of a locator tells of its value. -/
structure TellsValue (locator : ResolvedLocator) : Prop where
  quoted : ∀ front back, frame? locator.kind = some (front, back) → locator.Encloses front back
  apart : ∀ other : ResolvedLocator, other.kind = locator.kind → other.value ≠ locator.value →
    other.selector ≠ locator.selector

/-- A selector that quotes its value denotes just that, whatever the value is, and no kind has one selector
for two values. -/
theorem tellsValue_selector (locator : ResolvedLocator) : locator.TellsValue where
  quoted _ _ framed := encloses_of_framed framed
  apart := by
    rintro ⟨_, other⟩ rfl different
    exact mt selector_inj.mp different

-- Neither a quote in a value nor a backslash at its end takes the place of the quote that closes.
example : selector ⟨.name, "a\"] \\"⟩ = "[name=\"a\\\"] \\\\\"]" := by
  decide +kernel

end PageContracts.ResolvedLocator
