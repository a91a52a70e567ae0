import PageContracts.Proofs.Extension

/-! # Texts before a template

Setting a text before a template moves its conversions. That changes nothing but what is told of one
that means nothing, as long as the text has no percent sign: then the text stands in front of what the
template is filled to. A percent sign in the text is read as one of the template. It takes an argument
away from what stands behind, or it makes the text shorter. -/
namespace PageContracts

open Runs

namespace Runs

variable {ε α γ : Type}

theorem toOption_bind (result : Except ε α) (next : α → Except ε γ) :
    (result >>= next).toOption = result.toOption.bind fun a => (next a).toOption := by
  cases result <;> rfl

theorem toOption_map (f : α → γ) (result : Except ε α) :
    (result.map f).toOption = result.toOption.map f := by
  cases result <;> rfl

theorem toOption_eq_some {result : Except ε α} {a : α} :
    result.toOption = some a ↔ result = .ok a := by
  cases result <;> simp [Except.toOption]

end Runs

namespace Template

/-- A conversion without the position of its letter. -/
def Conversion.unplaced (read : Conversion) : Conversion :=
  { read with letter := read.letter.map fun (letter, _) => (letter, 0) }

/-- A piece without the position it has in its template. -/
def Piece.unplaced : Piece → Piece
  | .conversion read => .conversion read.unplaced
  | piece => piece

/-- Whether reading one more character has come to the same, but for the position of a letter. -/
inductive Progress.Alike : Progress → Progress → Prop
  | more (stage : Stage) (read : Conversion) : Alike (.more stage read) (.more stage read)
  | done {read onward : Conversion} (same : read.unplaced = onward.unplaced) :
      Alike (.done read) (.done onward)

section Positions

variable {stage : Stage} {read : Conversion} {index other : Nat} {c : Char}

theorem Progress.Alike.refl : (progress : Progress) → Alike progress progress
  | .more stage read => .more stage read
  | .done _ => .done rfl

theorem afterPrecision_alike (read : Conversion) (index other : Nat) (c : Char) :
    (afterPrecision read index c).Alike (afterPrecision read other c) := by
  unfold afterPrecision
  split
  · exact .refl _
  · exact .done rfl

theorem afterWidth_alike (read : Conversion) (index other : Nat) (c : Char) :
    (afterWidth read index c).Alike (afterWidth read other c) := by
  unfold afterWidth
  split
  · exact .refl _
  · exact afterPrecision_alike read index other c

theorem readMore_alike (stage : Stage) (read : Conversion) (index other : Nat) (c : Char) :
    (readMore stage read index c).Alike (readMore stage read other c) := by
  cases stage with
  | flags =>
    simp only [readMore]
    split
    · exact .refl _
    · split
      · exact .refl _
      · split
        · exact .refl _
        · exact afterWidth_alike read index other c
  | width =>
    simp only [readMore]
    split
    · exact .refl _
    · exact afterWidth_alike read index other c
  | widthDone => exact afterWidth_alike read index other c
  | precisionStart =>
    simp only [readMore]
    split
    · exact .refl _
    · split
      · exact .refl _
      · exact afterPrecision_alike read index other c
  | precision =>
    simp only [readMore]
    split
    · exact .refl _
    · exact afterPrecision_alike read index other c
  | precisionDone => exact afterPrecision_alike read index other c
  | letter => exact .done rfl

theorem readMore_of_more {next : Stage} {onward : Conversion}
    (h : readMore stage read index c = .more next onward) (other : Nat) :
    readMore stage read other c = .more next onward := by
  have alike := readMore_alike stage read index other c
  rw [h] at alike
  generalize readMore stage read other c = progress at alike
  cases alike
  rfl

theorem readMore_of_done {onward : Conversion} (h : readMore stage read index c = .done onward)
    (other : Nat) : ∃ moved, readMore stage read other c = .done moved ∧
      onward.unplaced = moved.unplaced := by
  have alike := readMore_alike stage read index other c
  rw [h] at alike
  generalize readMore stage read other c = progress at alike
  cases alike with
  | done same => exact ⟨_, rfl, same⟩

/-- What is read of a template does not depend on where it begins. -/
theorem unplaced_piecesFrom (place : Place) (index other : Nat) (rest : List Char) :
    (piecesFrom place index rest).map Piece.unplaced =
      (piecesFrom place other rest).map Piece.unplaced := by
  induction place, index, rest using piecesFrom.induct generalizing other with
  | case1 index => rfl
  | case2 index rest ih =>
    rw [piecesFrom, if_pos rfl, piecesFrom, if_pos rfl]
    exact ih _
  | case3 index c rest apart ih =>
    rw [piecesFrom, if_neg apart, piecesFrom, if_neg apart, List.map_cons, List.map_cons, ih]
  | case4 index => rfl
  | case5 index rest ih =>
    rw [piecesFrom, if_pos rfl, piecesFrom, if_pos rfl, List.map_cons, List.map_cons, ih]
  | case6 index rest apart => rfl
  | case7 index c rest apart bracket next onward more ih =>
    simp only [piecesFrom, if_neg apart, if_neg bracket, more, readMore_of_more more other]
    exact ih _
  | case8 index c rest apart bracket onward done ih =>
    obtain ⟨moved, done', same⟩ := readMore_of_done done other
    simp only [piecesFrom, if_neg apart, if_neg bracket, done, done', List.map_cons,
      Piece.unplaced, same]
    rw [ih]
  | case9 stage read index => rfl
  | case10 stage read index c rest next onward more ih =>
    simp only [piecesFrom, more, readMore_of_more more other]
    exact ih _
  | case11 stage read index c rest onward done ih =>
    obtain ⟨moved, done', same⟩ := readMore_of_done done other
    simp only [piecesFrom, done, done', List.map_cons, Piece.unplaced, same]
    rw [ih]

/-- The position of a letter is told only of one that means nothing. -/
theorem toOption_convert (flags : Flags) (precision : Option Int) (letter : Char) (index other : Nat)
    (value : Value) : (convert flags precision letter index value).toOption =
      (convert flags precision letter other value).toOption := by
  unfold convert
  repeat' split
  all_goals rfl

theorem toOption_applyConversion (read : Conversion) (arguments : List Value) :
    (applyConversion read.unplaced arguments).toOption =
      (applyConversion read arguments).toOption := by
  obtain ⟨flags, width, precision, letter⟩ := read
  cases letter with
  | none => rfl
  | some placed =>
    obtain ⟨letter, index⟩ := placed
    simp only [applyConversion, Conversion.unplaced, Option.map_some, toOption_bind]
    congr 1
    funext ⟨width, arguments⟩
    congr 1
    funext ⟨precision, arguments⟩
    cases arguments with
    | nil => rfl
    | cons value rest =>
      simp only [toOption_bind]
      rw [toOption_convert flags precision letter 0 index value]

theorem toOption_fillPieces (pieces : List Piece) (arguments : List Value) :
    (fillPieces (pieces.map Piece.unplaced) arguments).toOption =
      (fillPieces pieces arguments).toOption := by
  induction pieces generalizing arguments with
  | nil => rfl
  | cons piece pieces ih =>
    cases piece with
    | named => rfl
    | literal c =>
      simp only [List.map_cons, Piece.unplaced, fillPieces, toOption_bind, ih]
    | conversion read =>
      simp only [List.map_cons, Piece.unplaced, fillPieces, toOption_bind, toOption_applyConversion,
        ih]

theorem filled_at (place : Place) (index other : Nat) (rest : List Char) (arguments : List Value) :
    (fillPieces (piecesFrom place index rest) arguments).toOption =
      (fillPieces (piecesFrom place other rest) arguments).toOption := by
  rw [← toOption_fillPieces, unplaced_piecesFrom place index other, toOption_fillPieces]

end Positions

section Fronts

variable {arguments : List Value} {front behind text url : List Char}

theorem piecesFrom_bare (bare : '%' ∉ front) (index : Nat) (behind : List Char) :
    piecesFrom .text index (front ++ behind) =
      front.map .literal ++ piecesFrom .text (index + front.length) behind := by
  have read : piecesFrom .text index front = front.map .literal := by
    rw [← piecesFrom_doubled index front, doubled_of_apart bare]
  have complete : AllComplete (piecesFrom .text index front) := by
    rw [read]
    intro piece listed
    obtain ⟨c, -, rfl⟩ := List.mem_map.mp listed
    trivial
  rw [piecesFrom_append .text index front behind trivial complete, read]

theorem fillPieces_literals (front : List Char) (pieces : List Piece) (arguments : List Value) :
    fillPieces (front.map .literal ++ pieces) arguments =
      (fillPieces pieces arguments).map (front ++ ·) := by
  induction front with
  | nil => cases filled : fillPieces pieces arguments <;> simp [filled, Except.map]
  | cons c rest ih =>
    rw [List.map_cons, List.cons_append, fillPieces, ih]
    cases fillPieces pieces arguments <;> rfl

/-- A text without percent signs stands as it is before what a template is filled to. -/
theorem filled_behind_bare (bare : '%' ∉ front) (behind : List Char) (arguments : List Value) :
    (fillPieces (piecesFrom .text 0 (front ++ behind)) arguments).toOption =
      (fillPieces (piecesFrom .text 0 behind) arguments).toOption.map (front ++ ·) := by
  rw [piecesFrom_bare bare, fillPieces_literals, toOption_map, filled_at .text _ 0]

/-- A text that takes no argument is shown no longer than it is, and shorter if there is a percent sign
in it of which nothing has been read. -/
def Place.Shrinks (front shown : List Char) : Place → Prop
  | .text => shown.length ≤ front.length ∧ ('%' ∈ front → shown.length < front.length)
  | _ => shown.length ≤ front.length

theorem Place.Shrinks.le {place : Place} {shown : List Char} (h : place.Shrinks front shown) :
    shown.length ≤ front.length := by
  cases place with
  | text => exact h.1
  | _ => exact h

/-- A slash is no letter of a conversion. -/
theorem slash_unfillable (read : Conversion) (index : Nat) (pieces : List Piece) :
    fillPieces (.conversion { read with letter := some ('/', index) } :: pieces) arguments ≠
      .ok text := by
  intro h
  obtain ⟨⟨shown, rest⟩, applied, -⟩ := except_bind_eq_ok.mp h
  obtain ⟨⟨width, later⟩, -, applied⟩ := except_bind_eq_ok.mp applied
  obtain ⟨⟨precision, last⟩, -, applied⟩ := except_bind_eq_ok.mp applied
  cases last with
  | nil => cases applied
  | cons value more =>
    obtain ⟨converted, conversed, -⟩ := except_bind_eq_ok.mp applied
    cases conversed

theorem readMore_slash (stage : Stage) (read : Conversion) (index : Nat) :
    readMore stage read index '/' = .done { read with letter := some ('/', index) } := by
  cases stage <;> rfl

/-- What stands behind a text is reached with fewer arguments than there were before it, or with the
same ones, the text being shown with its percent signs halved. -/
def Place.Reaches (front behind : List Char) (arguments : List Value) (text : List Char)
    (place : Place) : Prop :=
  ∃ position shown left more,
    fillPieces (piecesFrom .text position behind) left = .ok more ∧ text = shown ++ more ∧
      (left.length < arguments.length ∨ left = arguments ∧ place.Shrinks front shown)

section Reaching

variable {place next : Place} {c : Char} {rest : List Char}

theorem Place.Reaches.onward (first : List Char) (h : next.Reaches rest behind arguments text)
    (shrinks : ∀ shown, next.Shrinks rest shown → place.Shrinks (c :: rest) (first ++ shown)) :
    place.Reaches (c :: rest) behind arguments (first ++ text) := by
  obtain ⟨position, shown, left, more, filled, rfl, fewer | ⟨rfl, short⟩⟩ := h
  · exact ⟨position, first ++ shown, left, more, filled, (List.append_assoc ..).symm, .inl fewer⟩
  · exact ⟨position, first ++ shown, left, more, filled, (List.append_assoc ..).symm,
      .inr ⟨rfl, shrinks shown short⟩⟩

/-- A conversion takes an argument, so what stands behind it has fewer. -/
theorem Place.Reaches.of_conversion {read : Conversion} {pieces : List Piece}
    (filled : fillPieces (.conversion read :: pieces) arguments = .ok text)
    (h : ∀ {arguments text}, fillPieces pieces arguments = .ok text →
      Place.text.Reaches rest behind arguments text) :
    place.Reaches (c :: rest) behind arguments text := by
  obtain ⟨⟨first, later⟩, applied, filled⟩ := except_bind_eq_ok.mp filled
  obtain ⟨more, filling, ended⟩ := except_bind_eq_ok.mp filled
  cases ended
  have taken := (complete_of_applied applied).2
  rw [Conversion.demand] at taken
  obtain ⟨position, shown, left, more, reached, rfl, fewer⟩ := h filling
  refine ⟨position, first ++ shown, left, more, reached, (List.append_assoc ..).symm, .inl ?_⟩
  rcases fewer with fewer | ⟨rfl, -⟩ <;> omega

end Reaching

theorem reaches_of_filled (place : Place) (index : Nat) (front : List Char)
    (filled : fillPieces (piecesFrom place index (front ++ '/' :: behind)) arguments = .ok text) :
    place.Reaches front ('/' :: behind) arguments text := by
  induction place, index, front using piecesFrom.induct generalizing arguments text with
  | case1 index =>
    have short : Place.text.Shrinks [] [] :=
      ⟨Nat.le_refl _, fun listed => (List.not_mem_nil listed).elim⟩
    exact ⟨index, [], arguments, text, filled, rfl, .inr ⟨rfl, short⟩⟩
  | case2 index rest ih =>
    rw [List.cons_append, piecesFrom, if_pos rfl] at filled
    refine (ih filled).onward [] fun shown shrinks => ?_
    have shorter := Nat.lt_succ_of_le shrinks.le
    exact ⟨Nat.le_of_lt shorter, fun _ => shorter⟩
  | case3 index c rest apart ih =>
    rw [List.cons_append, piecesFrom, if_neg apart] at filled
    obtain ⟨tail, filling, ended⟩ := except_bind_eq_ok.mp filled
    cases ended
    refine (ih filling).onward [c] fun shown shrinks => ⟨Nat.succ_le_succ shrinks.1, ?_⟩
    intro listed
    rcases List.mem_cons.mp listed with rfl | listed
    · exact absurd rfl apart
    · exact Nat.succ_lt_succ (shrinks.2 listed)
  -- where the front ends within a conversion, the slash behind it is taken for the letter
  | case4 index => exact absurd filled (slash_unfillable {} index _)
  | case5 index rest ih =>
    rw [List.cons_append, piecesFrom, if_pos rfl] at filled
    obtain ⟨tail, filling, ended⟩ := except_bind_eq_ok.mp filled
    cases ended
    exact (ih filling).onward ['%'] fun shown shrinks => Nat.succ_le_succ shrinks.le
  | case6 index rest apart => cases filled
  | case7 index c rest apart bracket next onward more ih =>
    simp only [List.cons_append, piecesFrom, if_neg apart, if_neg bracket, more] at filled
    exact (ih filled).onward [] fun shown shrinks => Nat.le_succ_of_le shrinks.le
  | case8 index c rest apart bracket onward done ih =>
    simp only [List.cons_append, piecesFrom, if_neg apart, if_neg bracket, done] at filled
    exact .of_conversion filled ih
  | case9 stage read index =>
    simp only [List.nil_append, piecesFrom, readMore_slash] at filled
    exact absurd filled (slash_unfillable read index _)
  | case10 stage read index c rest next onward more ih =>
    simp only [List.cons_append, piecesFrom, more] at filled
    exact (ih filled).onward [] fun shown shrinks => Nat.le_succ_of_le shrinks.le
  | case11 stage read index c rest onward done ih =>
    simp only [List.cons_append, piecesFrom, done] at filled
    exact .of_conversion filled ih

/-- A text with a percent sign never stands as it is before what a template is filled to. -/
theorem filled_behind_percent (percent : '%' ∈ front)
    (together : fillPieces (piecesFrom .text 0 (front ++ '/' :: behind)) arguments = .ok text)
    (alone : fillPieces (piecesFrom .text 0 ('/' :: behind)) arguments = .ok url) :
    text ≠ front ++ url := by
  obtain ⟨position, shown, left, more, filled, rfl, fewer⟩ := reaches_of_filled .text 0 front together
  rw [← toOption_eq_some, filled_at .text position 0, toOption_eq_some] at filled
  -- Both have been filled with all the arguments there were, and a template takes a fixed number.
  have count := (complete_of_filled filled).2.symm.trans (complete_of_filled alone).2
  rcases fewer with fewer | ⟨rfl, -, shorter⟩
  · omega
  · obtain rfl : more = url := Except.ok.inj (filled.symm.trans alone)
    intro same
    have longer := congrArg List.length same
    have short := shorter percent
    rw [List.length_append, List.length_append] at longer
    omega

end Fronts

end Template
end PageContracts
