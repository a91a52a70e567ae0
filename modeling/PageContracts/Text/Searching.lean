import PageContracts.Text.Cases

/-! # Searching and splitting texts

Where a part occurs in a text, a text cut at a separator, at blanks or at its line ends, and a text
with its parts replaced or filled up.
-/
namespace PageContracts.Characters

/-- The first place at which a part occurs in a text. -/
def place? (part : List Char) (text : List Char) : Option Nat :=
  (List.range (text.length + 1)).find? fun i => part.isPrefixOf (text.drop i)

/-- The last place at which a part occurs in a text. -/
def lastPlace? (part : List Char) (text : List Char) : Option Nat :=
  (place? part.reverse text.reverse).map fun i => text.length - part.length - i

/-- A text cut at a separator that is not empty, at most as often as a limit says; `piece` is what
has been read since the last separator, its last character first. The fuel is more than the length
of the text. -/
def cutAt (separator : List Char) : Nat → Option Nat → List Char → List Char → List (List Char)
  | 0, _, piece, text => [piece.reverse ++ text]
  | _, some 0, piece, text => [piece.reverse ++ text]
  | _, _, piece, [] => [piece.reverse]
  | fuel + 1, limit, piece, c :: rest =>
    if separator.isPrefixOf (c :: rest) then
      piece.reverse ::
        cutAt separator fuel (limit.map (· - 1)) [] ((c :: rest).drop separator.length)
    else cutAt separator fuel limit (c :: piece) rest

/-- The pieces of a text between occurrences of a separator that is not empty. -/
def pieces (separator : List Char) (limit : Option Nat) (text : List Char) : List (List Char) :=
  cutAt separator (text.length + 1) limit [] text

/-- The pieces of a text, cut from its end on. -/
def piecesFromEnd (separator : List Char) (limit : Option Nat) (text : List Char) :
    List (List Char) :=
  ((pieces separator.reverse limit text.reverse).map List.reverse).reverse

/-- The words of a text, at most as many as a limit says and what follows them. The fuel is more than
the length of the text. -/
def wordsBy (blank : Char → Bool) : Nat → Option Nat → List Char → List (List Char)
  | 0, _, _ => []
  | fuel + 1, limit, text =>
    match text.dropWhile blank with
    | [] => []
    | rest =>
      if limit = some 0 then [rest]
      else
        rest.takeWhile (fun c => !blank c) ::
          wordsBy blank fuel (limit.map (· - 1)) (rest.dropWhile fun c => !blank c)

/-- The words of a text. -/
def words (blank : Char → Bool) (limit : Option Nat) (text : List Char) : List (List Char) :=
  wordsBy blank (text.length + 1) limit text

/-- The words of a text, counted from its end on. -/
def wordsFromEnd (blank : Char → Bool) (limit : Option Nat) (text : List Char) :
    List (List Char) :=
  ((words blank limit text.reverse).map List.reverse).reverse

/-- The lines of a text; `line` is what has been read of one, its last character first. -/
def linesBy (ends : Char → Bool) (keep : Bool) (line : List Char) : List Char → List (List Char)
  | [] => if line.isEmpty then [] else [line.reverse]
  | '\r' :: '\n' :: rest =>
    ((if keep then '\n' :: '\r' :: line else line).reverse) :: linesBy ends keep [] rest
  | c :: rest =>
    if ends c then (if keep then c :: line else line).reverse :: linesBy ends keep [] rest
    else linesBy ends keep (c :: line) rest

/-- A text joined of several with a separator between them. -/
def joined (separator : List Char) : List (List Char) → List Char
  | [] => []
  | [only] => only
  | first :: rest => first ++ separator ++ joined separator rest

/-- A text with a part put between its characters, at most as often as a limit says. -/
def interspersed (part : List Char) : Option Nat → List Char → List Char
  | some 0, text => text
  | _, [] => part
  | limit, c :: rest => part ++ c :: interspersed part (limit.map (· - 1)) rest

/-- A text with a part replaced, at most as often as a limit says. -/
def replaced (old new : List Char) (limit : Option Nat) (text : List Char) : List Char :=
  if old.isEmpty then interspersed new limit text
  else joined new (pieces old limit text)

/-- How often a part occurs in a text, never counting a character twice. -/
def occurrences (part text : List Char) : Nat :=
  if part.isEmpty then text.length + 1 else (pieces part none text).length - 1

/-- A text with blanks in the place of tabs; `column` is the place in the line. -/
def untabbed (size : Nat) (column : Nat) : List Char → List Char
  | [] => []
  | '\t' :: rest =>
    let room := if size = 0 then 0 else size - column % size
    List.replicate room ' ' ++ untabbed size (column + room) rest
  | c :: rest =>
    c :: untabbed size (if c = '\n' || c = '\r' then 0 else column + 1) rest

/-- A number with zeros behind its sign. -/
def zeroFilled (width : Nat) (text : List Char) : List Char :=
  let zeros := List.replicate (width - text.length) '0'
  match text with
  | '+' :: rest => '+' :: (zeros ++ rest)
  | '-' :: rest => '-' :: (zeros ++ rest)
  | text => zeros ++ text

/-- A text in the middle of a field. -/
def centered (width : Nat) (filler : Char) (text : List Char) : List Char :=
  let room := width - text.length
  let left := room / 2 + (if room % 2 = 1 && width % 2 = 1 then 1 else 0)
  List.replicate left filler ++ text ++ List.replicate (room - left) filler

end PageContracts.Characters
