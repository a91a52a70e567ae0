import PageContracts.Text.FormEncoding
import PageContracts.Text.Quoted

/-! # Query parameters

An ordered list of name and value pairs, and its form in a URL. Adding never changes the list it
is given.
-/
namespace PageContracts

/-- Query parameters in the order they were added; names may repeat. -/
structure QueryParams where
  pairs : List (String × String) := []
  deriving DecidableEq, Repr, Inhabited

namespace QueryParams

/-- No parameters. -/
def empty : QueryParams := {}

/-- The parameters followed by one pair. -/
def push (params : QueryParams) (name value : String) : QueryParams :=
  ⟨params.pairs ++ [(name, value)]⟩

/-- The parameters followed by others. -/
def append (params others : QueryParams) : QueryParams :=
  ⟨params.pairs ++ others.pairs⟩

/-- One pair as it stands in a URL. -/
def pairText (pair : String × String) : String :=
  FormEncoding.encode pair.1 ++ "=" ++ FormEncoding.encode pair.2

/-- The query string. -/
def text (params : QueryParams) : String :=
  String.intercalate "&" (params.pairs.map pairText)

/-- The parameters as messages show them. -/
def display (params : QueryParams) : String :=
  "QueryParams(" ++ Quoted.quoted params.text ++ ")"

/-- Whether there is any parameter. -/
def nonempty (params : QueryParams) : Bool :=
  !params.pairs.isEmpty

/-- Read one piece of a query string: the text before the first `=` and the text after it. -/
def readPair? (piece : List Char) : Option (String × String) := do
  let name ← FormEncoding.decode? (String.ofList (piece.takeWhile (· ≠ '=')))
  let value ← FormEncoding.decode? (String.ofList ((piece.dropWhile (· ≠ '=')).drop 1))
  return (name, value)

/-- Read a query string back; the empty text holds no pair. -/
def read? (text : String) : Option QueryParams :=
  if text.toList.isEmpty then some empty
  else ((Characters.splitOn '&' text.toList).mapM readPair?).map QueryParams.mk

end QueryParams
end PageContracts
