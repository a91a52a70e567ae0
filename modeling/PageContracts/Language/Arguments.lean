import PageContracts.Language.Meaning

/-! # Arguments

What is given to a function of the language: by position, and by name.
-/
namespace PageContracts.Language

/-- What is given to a function. -/
structure Arguments where
  positions : List Meaning := []
  named : List (String × Meaning) := []
  deriving Repr, Inhabited

namespace Arguments

/-- The failure of arguments that a function cannot take. -/
def refused {α : Type} : Except Failure α :=
  Meaning.misuse "wrong number of arguments, or an argument of the wrong type"

/-- What is given without the memory it is held in. -/
def bare (given : Arguments) : Arguments :=
  { positions := given.positions.map Meaning.bare
    named := given.named.map fun (name, item) => (name, item.bare) }

/-- Require that nothing is given by name. -/
def unnamed (given : Arguments) : Except Failure (List Meaning) :=
  if given.named.isEmpty then .ok given.positions else refused

/-- The arguments by the names of parameters, each of which gets one at most. -/
def byName (given : Arguments) (parameters : List String) :
    Except Failure (List (String × Meaning)) :=
  let positions := parameters.zip given.positions
  let known := given.named.all fun entry =>
    parameters.contains entry.1 && (positions.lookup entry.1).isNone
  if parameters.length < given.positions.length || !known then refused
  else .ok (positions ++ given.named)

/-- Require that the only arguments given by name are some known ones. -/
def onlyNamed (given : Arguments) (names : List String) : Except Failure Unit :=
  if given.named.all fun entry => names.contains entry.1 then .ok () else refused

/-- Require a whole number. -/
def integer (item : Meaning) : Except Failure Int :=
  match item.integer? with
  | some i => .ok i
  | none => Meaning.misuse "object cannot be interpreted as an integer"

/-- A whole number, or one that stands for nothing given. -/
def integerOr (standard : Int) : Option Meaning → Except Failure Int
  | none => .ok standard
  | some item => integer item

/-- Require a text. -/
def textual (item : Meaning) : Except Failure String :=
  match item.text? with
  | some text => .ok text
  | none => Meaning.misuse "must be str"

/-- Require a size: a whole number within the range of sizes. -/
def sized (item : Meaning) : Except Failure Int := do
  let i ← integer item
  if Nat.pow 2 63 ≤ i.natAbs then throw (.breach .overflow "int too large to convert to a size")
  return i

end Arguments
end PageContracts.Language
