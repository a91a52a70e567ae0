import PageContracts.Contract.Class
import PageContracts.Text.Names

/-! # Signatures

Which names may be bound, and which rows of parameters may be declared: every name once, by
position before by name alone, optional ones behind required ones, and the one that takes all
surplus names last.
-/
namespace PageContracts

namespace Names

/-- The names that are bound already and for good. -/
def unbindable : List String := ["__debug__"]

/-- Whether something may be bound to a name. -/
def isBindable (name : String) : Bool :=
  isName name.toList && !reservedWords.contains name && !unbindable.contains (normalForm name)

end Names

namespace Signature

/-- What the parameters read so far leave open to those that follow. -/
structure Progress where
  names : List String := [DeclaredFunction.receiverName]
  /-- A parameter that may be left out has been read. -/
  optional : Bool := false
  /-- Positions are used up. -/
  byName : Bool := false
  /-- Nothing may follow. -/
  closed : Bool := false
  deriving Repr, Inhabited

namespace Progress

/-- Whether a parameter of a kind may follow. -/
def allows (progress : Progress) (parameter : Parameter) : Bool :=
  match parameter.kind with
  | .positional => progress.byName || !progress.optional || parameter.default.isSome
  | .positionalOnly => !progress.byName && (!progress.optional || parameter.default.isSome)
  | .keywordOnly => true
  | .surplusPositions => !progress.byName && parameter.default.isNone
  | .surplusNames => parameter.default.isNone

/-- Read one more parameter. -/
def admit? (progress : Progress) (parameter : Parameter) : Option Progress := do
  let name := Names.normalForm parameter.name
  guard (Names.isBindable parameter.name && !progress.names.contains name)
  guard (!progress.closed && progress.allows parameter)
  return {
    names := name :: progress.names
    optional := progress.optional || parameter.default.isSome
    byName := progress.byName || parameter.kind = .keywordOnly ||
      parameter.kind = .surplusPositions
    closed := parameter.kind = .surplusNames }

end Progress

/-- Whether a row of parameters may be declared. -/
def isValid (parameters : List Parameter) : Bool :=
  (parameters.foldlM Progress.admit? {}).isSome

end Signature

/-- A parameter with its name in normal form. -/
def Parameter.normal (parameter : Parameter) : Parameter :=
  { parameter with
    name := Names.normalForm parameter.name
    typed := Names.isNormal parameter.name }

namespace DeclaredFunction

/-- Whether a function may be declared as it is. Its own name may be any text. -/
def isValid (f : DeclaredFunction) : Bool :=
  Signature.isValid f.parameters

/-- The parameters in front of one that is given by position alone are given so too. -/
def fixPositions : List Parameter → List Parameter
  | [] => []
  | parameter :: rest =>
    let kind :=
      if parameter.kind = .positional && hasPositionalOnly rest then .positionalOnly
      else parameter.kind
    { parameter with kind } :: fixPositions rest

/-- The parameters behind the positions are given by name. -/
def fixNames (byName : Bool) : List Parameter → List Parameter
  | [] => []
  | parameter :: rest =>
    let kind := if byName && parameter.kind = .positional then .keywordOnly else parameter.kind
    let byName := byName || kind = .keywordOnly || kind = .surplusPositions
    { parameter with kind } :: fixNames byName rest

/-- A function with the names of its parameters in normal form, and with the kinds that they have
because of one another. -/
def normal (f : DeclaredFunction) : DeclaredFunction :=
  { f with parameters := fixNames false (fixPositions (f.parameters.map Parameter.normal)) }

end DeclaredFunction
end PageContracts
