import PageContracts.Contract.Class
import PageContracts.Language.Token

/-! # Expressions

What may stand in the place of a type: mostly a name, a name with types in brackets, or a choice
between types, but any other expression as well.
-/
namespace PageContracts.Language

/-- An expression. Some of them only have a meaning as parts of others: what is spread out among
items, what is given by name, what a row is made of for each item of another. -/
inductive Expression where
  | name (name : String)
  | constant (value : Value)
  | imaginary (x : Binary64)
  | tuple (items : List Expression)
  | list (items : List Expression)
  | set (items : List Expression)
  | map (entries : List (Expression × Expression))
  /-- A text that is put together from parts. -/
  | template (parts : List Expression)
  /-- An expression filled into a text, with its conversion and its layout. -/
  | field (of : Expression) (conversion : Option Char) (layout : Option Expression)
  /-- A part of something, chosen by what stands in brackets. -/
  | item (base index : Expression)
  | slice (start stop step : Option Expression)
  | dotted (base : Expression) (name : String)
  | call (function : Expression) (arguments : List Expression)
  /-- All items of something, in the place of one. -/
  | spread (items : Expression)
  /-- All entries of a map, in the place of one. -/
  | spreadEntries (entries : Expression)
  /-- An argument given by name. -/
  | named (name : String) (value : Expression)
  /-- A value that is also bound to a name. -/
  | bound (name : String) (value : Expression)
  | both (left right : Expression)
  | either (left right : Expression)
  | binary (sign : String) (left right : Expression)
  /-- A row of comparisons, which holds when each of them does. -/
  | comparison (first : Expression) (others : List (String × Expression))
  | unary (sign : String) (operand : Expression)
  | conditional (condition ifTrue ifFalse : Expression)
  /-- A function without a name. -/
  | anonymous (parameters : List (String × ParameterKind × Option Expression))
      (body : Expression)
  /-- What a function gives before it goes on. -/
  | given (value : Option Expression)
  /-- What a function gives one by one before it goes on. -/
  | givenFrom (row : Expression)
  /-- What a row is made of for each item of `source` that meets the conditions. -/
  | each (target source : Expression) (conditions : List Expression)
  /-- A row, set or map made item by item; without a form of its own, one whose items are made when
  they are asked for. -/
  | made (form : String) (item : Expression) (loops : List Expression)
  deriving Repr, Inhabited

namespace Expression

mutual

/-- The names that an expression binds where it stands. A function without a name binds its own. -/
def binds : Expression → List String
  | .bound label value => label :: binds value
  | .tuple items => bindsAll items
  | .list items => bindsAll items
  | .set items => bindsAll items
  | .map entries => bindsPairs entries
  | .template parts => bindsAll parts
  | .field of _ layout => binds of ++ bindsMaybe layout
  | .item base index => binds base ++ binds index
  | .slice start stop step => bindsMaybe start ++ bindsMaybe stop ++ bindsMaybe step
  | .dotted base _ => binds base
  | .call function arguments => binds function ++ bindsAll arguments
  | .spread items => binds items
  | .spreadEntries entries => binds entries
  | .named _ value => binds value
  | .both left right => binds left ++ binds right
  | .either left right => binds left ++ binds right
  | .binary _ left right => binds left ++ binds right
  | .comparison first others => binds first ++ bindsSigned others
  | .unary _ operand => binds operand
  | .conditional condition ifTrue ifFalse => binds condition ++ binds ifTrue ++ binds ifFalse
  | .anonymous parameters _ => bindsDefaults parameters
  | .given value => bindsMaybe value
  | .givenFrom row => binds row
  | .each target source conditions => binds target ++ binds source ++ bindsAll conditions
  | .made _ of loops => binds of ++ bindsAll loops
  | _ => []

/-- The names that some expressions bind. -/
def bindsAll : List Expression → List String
  | [] => []
  | first :: rest => binds first ++ bindsAll rest

/-- The names that the operands of comparisons bind. -/
def bindsSigned : List (String × Expression) → List String
  | [] => []
  | (_, operand) :: rest => binds operand ++ bindsSigned rest

/-- The names that map entries bind. -/
def bindsPairs : List (Expression × Expression) → List String
  | [] => []
  | (key, value) :: rest => binds key ++ binds value ++ bindsPairs rest

/-- The names that the defaults of parameters bind. -/
def bindsDefaults : List (String × ParameterKind × Option Expression) → List String
  | [] => []
  | (_, _, default) :: rest => bindsMaybe default ++ bindsDefaults rest

/-- The names that an expression binds, if there is one. -/
def bindsMaybe : Option Expression → List String
  | none => []
  | some expression => binds expression

end

mutual

/-- Whether the body of a function gives its results one by one. A function without a name has a body of
its own. -/
def yields : Expression → Bool
  | .given _ => true
  | .givenFrom _ => true
  | .bound _ value => yields value
  | .tuple items => yieldAny items
  | .list items => yieldAny items
  | .set items => yieldAny items
  | .map entries => yieldPairs entries
  | .template parts => yieldAny parts
  | .field of _ layout => yields of || yieldMaybe layout
  | .item base index => yields base || yields index
  | .slice start stop step => yieldMaybe start || yieldMaybe stop || yieldMaybe step
  | .dotted base _ => yields base
  | .call function arguments => yields function || yieldAny arguments
  | .spread items => yields items
  | .spreadEntries entries => yields entries
  | .named _ value => yields value
  | .both left right => yields left || yields right
  | .either left right => yields left || yields right
  | .binary _ left right => yields left || yields right
  | .comparison first others => yields first || yieldSigned others
  | .unary _ operand => yields operand
  | .conditional condition ifTrue ifFalse => yields condition || yields ifTrue || yields ifFalse
  | .anonymous parameters _ => yieldDefaults parameters
  | .each target source conditions => yields target || yields source || yieldAny conditions
  | .made _ of loops => yields of || yieldAny loops
  | _ => false

/-- Whether one of some expressions gives something before it goes on. -/
def yieldAny : List Expression → Bool
  | [] => false
  | first :: rest => yields first || yieldAny rest

/-- Whether one of some operands gives something before it goes on. -/
def yieldSigned : List (String × Expression) → Bool
  | [] => false
  | (_, operand) :: rest => yields operand || yieldSigned rest

/-- Whether an expression gives something before it goes on, if there is one. -/
def yieldMaybe : Option Expression → Bool
  | none => false
  | some expression => yields expression

/-- Whether the defaults of parameters give something before they go on. -/
def yieldDefaults : List (String × ParameterKind × Option Expression) → Bool
  | [] => false
  | (_, _, default) :: rest => yieldMaybe default || yieldDefaults rest

/-- Whether one of some map entries gives something before it goes on. -/
def yieldPairs : List (Expression × Expression) → Bool
  | [] => false
  | (key, value) :: rest => yields key || yields value || yieldPairs rest

end

/-- The names that a target stands for. -/
def targets : Expression → List String
  | .name label => [label]
  | .tuple items => targetsAll items
  | .list items => targetsAll items
  | .spread items => targets items
  | _ => []
where
  /-- The names that some targets stand for. -/
  targetsAll : List Expression → List String
    | [] => []
    | first :: rest => targets first ++ targetsAll rest

/-- Whether a loop may stand in a row that is made item by item. What it goes through binds no
names. -/
def isLoop : Expression → Bool
  | .each _ source _ => (binds source).isEmpty
  | _ => false

/-- Whether a row may be made item by item: its item and its conditions bind none of the names that
go through the items. -/
def isMakeable (of : Expression) (loops : List Expression) : Bool :=
  let through := loops.flatMap fun
    | .each target _ _ => targets target
    | _ => []
  let inside := binds of ++ loops.flatMap fun
    | .each _ _ conditions => bindsAll conditions
    | _ => []
  loops.all isLoop && inside.all fun label => !through.contains label

end Expression
end PageContracts.Language
