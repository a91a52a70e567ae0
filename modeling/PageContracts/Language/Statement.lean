import PageContracts.Language.Parser

/-! # Statements

What a text says that is carried out line by line: names are bound, changed and removed, conditions
required, functions and classes made. A line may hold several statements with semicolons between them,
and what belongs to a line that ends with a colon stands behind it or is indented below it.
-/
namespace PageContracts.Language

/-- A statement. -/
inductive Statement where
  | plain (expression : Expression)
  /-- Targets that all get what an expression means. -/
  | assigned (goals : List Expression) (value : Expression)
  /-- A target that gets what a sign makes of it and what an expression means. -/
  | changed (sign : String) (goal value : Expression)
  | removed (goals : List Expression)
  | required (condition : Expression)
  /-- A failure that is raised. -/
  | failing (failure : Option Expression)
  /-- Modules, each with the name it is bound to. -/
  | loaded (modules : List (String × String))
  /-- What a module has under names, each with the name it is bound to. -/
  | taken (from' : String) (names : List (String × String))
  | function (name : String) (parameters : List (String × ParameterKind × Option Expression))
      (body : Expression)
  | newClass (name : String) (bases : List Expression) (body : List Statement)
  | conditional (condition : Expression) (body : List Statement)
  | repeated (goal source : Expression) (body : List Statement)
  | idle
  deriving Repr, Inhabited

/-- A part of a text that holds one statement, or the first line of one. -/
structure Clause where
  text : List Char
  /-- Whether it is the first one of its line. -/
  leads : Bool
  deriving Repr, Inhabited

namespace Clause

/-- Whether a clause is indented. -/
def isIndented (clause : Clause) : Bool :=
  clause.leads && ((clause.text.head?).map fun c => c = ' ' || c = '\t').getD false

/-- Whether a clause holds nothing. -/
def isBlank (clause : Clause) : Bool :=
  clause.text.all (" \t\x0c".contains ·)

/-- The quotation mark a text starts with. -/
def quoteAt? (text : List Char) : Option (List Char) :=
  ["\"\"\"", "'''", "\"", "'"].map String.toList |>.find? fun mark => mark.isPrefixOf text

/-- The clauses of a text. `closing` is the mark that closes the quotation the place is in, `done` what
has been read of the clause, backwards. The fuel is more than the length of the text. -/
def split : Nat → Option (List Char) → Nat → List Char → Bool → List Char → List Clause
  | 0, _, _, done, leads, _ => [⟨done.reverse, leads⟩]
  | _, _, _, done, leads, [] => [⟨done.reverse, leads⟩]
  | fuel + 1, some closing, depth, done, leads, c :: rest =>
    if c = '\\' then
      split fuel (some closing) depth ((rest.take 1).reverse ++ c :: done) leads (rest.drop 1)
    else if closing.isPrefixOf (c :: rest) then
      split fuel none depth (closing.reverse ++ done) leads ((c :: rest).drop closing.length)
    else split fuel (some closing) depth (c :: done) leads rest
  | fuel + 1, none, depth, done, leads, c :: rest =>
    match quoteAt? (c :: rest) with
    | some mark =>
      split fuel (some mark) depth (mark.reverse ++ done) leads ((c :: rest).drop mark.length)
    | none =>
      if c = '#' then split fuel none depth done leads (rest.dropWhile (· ≠ '\n'))
      else if c = '\n' && depth = 0 then
        ⟨done.reverse, leads⟩ :: split fuel none 0 [] true rest
      else if c = ';' && depth = 0 then
        ⟨done.reverse, leads⟩ :: split fuel none 0 [] false rest
      else
        let depth :=
          if "([\x7b".contains c then depth + 1
          else if ")]\x7d".contains c then depth - 1
          else depth
        split fuel none depth (c :: done) leads rest

/-- The clauses of a text that hold something. -/
def ofText (text : String) : List Clause :=
  let characters := Characters.unifyLineEnds text.toList
  (split (characters.length + 1) none 0 [] true characters).filter fun clause => !clause.isBlank

/-- Each clause with the indented ones below it. -/
def grouped : List Clause → List (Clause × List Clause)
  | [] => []
  | first :: rest =>
    match grouped rest with
    | [] => [(first, [])]
    | (next, below) :: others =>
      if next.isIndented then (first, next :: below) :: others
      else (first, []) :: (next, below) :: others

end Clause

namespace Statement

open Parser

/-- Whether something can be bound to what an expression spells. -/
def isGoal : Expression → Bool
  | .name label => Names.isBindable label
  | .dotted .. => true
  | .item .. => true
  | .tuple items => areGoals items
  | .list items => areGoals items
  | .spread items => isGoal items
  | _ => false
where
  /-- Whether something can be bound to each of some expressions. -/
  areGoals : List Expression → Bool
    | [] => true
    | first :: rest => isGoal first && areGoals rest

/-- Run a reader on all of some tokens. -/
def whole? {α : Type} (parser : Parser α) (tokens : List Token) : Option α := do
  let (result, rest) ← parser.run tokens
  guard rest.isEmpty
  return result

/-- The signs that may stand in front of the sign that binds. -/
def changing : List String := ["**", "//", "<<", ">>", "+", "-", "*", "/", "%", "&", "|", "^", "@"]

/-- A sign in front of the sign that binds, with the tokens before and behind both. -/
def changeIn? (before : List Token) : List Token → Option (List Token × String × List Token)
  | .sign sign :: .sign "=" :: rest =>
    if changing.contains sign then some (before.reverse, sign, rest)
    else changeIn? (.sign sign :: before) (.sign "=" :: rest)
  | first :: rest => changeIn? (first :: before) rest
  | [] => none

/-- Read rows of expressions with binding signs between them; the last one first. -/
def chain (reading : Nat) : Nat → List Expression → Parser (List Expression)
  | 0, _ => fail
  | fuel + 1, before => do
    let next ← row reading
    if ← sign? "=" then
      require (isGoal next)
      chain reading fuel (next :: before)
    else return next :: before

/-- Read a name of a module, with points in it. -/
def moduleName : Nat → Parser String
  | 0 => fail
  | fuel + 1 => do
    let first ← someName
    if ← sign? "." then return first ++ "." ++ (← moduleName fuel) else return first

/-- Read names, each with the one it is bound to. -/
def bindings (standard : String → String) : Nat → Parser (List (String × String))
  | 0 => fail
  | fuel + 1 => do
    let name ← moduleName fuel
    let bound ← if ← word? "as" then target else pure (standard name)
    if ← sign? "," then return (name, bound) :: (← bindings standard fuel)
    else return [(name, bound)]

/-- The part of a name in front of its first point. -/
def topOf (name : String) : String :=
  String.ofList (name.toList.takeWhile (· ≠ '.'))

/-- Read a statement that has no other inside. The fuel is enough to read any expression in it. -/
def simple (fuel : Nat) : Parser Statement := do
  if ← word? "pass" then return .idle
  if ← word? "del" then
    let goals :=
      match ← row fuel with
      | .tuple items => items
      | item => [item]
    require (goals.all isGoal)
    return .removed goals
  if ← word? "assert" then
    let condition ← expression fuel
    if ← sign? "," then let _ ← expression fuel
    return .required condition
  if ← word? "raise" then
    if (← get).isEmpty then return .failing none
    let failure ← expression fuel
    if ← word? "from" then let _ ← expression fuel
    return .failing (some failure)
  if ← word? "import" then return .loaded (← bindings topOf fuel)
  if ← word? "from" then
    let from' ← moduleName fuel
    expectWord "import"
    return .taken from' (← bindings id fuel)
  match changeIn? [] (← get) with
  | some (before, sign, behind) =>
    set ([] : List Token)
    let goal ← (whole? (row fuel) before : Option Expression)
    require (isGoal goal && !(goal matches .tuple _) && !(goal matches .list _))
    return .changed sign goal (← (whole? (row fuel) behind : Option Expression))
  | none =>
    match ← chain fuel fuel [] with
    | [value] =>
      if ← sign? ":" then
        require (isGoal value)
        let _ ← expression fuel
        if ← sign? "=" then return .assigned [value] (← row fuel) else return .idle
      return .plain value
    | value :: goals => return .assigned goals.reverse value
    | [] => fail

/-- The tokens up to a bracket that closes, and those behind it. -/
def upToClosing : Nat → List Token → List Token → Option (List Token × List Token)
  | _, _, [] => none
  | depth, before, token :: rest =>
    if [")", "]", "\x7d"].any token.isSign then
      if depth = 0 then some (before.reverse, rest)
      else upToClosing (depth - 1) (token :: before) rest
    else if ["(", "[", "\x7b"].any token.isSign then upToClosing (depth + 1) (token :: before) rest
    else upToClosing depth (token :: before) rest

/-- What a function gives whose body is a statement. -/
def resultOf (fuel : Nat) (body : List Token) : Option Expression :=
  let none' := Expression.constant .none
  match body with
  | [.word "return"] => some none'
  | .word "return" :: rest => whole? (row fuel) rest
  | .word "yield" :: rest =>
    whole? (atom fuel) ((.sign "(" :: .word "yield" :: rest) ++ [.sign ")"])
  | body =>
    match whole? (simple fuel) body with
    | some .idle => some none'
    | some (.plain value) => some (.both (.tuple [value]) none')
    | _ => none

/-- A statement that has others inside, from its tokens up to the colon and behind it, and the lines
below. -/
def compound? (fuel : Nat) (tokens : List Token) (below : List (List Token)) : Option Statement := do
  let body (inline : List Token) : Option (List Statement) :=
    if inline.isEmpty then if below.isEmpty then none else below.mapM (whole? (simple fuel))
    else if below.isEmpty then (whole? (simple fuel) inline).map ([·])
    else none
  match tokens with
  | .word "def" :: .name name :: .sign "(" :: rest =>
    let (inside, rest) ← upToClosing 0 [] rest
    let (parameters, left) ← (parameters fuel [] .positional).run (inside ++ [.sign ":"])
    guard (left.length = 1)
    match rest, below with
    | .sign ":" :: [], [one] => return .function name parameters (← resultOf fuel one)
    | .sign ":" :: inline, [] => return .function name parameters (← resultOf fuel inline)
    | _, _ => none
  | .word "class" :: .name name :: .sign ":" :: rest => return .newClass name [] (← body rest)
  | .word "class" :: .name name :: .sign "(" :: rest =>
    let (inside, rest) ← upToClosing 0 [] rest
    let bases ← whole? (arguments fuel []) (inside ++ [.sign ")"])
    match rest with
    | .sign ":" :: rest => return .newClass name bases (← body rest)
    | _ => none
  | .word "if" :: rest =>
    let (condition, rest) ← (bindable fuel).run rest
    match rest with
    | .sign ":" :: rest => return .conditional condition (← body rest)
    | _ => none
  | .word "for" :: rest =>
    let (found, rest) ← (loops fuel).run (.word "for" :: rest)
    match found, rest with
    | [.each goal source []], .sign ":" :: rest => return .repeated goal source (← body rest)
    | _, _ => none
  | _ => none

/-- The words that statements start with that have others inside. -/
def openers : List String := ["class", "def", "for", "if"]

/-- The statement of a clause and the indented ones below it. -/
def ofClauses? (fuel : Nat) (clause : Clause) (below : List Clause) : Option Statement := do
  let tokens ← Token.row? (String.ofList clause.text)
  if openers.any fun word => ((tokens.head?).map fun token => token.isWord word).getD false then
    let below ← below.mapM fun clause =>
      Token.row? (String.ofList (clause.text.dropWhile fun c => c = ' ' || c = '\t'))
    compound? fuel tokens below
  else
    guard below.isEmpty
    whole? (simple fuel) tokens

/-- The statements of a text. -/
def ofText? (text : String) : Option (List Statement) :=
  let clauses := (Clause.ofText text).map fun clause =>
    if clause.leads then clause
    else { clause with text := clause.text.dropWhile fun c => c = ' ' || c = '\t' }
  if ((clauses.head?).map Clause.isIndented).getD false then none
  else (Clause.grouped clauses).mapM fun (clause, below) =>
    ofClauses? (16 * (text.length + 4)) clause below

end Statement
end PageContracts.Language
