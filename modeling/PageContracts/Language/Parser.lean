import PageContracts.Contract.Signature
import PageContracts.Language.Expression

/-! # Reading expressions

Expressions are read from tokens, level by level: what binds least is read first. Every reader gets
less fuel than the one that calls it.
-/
namespace PageContracts.Language

/-- Reading from tokens, which may fail. -/
abbrev Parser (α : Type) : Type :=
  StateT (List Token) Option α

namespace Parser

/-- Give up. -/
def fail {α : Type} : Parser α := fun _ => none

/-- Go on only if something holds. -/
def require (holds : Bool) : Parser Unit :=
  if holds then return () else fail

/-- Pass over a sign if it is next; the result tells whether it was. -/
def sign? (sign : String) : Parser Bool := do
  match ← get with
  | token :: rest =>
    if token.isSign sign then
      set rest
      return true
    else return false
  | [] => return false

/-- Pass over a word of the language if it is next; the result tells whether it was. -/
def word? (word : String) : Parser Bool := do
  match ← get with
  | token :: rest =>
    if token.isWord word then
      set rest
      return true
    else return false
  | [] => return false

/-- Pass over a sign that must be next. -/
def expect (sign : String) : Parser Unit := do
  require (← sign? sign)

/-- Pass over a word that must be next. -/
def expectWord (word : String) : Parser Unit := do
  require (← word? word)

/-- Whether one of some signs is next, left where it is. -/
def atSign (signs : List String) : Parser Bool := do
  return ((← get).head?.map fun token => signs.any token.isSign).getD false

/-- Whether a word is next, left where it is. -/
def atWord (word : String) : Parser Bool := do
  return ((← get).head?.map fun token => token.isWord word).getD false

/-- Pass over the first of some signs that is next. -/
def anySign? : List String → Parser (Option String)
  | [] => return none
  | sign :: rest => do
    if ← sign? sign then return some sign else anySign? rest

/-- Read a name: of a parameter, or behind a point. -/
def someName : Parser String := do
  match ← get with
  | .name name :: rest =>
    set rest
    return name
  | _ => fail

/-- Read a name that something is bound to. -/
def target : Parser String := do
  let name ← someName
  require (Names.isBindable name)
  return name

/-- Pass over a name with a sign behind it, if they are next; the result is the name. -/
def label? (sign : String) : Parser (Option String) := do
  match ← get with
  | .name name :: token :: rest =>
    if token.isSign sign then
      require (Names.isBindable name)
      set rest
      return some name
    else return none
  | _ => return none

/-- Whether a name with the sign that binds it is next. -/
def atBinding : Parser Bool := do
  match ← get with
  | .name _ :: token :: _ => return token.isSign ":="
  | _ => return false

/-- The signs that join two operands, the ones that bind least first. -/
def binaryLevels : List (List String) :=
  [["|"], ["^"], ["&"], ["<<", ">>"], ["+", "-"], ["*", "/", "//", "%", "@"]]

/-- Pass over a comparison if one is next. -/
def comparison? : Parser (Option String) := do
  match ← anySign? ["==", "!=", "<=", ">=", "<", ">"] with
  | some sign => return some sign
  | none =>
    if ← word? "in" then return some "in"
    else if ← word? "is" then
      if ← word? "not" then return some "is not" else return some "is"
    else if ((← get).take 2).map (fun token => (token.isWord "not", token.isWord "in")) =
        [(true, false), (false, true)] then
      modify fun tokens => tokens.drop 2
      return some "not in"
    else return none

/-- Bytes that stand next to each other are one row. -/
def moreBytes (bytes : List UInt8) : List Token → Option (List UInt8 × List Token)
  | .bytes more :: rest => moreBytes (bytes ++ more) rest
  | .quotation _ :: _ => none
  | .template _ :: _ => none
  | rest => some (bytes, rest)

/-- Texts that stand next to each other, written out or put together. -/
def textTokens : List Token → List Token × List Token
  | .quotation text :: rest =>
    let (texts, rest) := textTokens rest
    (.quotation text :: texts, rest)
  | .template parts :: rest =>
    let (texts, rest) := textTokens rest
    (.template parts :: texts, rest)
  | rest => ([], rest)

/-- The text of texts that are all written out. -/
def writtenOut? : List Token → Option String
  | [] => some ""
  | .quotation text :: rest => (writtenOut? rest).map (text ++ ·)
  | _ => none

/-- Read a constant or a name. -/
def leaf : Parser Expression := do
  match ← get with
  | .name name :: rest =>
    set rest
    return .name name
  | .number value :: rest =>
    set rest
    return .constant value
  | .imaginary x :: rest =>
    set rest
    return .imaginary x
  | .bytes bytes :: rest =>
    match moreBytes bytes rest with
    | some (bytes, rest) =>
      set rest
      return .constant (.bytes bytes)
    | none => fail
  | .word word :: rest =>
    set rest
    if word = "None" then return .constant .none
    else if word = "True" then return .constant (.bool true)
    else if word = "False" then return .constant (.bool false)
    else fail
  | .sign "..." :: rest =>
    set rest
    return .constant (.other "ellipsis" "Ellipsis")
  | _ => fail

/-- The parameters read so far of a function without a name. -/
abbrev Parameters : Type := List (String × ParameterKind × Option Expression)

/-- Whether a parameter may follow others: names come once, optional positions last, and nothing
behind the one that takes all surplus names. -/
def mayFollow (before : Parameters) (next : String × ParameterKind × Option Expression) : Bool :=
  before.all (fun known => known.1 ≠ next.1 && known.2.1 ≠ .surplusNames) &&
    (next.2.1 ≠ .positional || next.2.2.isSome ||
      before.all fun known => known.2.1 = .surplusPositions || known.2.2.isNone)

/-- Parameters all of which are given by position alone. -/
def byPosition (parameters : Parameters) : Parameters :=
  parameters.map fun parameter => (parameter.1, .positionalOnly, parameter.2.2)

/-- The names of arguments that are given by name. -/
def namesOf (arguments : List Expression) : List String :=
  arguments.filterMap fun
    | .named name _ => some name
    | _ => none

/-- Whether an argument may follow others: no position behind a name, and neither a position nor
spread out items behind spread out entries. -/
def argumentMayFollow (before : List Expression) (next : Expression) : Bool :=
  let hasNames := before.any fun
    | .named .. => true
    | _ => false
  let hasEntries := before.any fun
    | .spreadEntries _ => true
    | _ => false
  match next with
  | .named name _ => !(namesOf before).contains name
  | .spreadEntries _ => true
  | .spread _ => !hasEntries
  | _ => !hasNames && !hasEntries

mutual

/-- Read an expression. -/
def expression : Nat → Parser Expression
  | 0 => fail
  | fuel + 1 => do
    if ← word? "lambda" then
      let parameters ← parameters fuel [] .positional
      expect ":"
      return .anonymous parameters (← expression fuel)
    let value ← disjunction fuel
    if ← word? "if" then
      let condition ← disjunction fuel
      expectWord "else"
      return .conditional condition value (← expression fuel)
    else return value

/-- Read an expression that may also be bound to a name. -/
def bindable : Nat → Parser Expression
  | 0 => fail
  | fuel + 1 => do
    match ← label? ":=" with
    | some name => return .bound name (← expression fuel)
    | none => expression fuel

/-- Read the parameters of a function without a name up to the colon, which is left where it is.
`kind` is that of the next parameter. -/
def parameters : Nat → Parameters → ParameterKind → Parser Parameters
  | 0, _, _ => fail
  | fuel + 1, before, kind => do
    if ← atSign [":"] then return before
    let more (before : Parameters) (kind : ParameterKind) : Parser Parameters := do
      if ← sign? "," then parameters fuel before kind
      else
        require (← atSign [":"])
        return before
    if ← sign? "/" then
      require (kind = .positional && !before.isEmpty &&
        before.all fun known => known.2.1 = .positional)
      more (byPosition before) .positional
    else if ← sign? "**" then
      let next := (← target, ParameterKind.surplusNames, none)
      require (mayFollow before next)
      more (before ++ [next]) kind
    else if ← sign? "*" then
      require (kind = .positional)
      if ← sign? "," then
        require (!(← atSign [":", "*", "**", "/"]))
        parameters fuel before .keywordOnly
      else
        let next := (← target, ParameterKind.surplusPositions, none)
        require (mayFollow before next)
        more (before ++ [next]) .keywordOnly
    else
      let name ← target
      let default ← if ← sign? "=" then (expression fuel).map some else pure none
      let next := (name, kind, default)
      require (mayFollow before next)
      more (before ++ [next]) kind

/-- Read operands joined by `or`. -/
def disjunction : Nat → Parser Expression
  | 0 => fail
  | fuel + 1 => do
    let first ← conjunction fuel
    if ← word? "or" then return .either first (← disjunction fuel)
    else return first

/-- Read operands joined by `and`. -/
def conjunction : Nat → Parser Expression
  | 0 => fail
  | fuel + 1 => do
    let first ← inversion fuel
    if ← word? "and" then return .both first (← conjunction fuel)
    else return first

/-- Read an operand that may be negated. -/
def inversion : Nat → Parser Expression
  | 0 => fail
  | fuel + 1 => do
    if ← word? "not" then return .unary "not" (← inversion fuel)
    else
      let first ← binary fuel binaryLevels
      match ← comparisons fuel with
      | [] => return first
      | others => return .comparison first others

/-- Read comparisons behind their first operand. -/
def comparisons : Nat → Parser (List (String × Expression))
  | 0 => fail
  | fuel + 1 => do
    match ← comparison? with
    | none => return []
    | some sign =>
      let operand ← binary fuel binaryLevels
      return (sign, operand) :: (← comparisons fuel)

/-- Read operands joined by the signs of some levels. -/
def binary : Nat → List (List String) → Parser Expression
  | 0, _ => fail
  | fuel + 1, [] => factor fuel
  | fuel + 1, signs :: levels => do binaryRest fuel signs levels (← binary fuel levels)

/-- Read further operands of one level behind the first ones. -/
def binaryRest : Nat → List String → List (List String) → Expression → Parser Expression
  | 0, _, _, _ => fail
  | fuel + 1, signs, levels, left => do
    match ← anySign? signs with
    | none => return left
    | some sign =>
      let right ← binary fuel levels
      binaryRest fuel signs levels (.binary sign left right)

/-- Read an operand with signs in front of it, or a power. -/
def factor : Nat → Parser Expression
  | 0 => fail
  | fuel + 1 => do
    match ← anySign? ["+", "-", "~"] with
    | some sign => return .unary sign (← factor fuel)
    | none =>
      let base ← trailers fuel (← atom fuel)
      if ← sign? "**" then return .binary "**" base (← factor fuel) else return base

/-- Read what stands behind an operand: attributes, parts and arguments. -/
def trailers : Nat → Expression → Parser Expression
  | 0, _ => fail
  | fuel + 1, base => do
    if ← sign? "." then trailers fuel (.dotted base (← someName))
    else if ← sign? "[" then
      let first ← indexPart fuel
      match ← indexParts fuel, first with
      | none, .spread item => trailers fuel (.item base (.tuple [.spread item]))
      | none, first => trailers fuel (.item base first)
      | some others, first => trailers fuel (.item base (.tuple (first :: others)))
    else if ← sign? "(" then
      let arguments ← arguments fuel []
      trailers fuel (.call base arguments)
    else return base

/-- Read one part of what stands in brackets behind an operand. -/
def indexPart : Nat → Parser Expression
  | 0 => fail
  | fuel + 1 => do
    if ← sign? "*" then return .spread (← binary fuel binaryLevels)
    if ← atSign [":"] then sliceRest fuel none
    else
      let isBinding ← atBinding
      let first ← bindable fuel
      if ← atSign [":"] then
        require (!isBinding)
        sliceRest fuel (some first)
      else return first

/-- Read further parts of what stands in brackets, and the closing one; `none` when no comma stands
behind the first part. -/
def indexParts : Nat → Parser (Option (List Expression))
  | 0 => fail
  | fuel + 1 => do
    if ← sign? "]" then return none
    expect ","
    if ← sign? "]" then return some []
    let first ← indexPart fuel
    return some (first :: (← indexParts fuel).getD [])

/-- Read the rest of a slice behind its start. -/
def sliceRest : Nat → Option Expression → Parser Expression
  | 0, _ => fail
  | fuel + 1, start => do
    expect ":"
    let bound : Parser (Option Expression) := do
      if ← atSign [":", "]", ","] then return none else (expression fuel).map some
    let stop ← bound
    if ← sign? ":" then return .slice start stop (← bound) else return .slice start stop none

/-- Read arguments behind those read before, and the closing bracket. -/
def arguments : Nat → List Expression → Parser (List Expression)
  | 0, _ => fail
  | fuel + 1, before => do
    if ← sign? ")" then return before
    let next ← argument fuel
    if ← atWord "for" then
      require before.isEmpty
      let made ← made fuel "" next
      expect ")"
      return [made]
    require (argumentMayFollow before next)
    if ← sign? "," then arguments fuel (before ++ [next])
    else
      expect ")"
      return before ++ [next]

/-- Read an argument. -/
def argument : Nat → Parser Expression
  | 0 => fail
  | fuel + 1 => do
    if ← sign? "*" then return .spread (← expression fuel)
    if ← sign? "**" then return .spreadEntries (← expression fuel)
    match ← label? "=" with
    | some name => return .named name (← expression fuel)
    | none => bindable fuel

/-- Read what stands on its own: a constant, a name, or something in brackets. -/
def atom : Nat → Parser Expression
  | 0 => fail
  | fuel + 1 => do
    if ← sign? "(" then
      if ← sign? ")" then return .tuple []
      if ← word? "yield" then return ← yielded fuel
      let first ← member fuel
      if ← atWord "for" then
        let made ← made fuel "" first
        expect ")"
        return made
      if ← sign? ")" then
        require (!(first matches .spread _))
        return first
      return .tuple (first :: (← members fuel ")"))
    else if ← sign? "[" then
      if ← sign? "]" then return .list []
      let first ← member fuel
      if ← atWord "for" then
        let made ← made fuel "list" first
        expect "]"
        return made
      if ← sign? "]" then return .list [first]
      return .list (first :: (← members fuel "]"))
    else if ← sign? "\x7b" then
      if ← sign? "\x7d" then return .map []
      if ← atSign ["**"] then return .map (← entries fuel)
      let isBinding ← atBinding
      let first ← member fuel
      if ← atSign [":"] then
        require (!isBinding && !(first matches .spread _))
        expect ":"
        let value ← expression fuel
        if ← atWord "for" then
          let made ← made fuel "map" (.tuple [first, value])
          expect "\x7d"
          return made
        if ← sign? "\x7d" then return .map [(first, value)]
        expect ","
        return .map ((first, value) :: (← entries fuel))
      if ← atWord "for" then
        let made ← made fuel "set" first
        expect "\x7d"
        return made
      if ← sign? "\x7d" then return .set [first]
      return .set (first :: (← members fuel "\x7d"))
    else
      match textTokens (← get) with
      | ([], _) => leaf
      | (texts, rest) =>
        require (!(rest.head? matches some (.bytes _)))
        set rest
        match writtenOut? texts with
        | some text => return .constant (.text text)
        | none => return .template (← texts.flatMapM (written fuel))

/-- Read what a function gives before it goes on, behind the word for that, and the closing bracket. -/
def yielded : Nat → Parser Expression
  | 0 => fail
  | fuel + 1 => do
    if ← word? "from" then
      let row ← expression fuel
      expect ")"
      return .givenFrom row
    if ← sign? ")" then return .given none
    let first ← member fuel
    if ← sign? ")" then
      require (!(first matches .spread _))
      return .given (some first)
    return .given (some (.tuple (first :: (← members fuel ")"))))

/-- The parts of a text as expressions. -/
def written : Nat → Token → Parser (List Expression)
  | 0, _ => fail
  | fuel + 1, token =>
    match token with
    | .quotation text => return [.constant (.text text)]
    | .template parts => parts.mapM (filled fuel)
    | _ => fail

/-- A part of a text as an expression. -/
def filled : Nat → TemplatePart → Parser Expression
  | 0, _ => fail
  | fuel + 1, part => do
    match part with
    | .text text => return .constant (.text text)
    | .field text conversion layout =>
      let tokens ← (Token.row? ("(" ++ text ++ ")") : Option (List Token))
      let (of, rest) ← ((atom fuel).run tokens : Option (Expression × List Token))
      require rest.isEmpty
      match layout with
      | none => return .field of conversion none
      | some parts =>
        return .field of conversion (some (.template (← parts.mapM (filled fuel))))

/-- Read a member of a row. -/
def member : Nat → Parser Expression
  | 0 => fail
  | fuel + 1 => do
    if ← sign? "*" then return .spread (← binary fuel binaryLevels) else bindable fuel

/-- Read further members behind a comma up to the closing bracket, and that one too. -/
def members : Nat → String → Parser (List Expression)
  | 0, _ => fail
  | fuel + 1, closing => do
    if ← sign? closing then return []
    expect ","
    if ← sign? closing then return []
    let first ← member fuel
    return first :: (← members fuel closing)

/-- Read map entries up to the closing brace, and that one too. -/
def entries : Nat → Parser (List (Expression × Expression))
  | 0 => fail
  | fuel + 1 => do
    if ← sign? "\x7d" then return []
    let first ←
      if ← sign? "**" then
        let entries ← binary fuel binaryLevels
        pure (Expression.spreadEntries entries, entries)
      else
        let key ← expression fuel
        expect ":"
        pure (key, ← expression fuel)
    if ← sign? "," then return first :: (← entries fuel)
    else
      expect "\x7d"
      return [first]

/-- Read the loops behind the item of a row that is made item by item. -/
def made : Nat → String → Expression → Parser Expression
  | 0, _, _ => fail
  | fuel + 1, form, item => do
    require (!(item matches .spread _) && !(item matches .spreadEntries _) &&
      !(item matches .named ..))
    let loops ← loops fuel
    require (Expression.isMakeable item loops && !(Expression.made form item loops).yields)
    return .made form item loops

/-- Read the loops of a row that is made item by item. -/
def loops : Nat → Parser (List Expression)
  | 0 => fail
  | fuel + 1 => do
    if ← word? "for" then
      let first ← loopTarget fuel
      let goal ←
        if ← atSign [","] then do pure (Expression.tuple (first :: (← moreTargets fuel)))
        else
          require (!(first matches .spread _))
          pure first
      expectWord "in"
      let source ← disjunction fuel
      let conditions ← conditions fuel
      return .each goal source conditions :: (← loops fuel)
    else return []

/-- Read what takes the items of a loop. -/
def loopTarget : Nat → Parser Expression
  | 0 => fail
  | fuel + 1 => do
    if ← sign? "*" then
      let goal ← loopTarget fuel
      require (!(goal matches .spread _))
      return .spread goal
    else if ← sign? "(" then
      if ← sign? ")" then return .tuple []
      let first ← loopTarget fuel
      if ← atSign [","] then
        let others ← moreTargets fuel
        expect ")"
        return .tuple (first :: others)
      else
        expect ")"
        require (!(first matches .spread _))
        return first
    else if ← sign? "[" then
      if ← sign? "]" then return .tuple []
      let first ← loopTarget fuel
      let others ← moreTargets fuel
      expect "]"
      return .tuple (first :: others)
    else return .name (← target)

/-- Read further targets behind a comma. -/
def moreTargets : Nat → Parser (List Expression)
  | 0 => fail
  | fuel + 1 => do
    if ← sign? "," then
      if (← atWord "in") || (← atSign [")", "]"]) then return []
      let first ← loopTarget fuel
      return first :: (← moreTargets fuel)
    else return []

/-- Read the conditions of a loop. -/
def conditions : Nat → Parser (List Expression)
  | 0 => fail
  | fuel + 1 => do
    if ← word? "if" then
      let first ← disjunction fuel
      return first :: (← conditions fuel)
    else return []

end

/-- Read further expressions behind a comma, up to the end. -/
def others : Nat → Parser (List Expression)
  | 0 => fail
  | fuel + 1 => do
    if (← get).isEmpty then return []
    let first ← expression fuel
    if ← sign? "," then return first :: (← others fuel) else return [first]

/-- Read a row of expressions without brackets. -/
def row (fuel : Nat) : Parser Expression := do
  let first ← expression fuel
  if ← sign? "," then return .tuple (first :: (← others fuel)) else return first

end Parser

/-- The expression a text spells. Between the start of an operand and its first token lie fewer
than sixteen steps. -/
def Expression.ofText? (text : String) : Option Expression := do
  let tokens ← Token.row? text
  let (expression, rest) ← (Parser.row (16 * (text.length + 4))).run tokens
  guard (rest.isEmpty && !expression.yields)
  return expression

end PageContracts.Language
