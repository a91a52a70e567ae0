import PageContracts.Number.Reading
import PageContracts.Text.CharacterNames
import PageContracts.Text.Quoted

/-! # Escapes

What a backslash and what follows it stand for: a character by a letter of its own, by its number or
by its name.
-/
namespace PageContracts.Escapes

/-- The characters that single letters behind a backslash stand for. -/
def letters : List (Char × Char) :=
  [('\\', '\\'), ('\'', '\''), ('"', '"'), ('a', '\x07'), ('b', '\x08'), ('f', '\x0c'),
    ('n', '\n'), ('r', '\r'), ('t', '\t'), ('v', '\x0b')]

/-- The numbers of hexadecimal digits behind letters behind a backslash; only the first counts in
bytes. -/
def codeLengths (inBytes : Bool) : List (Char × Nat) :=
  if inBytes then [('x', 2)] else [('x', 2), ('u', 4), ('U', 8)]

/-- The character that a given number of hexadecimal digits at the front of a text tells. -/
def coded? (length : Nat) (text : List Char) : Option (Char × List Char) :=
  let digits := text.take length
  let code := Reading.digitsValue 16 0 digits
  if digits.length = length && digits.all (Reading.isDigitOf 16) && code < 0x110000 then
    some (Char.ofNat code, text.drop length)
  else none

/-- What an escape stands for, and what follows it. -/
def escape? (inBytes : Bool) (text : List Char) : Option (List Char × List Char) :=
  match text with
  | [] => none
  | '\n' :: rest => some ([], rest)
  | 'N' :: rest =>
    if inBytes then some (['\\', 'N'], rest)
    else
      match rest with
      | '\x7b' :: rest => do
        let name := rest.takeWhile (· ≠ '\x7d')
        guard (name.length < rest.length)
        return ([← CharacterNames.character? (String.ofList name)], rest.drop (name.length + 1))
      | _ => none
  | c :: rest =>
    match letters.lookup c, (codeLengths inBytes).lookup c with
    | some meaning, _ => some ([meaning], rest)
    | none, some length => (coded? length rest).map fun (c, rest) => ([c], rest)
    | none, none =>
      let octal := (text.takeWhile (Reading.isDigitOf 8)).take 3
      if octal.isEmpty then some (['\\', c], rest)
      else
        let code := Reading.digitsValue 8 0 octal
        some ([Char.ofNat (if inBytes then code % 0x100 else code)], text.drop octal.length)

/-- A text with its escapes replaced. The fuel is the length of the text. -/
def unescaped? (inBytes : Bool) : Nat → List Char → Option (List Char)
  | 0, text => if text.isEmpty then some [] else none
  | fuel + 1, text =>
    match text with
    | [] => some []
    | '\\' :: after => do
      let (meaning, after) ← escape? inBytes after
      return meaning ++ (← unescaped? inBytes fuel after)
    | c :: after => (unescaped? inBytes fuel after).map (c :: ·)

/-- How much of a text belongs to an escape that stands for nothing, behind its backslash. -/
def flawLength (text : List Char) : Nat :=
  match text with
  | 'N' :: '\x7b' :: rest =>
    let name := rest.takeWhile (· ≠ '\x7d')
    2 + name.length + (if name.isEmpty || name.length = rest.length then 0 else 1)
  | c :: rest =>
    let length := ((codeLengths false).lookup c).getD 0
    1 + ((rest.take length).takeWhile (Reading.isDigitOf 16)).length
  | [] => 0

/-- A character as an escape, unless it is one that shows in ASCII. -/
def escaped (c : Char) : List Char :=
  match [('\\', '\\'), ('\n', 'n'), ('\r', 'r'), ('\t', 't')].lookup c with
  | some letter => ['\\', letter]
  | none => if 0x20 ≤ c.toNat && c.toNat < 0x7F then [c] else Quoted.codeEscape c

/-- A character by its name, if it has one, and else by its number. -/
def namedEscape (c : Char) : List Char :=
  match CharacterNames.name? c with
  | some name => ['\\', 'N', '\x7b'] ++ name.toList ++ ['\x7d']
  | none => Quoted.codeEscape c

end PageContracts.Escapes
