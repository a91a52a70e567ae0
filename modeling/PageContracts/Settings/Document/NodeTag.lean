import PageContracts.Settings.Document.MomentText

/-! # Node tags

What the parts of a settings document are to be made into: said by a tag, or else by how a plain
text is spelled.
-/
namespace PageContracts.Document

namespace Spelling

open Characters

/-- The spellings of nothing. -/
def nothingTexts : List String := ["", "~", "null", "Null", "NULL"]

/-- The spellings of true. -/
def trueTexts : List String :=
  ["yes", "Yes", "YES", "true", "True", "TRUE", "on", "On", "ON"]

/-- The spellings of false. -/
def falseTexts : List String :=
  ["no", "No", "NO", "false", "False", "FALSE", "off", "Off", "OFF"]

/-- Whether a character is a digit or an underscore. -/
def isNumeral (c : Char) : Bool :=
  isAsciiDigit c || c = '_'

/-- Whether a text is a digit and then digits and underscores. -/
def isNumerals : List Char → Bool
  | [] => false
  | c :: rest => isAsciiDigit c && rest.all isNumeral

/-- A text without a sign before it. -/
def dropSign : List Char → List Char
  | '-' :: rest => rest
  | '+' :: rest => rest
  | text => text

/-- Whether a text is a number below sixty in one or two digits. -/
def isSixtieth : List Char → Bool
  | [c] => isAsciiDigit c
  | [c, d] => '0' ≤ c && c ≤ '5' && isAsciiDigit d
  | _ => false

/-- Whether a text is a number in groups of sixty, its first group of at least one digit. -/
def isInSixties (text : List Char) : Bool :=
  match splitOn ':' text with
  | first :: second :: others => isNumerals first && (second :: others).all isSixtieth
  | _ => false

/-- Whether a text is an unsigned integer: of two, eight, ten or sixteen digits, or in groups of
sixty. -/
def isUnsignedInteger (text : List Char) : Bool :=
  match text with
  | [] => false
  | ['0'] => true
  | '0' :: 'b' :: rest => !rest.isEmpty && rest.all fun c => c = '0' || c = '1' || c = '_'
  | '0' :: 'x' :: rest => !rest.isEmpty && rest.all fun c =>
      isNumeral c || ('a' ≤ asciiLower c && asciiLower c ≤ 'f')
  | '0' :: rest => rest.all fun c => ('0' ≤ c && c ≤ '7') || c = '_'
  | text => isNumerals text || isInSixties text

/-- Whether a text is empty or an exponent with its sign. -/
def isExponent : List Char → Bool
  | [] => true
  | mark :: sign :: digits =>
    (mark = 'e' || mark = 'E') && (sign = '-' || sign = '+') && !digits.isEmpty &&
      digits.all isAsciiDigit
  | _ => false

/-- Whether a text is a number with a point. The exponent needs a point in front of it, and a
fraction alone takes no sign. -/
def isDouble (text : List Char) : Bool :=
  let whole := text.takeWhile (· ≠ '.')
  let unsigned := dropSign whole
  match text.dropWhile (· ≠ '.') with
  | [] => false
  | _ :: behind =>
    let fraction := behind.takeWhile isNumeral
    let exponent := behind.dropWhile isNumeral
    if unsigned.isEmpty then
      ["inf", "Inf", "INF"].contains (String.ofList behind) ||
        (whole.isEmpty && (["nan", "NaN", "NAN"].contains (String.ofList behind) ||
          (isNumerals fraction && isExponent exponent)))
    else
      (isNumerals unsigned && isExponent exponent) ||
        (isInSixties unsigned && exponent.isEmpty)

end Spelling

/-- What a node is to be made into. -/
inductive NodeTag where
  | nothing
  | truth
  | integer
  | double
  | text
  | bytes
  | moment
  | sequence
  | mapping
  /-- A sequence of pairs, each written as a mapping of one entry. -/
  | pairs
  | set
  /-- The key whose value is merged into its mapping. -/
  | merge
  /-- The key that stands for a mapping as a whole. -/
  | whole
  /-- A tag that nothing can be made into. -/
  | unknown
  deriving DecidableEq, Repr, Inhabited

namespace NodeTag

/-- What all standard tags begin with. -/
def standardStart : String := "tag:yaml.org,2002:"

/-- The standard tags that values can be made into. -/
def standard : List (String × NodeTag) :=
  [("null", .nothing), ("bool", .truth), ("int", .integer), ("float", .double), ("str", .text),
    ("binary", .bytes), ("timestamp", .moment), ("seq", .sequence), ("map", .mapping),
    ("pairs", .pairs), ("omap", .pairs), ("set", .set), ("merge", .merge), ("value", .whole)]

/-- The tag of a full name. -/
def ofName (name : String) : NodeTag :=
  match standard.find? fun entry => standardStart ++ entry.1 = name with
  | some (_, tag) => tag
  | none => .unknown

/-- The characters that can only be plain texts of their own where a tag makes them such; they
are taken for something that no value is made of. -/
def indicatorTexts : List String := ["!", "&", "*"]

open Spelling in
/-- What a plain text is made into when no tag says so. A line end behind the text does not count,
unless it is all there is. -/
def ofPlain (text : String) : NodeTag :=
  let characters := MomentText.dropLineEnd text.toList
  let line := String.ofList characters
  if line.isEmpty && !text.isEmpty then .text
  else if nothingTexts.contains line then .nothing
  else if trueTexts.contains line || falseTexts.contains line then .truth
  else if line = "<<" then .merge
  else if line = "=" then .whole
  else if indicatorTexts.contains line then .unknown
  else if isUnsignedInteger (dropSign characters) then .integer
  else if isDouble characters then .double
  else if MomentText.isPlain text.toList then .moment
  else .text

end NodeTag
end PageContracts.Document
