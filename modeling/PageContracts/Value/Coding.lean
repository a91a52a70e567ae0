import PageContracts.Text.CodePages
import PageContracts.Text.Escapes
import PageContracts.Value

/-! # Codings

The ways a text has of being bytes, by the names they go by, and what becomes of what a coding cannot
write or read. A coding reads bytes as a row of stretches: those that say something, and those that
are flaws.
-/
namespace PageContracts

/-- The order of the bytes of a number. -/
inductive ByteOrder where
  | little
  | big
  deriving DecidableEq, Repr

namespace ByteOrder

/-- A number in a given number of bytes. -/
def bytesOf (order : ByteOrder) (width n : Nat) : List UInt8 :=
  let up := (List.range width).map fun i => UInt8.ofNat (n >>> (8 * i))
  match order with
  | .little => up
  | .big => up.reverse

/-- The number that bytes are. -/
def number (order : ByteOrder) (bytes : List UInt8) : Nat :=
  let down :=
    match order with
    | .little => bytes.reverse
    | .big => bytes
  down.foldl (fun n byte => n * 256 + byte.toNat) 0

end ByteOrder

namespace Units16

/-- Whether a unit of sixteen bits is the first of the two that a character outside the first plane
takes. -/
def isHigh (unit : Nat) : Bool := 0xD800 ≤ unit && unit < 0xDC00

/-- Whether a unit is the second of two. -/
def isLow (unit : Nat) : Bool := 0xDC00 ≤ unit && unit < 0xE000

/-- The character of two units. -/
def joined (high low : Nat) : Char :=
  Char.ofNat (0x10000 + (high - 0xD800) * 0x400 + (low - 0xDC00))

/-- The units of a character. -/
def ofChar (c : Char) : List Nat :=
  if c.toNat < 0x10000 then [c.toNat]
  else
    let n := c.toNat - 0x10000
    [0xD800 + n / 0x400, 0xDC00 + n % 0x400]

end Units16

/-- A coding. -/
inductive Coding where
  /-- One to four bytes for a character. -/
  | utf8
  /-- The same, behind a mark. -/
  | markedUtf8
  /-- A byte for every character up to a greatest one. -/
  | bytewise (greatest : Nat)
  /-- A byte for every character of a code page. -/
  | page (characters : List Char)
  /-- Units of two bytes; without an order of the bytes they follow a mark of it. -/
  | units16 (order : Option ByteOrder)
  /-- Four bytes for a character; without an order of the bytes they follow a mark of it. -/
  | units32 (order : Option ByteOrder)
  /-- ASCII, with all else as the digits of units of sixteen bits. -/
  | utf7
  /-- ASCII, with all else as escapes. -/
  | escapes
  /-- A byte for a character, with the characters above them as escapes. -/
  | codeEscapes
  deriving DecidableEq, Repr

/-- What becomes of what a coding cannot write or read. -/
inductive CodingErrors where
  | strict
  | ignore
  | replace
  | escape
  | reference
  | names
  /-- A way that is not known, which only shows when it is needed. -/
  | unknown (name : String)
  deriving DecidableEq, Repr

namespace CodingErrors

/-- The way to deal with errors by its name. Those for halves of characters never help. -/
def named (name : String) : CodingErrors :=
  match name with
  | "strict" | "surrogateescape" | "surrogatepass" => .strict
  | "ignore" => .ignore
  | "replace" => .replace
  | "backslashreplace" => .escape
  | "xmlcharrefreplace" => .reference
  | "namereplace" => .names
  | name => .unknown name

/-- The failure of a way to deal with errors that is not known. -/
def unknownHandler {α : Type} (name : String) : Except Failure α :=
  .error (.breach .unknownThing ("unknown error handler name " ++ Quoted.quoted name))

/-- The failure of a character that a coding cannot write. -/
def unwritable {α : Type} : Except Failure α :=
  .error (.breach .unencodable "can't encode character")

/-- What stands for a character that a coding cannot write. -/
def substitute (errors : CodingErrors) (c : Char) : Except Failure (List Char) :=
  match errors with
  | .strict => unwritable
  | .ignore => .ok []
  | .replace => .ok ['?']
  | .escape => .ok (Quoted.codeEscape c)
  | .reference => .ok ("&#".toList ++ Nat.toDigits 10 c.toNat ++ [';'])
  | .names => .ok (Escapes.namedEscape c)
  | .unknown name => unknownHandler name

/-- What stands for bytes that a coding cannot read. -/
def replacement (errors : CodingErrors) (bytes : List UInt8) : Except Failure (List Char) :=
  match errors with
  | .strict => .error (.breach .undecodable "can't decode byte")
  | .ignore => .ok []
  | .replace => .ok [Char.ofNat 0xFFFD]
  | .escape =>
    .ok (bytes.flatMap fun byte => '\\' :: 'x' :: Characters.hexDigits 2 byte.toNat)
  | .reference | .names => .error (.typeBreach "don't know how to handle this error")
  | .unknown name => unknownHandler name

theorem unwritable_onlyMishaps {α : Type} : OnlyMishaps (unwritable : Except Failure α) :=
  .breach rfl _

theorem substitute_onlyMishaps (errors : CodingErrors) (c : Char) :
    OnlyMishaps (errors.substitute c) := by
  cases errors with
  | strict => exact unwritable_onlyMishaps
  | unknown name => exact .breach rfl _
  | _ => exact .ok _

theorem replacement_onlyMishaps (errors : CodingErrors) (bytes : List UInt8) :
    OnlyMishaps (errors.replacement bytes) := by
  cases errors with
  | strict => exact .breach rfl _
  | reference => exact .typeBreach _
  | names => exact .typeBreach _
  | unknown name => exact .breach rfl _
  | _ => exact .ok _

end CodingErrors

/-- Some bytes: what they say, or that they are a flaw. -/
inductive Stretch where
  | said (text : List Char)
  | flaw (bytes : List UInt8)
  deriving DecidableEq, Repr

namespace Utf8

/-- How many bytes the first of some bytes asks for, and the bounds of the second of them; none if no
character starts with it. -/
def sequence? (byte : UInt8) : Option (Nat × UInt8 × UInt8) :=
  if byte < 0x80 then some (1, 0, 0)
  else if byte < 0xC2 then none
  else if byte < 0xE0 then some (2, 0x80, 0xBF)
  else if byte = 0xE0 then some (3, 0xA0, 0xBF)
  else if byte = 0xED then some (3, 0x80, 0x9F)
  else if byte < 0xF0 then some (3, 0x80, 0xBF)
  else if byte = 0xF0 then some (4, 0x90, 0xBF)
  else if byte < 0xF4 then some (4, 0x80, 0xBF)
  else if byte = 0xF4 then some (4, 0x80, 0x8F)
  else none

/-- How many bytes of a character are there, the first included, when the character needs `wanted`
and the second byte lies within bounds. -/
def present (wanted : Nat) (low high : UInt8) (rest : List UInt8) : Nat :=
  match rest.take (wanted - 1) with
  | [] => 1
  | second :: others =>
    if low ≤ second && second ≤ high then
      2 + (others.takeWhile fun byte => 0x80 ≤ byte && byte ≤ 0xBF).length
    else 1

/-- Bytes as the characters they write; each start of a character that does not go on is a flaw. The
fuel is the number of bytes. -/
def stretches : Nat → List UInt8 → List Stretch
  | 0, _ => []
  | _, [] => []
  | fuel + 1, byte :: rest =>
    match sequence? byte with
    | none => .flaw [byte] :: stretches fuel rest
    | some (wanted, low, high) =>
      let there := present wanted low high rest
      let part := byte :: rest.take (there - 1)
      let read : Stretch :=
        if there < wanted then .flaw part
        else .said (((String.fromUTF8? ⟨part.toArray⟩).map String.toList).getD [])
      read :: stretches fuel (rest.drop (there - 1))

/-- The mark in front of a text. -/
def mark : List UInt8 := [0xEF, 0xBB, 0xBF]

end Utf8

namespace Units16

/-- Bytes as units of two bytes: a first unit without a second is a flaw, as is a second without a
first, and a byte that is left over. -/
def stretches (order : ByteOrder) : List UInt8 → List Stretch
  | [] => []
  | [byte] => [.flaw [byte]]
  | [a, b] => [alone a b]
  | [a, b, c] =>
    if isHigh (order.number [a, b]) then [.flaw [a, b, c]] else [alone a b, .flaw [c]]
  | a :: b :: c :: d :: rest =>
    let first := order.number [a, b]
    let second := order.number [c, d]
    if isHigh first && isLow second then .said [joined first second] :: stretches order rest
    else alone a b :: stretches order (c :: d :: rest)
where
  /-- What a unit says by itself. -/
  alone (a b : UInt8) : Stretch :=
    let unit := order.number [a, b]
    if isHigh unit || isLow unit then .flaw [a, b] else .said [Char.ofNat unit]

end Units16

namespace Units32

/-- Bytes as characters of four bytes. -/
def stretches (order : ByteOrder) : List UInt8 → List Stretch
  | a :: b :: c :: d :: rest =>
    let n := order.number [a, b, c, d]
    let read : Stretch :=
      if n < 0xD800 || (0xE000 ≤ n && n < 0x110000) then .said [Char.ofNat n] else .flaw [a, b, c, d]
    read :: stretches order rest
  | [] => []
  | bytes => [.flaw bytes]

end Units32

namespace Utf7

/-- The digits of base sixty-four. -/
def digits : List Char :=
  "ABCDEFGHIJKLMNOPQRSTUVWXYZabcdefghijklmnopqrstuvwxyz0123456789+/".toList

/-- Whether a character stands for itself. -/
def isDirect (c : Char) : Bool :=
  (0x20 ≤ c.toNat && c.toNat < 0x7E && c ≠ '+' && c ≠ '\\') || c = '\t' || c = '\n' || c = '\r'

/-- Bits whose digits are not written or not read in full yet. -/
structure Bits where
  value : Nat
  count : Nat
  deriving DecidableEq, Repr

/-- The digits of bits, and the bits that are left. -/
def Bits.written (bits : Bits) : List Char × Bits :=
  let left := bits.count % 6
  let shown := (List.range (bits.count / 6)).map fun i =>
    digits.getD ((bits.value >>> (bits.count - 6 * (i + 1))) % 64) 'A'
  (shown, ⟨bits.value % Nat.pow 2 left, left⟩)

/-- The digits of bits and of a character behind them, and the bits that are left. -/
def Bits.push (bits : Bits) (c : Char) : List Char × Bits :=
  Bits.written ((Units16.ofChar c).foldl (fun b unit => ⟨b.value * 0x10000 + unit, b.count + 16⟩) bits)

/-- The last digit of bits. -/
def Bits.ending (bits : Bits) : List Char :=
  if bits.count = 0 then [] else [digits.getD ((bits.value <<< (6 - bits.count)) % 64) 'A']

/-- A text in ASCII; the bits are those of the digits that are being written. -/
def text : Option Bits → List Char → List Char
  | none, [] => []
  | some bits, [] => bits.ending ++ ['-']
  | none, c :: rest =>
    if c = '+' then '+' :: '-' :: text none rest
    else if isDirect c then c :: text none rest
    else
      let (shown, bits) := Bits.push ⟨0, 0⟩ c
      '+' :: shown ++ text (some bits) rest
  | some bits, c :: rest =>
    if isDirect c then
      let parting := if digits.contains c || c = '-' then ['-'] else []
      bits.ending ++ parting ++ c :: text none rest
    else
      let (shown, bits) := bits.push c
      shown ++ text (some bits) rest

/-- Digits that are being read: the bytes so far, the last one first, the bits that make no unit yet,
and a first unit of two. -/
structure Run where
  bytes : List UInt8
  bits : Bits
  pending : Option Nat
  deriving DecidableEq, Repr

/-- Whether bits that are left over are more than the filling of a last digit. -/
def Run.isUnfinished (run : Run) : Bool :=
  6 ≤ run.bits.count || (run.bits.count ≠ 0 && run.bits.value ≠ 0)

/-- Read a digit: the units that are full say their characters. -/
def Run.push (run : Run) (byte : UInt8) (digit : Nat) : List Char × Run :=
  let value := run.bits.value * 64 + digit
  let count := run.bits.count + 6
  let bytes := byte :: run.bytes
  if count < 16 then ([], { run with bytes := bytes, bits := ⟨value, count⟩ })
  else
    let unit := value >>> (count - 16)
    let bits : Bits := ⟨value % Nat.pow 2 (count - 16), count - 16⟩
    let half : List Char := [Char.ofNat 0xFFFD]
    let lost := if run.pending.isSome then half else []
    match run.pending.filter fun _ => Units16.isLow unit with
    | some high => ([Units16.joined high unit], ⟨bytes, bits, none⟩)
    | none =>
      if Units16.isHigh unit then (lost, ⟨bytes, bits, some unit⟩)
      else (lost ++ (if Units16.isLow unit then half else [Char.ofNat unit]), ⟨bytes, bits, none⟩)

/-- What a byte outside digits says. -/
def plain (byte : UInt8) : Stretch :=
  if byte < 0x80 then .said [Char.ofNat byte.toNat] else .flaw [byte]

/-- Bytes as the characters they write. -/
def stretches : Option Run → List UInt8 → List Stretch
  | none, [] => []
  | none, byte :: rest =>
    if byte ≠ 0x2B then plain byte :: stretches none rest
    else
      match rest with
      | [] => []
      | next :: left =>
        if next = 0x2D then .said ['+'] :: stretches none left
        else
          match digits.findIdx? (· = Char.ofNat next.toNat) with
          | none => .flaw [byte, next] :: stretches none left
          | some digit => stretches (some (Run.push ⟨[byte], ⟨0, 0⟩, none⟩ next digit).2) left
  | some run, [] =>
    if run.pending.isSome || run.isUnfinished then [.flaw run.bytes.reverse] else []
  | some run, byte :: rest =>
    match digits.findIdx? (· = Char.ofNat byte.toNat) with
    | some digit =>
      let (read, run) := run.push byte digit
      .said read :: stretches (some run) rest
    | none =>
      if run.isUnfinished then .flaw (byte :: run.bytes).reverse :: stretches none rest
      else if byte = 0x2D then stretches none rest
      else plain byte :: stretches none rest

end Utf7

/-- The characters that bytes are when each is the number of one. -/
def latin (bytes : List UInt8) : List Char :=
  bytes.map fun byte => Char.ofNat byte.toNat

/-- Characters as the bytes of their numbers. -/
def latinBytes (text : List Char) : List UInt8 :=
  text.map fun c => UInt8.ofNat c.toNat

namespace Escapes

/-- Escapes and what stands between them, as what they say. The fuel is the length of the text. -/
def stretches (read? : List Char → Option (List Char × List Char)) :
    Nat → List Char → List Stretch
  | fuel + 1, '\\' :: rest =>
    match read? rest with
    | some (meaning, left) => .said meaning :: stretches read? fuel left
    | none =>
      let length := flawLength rest
      .flaw (latinBytes ('\\' :: rest.take length)) :: stretches read? fuel (rest.drop length)
  | fuel + 1, c :: rest => .said [c] :: stretches read? fuel rest
  | _, _ => []

/-- The escape of a character by its number, with four digits or with eight; any other backslash
stands for itself. -/
def codeEscape? (text : List Char) : Option (List Char × List Char) :=
  match text with
  | 'u' :: rest => (coded? 4 rest).map fun (c, rest) => ([c], rest)
  | 'U' :: rest => (coded? 8 rest).map fun (c, rest) => ([c], rest)
  | c :: rest => some (['\\', c], rest)
  | [] => some (['\\'], [])

end Escapes

namespace Coding

/-- The names of the codings, those of each parted by blanks. -/
def names : List (String × Coding) :=
  [("utf-8 utf8 u8 utf cp65001 utf8-ucs2 utf8-ucs4", .utf8), ("utf-8-sig", .markedUtf8),
    ("ascii 646 ansi-x3-4-1968 ansi-x3.4-1968 ansi-x3.4-1986 cp367 csascii ibm367 " ++
      "iso-646.irv-1991 iso-ir-6 iso646-us us us-ascii", .bytewise 0x7F),
    ("latin-1 8859 cp819 csisolatin1 ibm819 iso-8859-1 iso-8859-1-1987 iso-ir-100 iso8859 " ++
      "iso8859-1 l1 latin latin1", .bytewise 0xFF),
    ("utf-16 u16 utf16", .units16 none),
    ("utf-16-le unicodelittleunmarked utf-16le", .units16 (some .little)),
    ("utf-16-be unicodebigunmarked utf-16be", .units16 (some .big)),
    ("utf-32 u32 utf32", .units32 none), ("utf-32-le utf-32le", .units32 (some .little)),
    ("utf-32-be utf-32be", .units32 (some .big)),
    ("utf-7 u7 unicode-1-1-utf-7 utf7", .utf7), ("unicode-escape", .escapes),
    ("raw-unicode-escape", .codeEscapes)]

/-- The name of a coding in the way that names are compared: its words, joined alike. -/
def plainName (name : String) : String :=
  let joins (c : Char) : Bool :=
    !(Characters.isAsciiLetter c || Characters.isAsciiDigit c || c = '.')
  let marked := (Characters.lowerAscii name).toList.map fun c => if joins c then '-' else c
  let words := (Characters.splitOn '-' marked).filter fun word => !word.isEmpty
  String.intercalate "-" (words.map String.ofList)

/-- A coding by its name. -/
def named? (name : String) : Option Coding :=
  let name := plainName name
  match names.find? fun entry => (entry.1.splitOn " ").contains name with
  | some (_, coding) => some coding
  | none => (CodePages.page? name).map .page

/-- A character by itself as bytes, if the coding can write it. -/
def bytes? (coding : Coding) (c : Char) : Option (List UInt8) :=
  match coding with
  | .utf8 | .markedUtf8 => some (String.singleton c).toUTF8.toList
  | .bytewise greatest => if c.toNat ≤ greatest then some (latinBytes [c]) else none
  | .page characters =>
    if c = CodePages.noCharacter then none
    else (characters.findIdx? (· = c)).map fun i => [UInt8.ofNat i]
  | .units16 order =>
    some ((Units16.ofChar c).flatMap fun unit => (order.getD .little).bytesOf 2 unit)
  | .units32 order => some ((order.getD .little).bytesOf 4 c.toNat)
  | .utf7 => some (latinBytes (Utf7.text none [c]))
  | .escapes => some (latinBytes (Escapes.escaped c))
  | .codeEscapes =>
    some (latinBytes (if c.toNat < 0x100 then [c] else Quoted.codeEscape c))

/-- The bytes in front of every text. -/
def mark (coding : Coding) : List UInt8 :=
  match coding with
  | .markedUtf8 => Utf8.mark
  | .units16 none => ByteOrder.bytesOf .little 2 0xFEFF
  | .units32 none => ByteOrder.bytesOf .little 4 0xFEFF
  | _ => []

/-- A text as bytes. -/
def encode (coding : Coding) (errors : CodingErrors) (text : String) :
    Except Failure (List UInt8) :=
  if coding = .utf7 then .ok (latinBytes (Utf7.text none text.toList))
  else do
    let written ← text.toList.mapM fun c =>
      match coding.bytes? c with
      | some bytes => .ok bytes
      | none => do
        let instead ← errors.substitute c
        match instead.mapM coding.bytes? with
        | some bytes => return bytes.flatten
        | none => CodingErrors.unwritable
    return coding.mark ++ written.flatten

/-- The order of bytes that a mark tells, and the bytes behind the mark. Without one the low byte comes
first. -/
def ordered (width : Nat) (bytes : List UInt8) : ByteOrder × List UInt8 :=
  if (ByteOrder.bytesOf .little width 0xFEFF).isPrefixOf bytes then (.little, bytes.drop width)
  else if (ByteOrder.bytesOf .big width 0xFEFF).isPrefixOf bytes then (.big, bytes.drop width)
  else (.little, bytes)

/-- What bytes say in a coding. -/
def stretches (coding : Coding) (bytes : List UInt8) : List Stretch :=
  let single (read? : UInt8 → Option Char) : List Stretch :=
    bytes.map fun byte => ((read? byte).map fun c => .said [c]).getD (.flaw [byte])
  match coding with
  | .utf8 => Utf8.stretches bytes.length bytes
  | .markedUtf8 =>
    let bytes := if Utf8.mark.isPrefixOf bytes then bytes.drop 3 else bytes
    Utf8.stretches bytes.length bytes
  | .bytewise greatest =>
    single fun byte => if byte.toNat ≤ greatest then some (Char.ofNat byte.toNat) else none
  | .page characters =>
    single fun byte => characters[byte.toNat]?.filter (· ≠ CodePages.noCharacter)
  | .units16 (some order) => Units16.stretches order bytes
  | .units16 none =>
    let (order, bytes) := ordered 2 bytes
    Units16.stretches order bytes
  | .units32 (some order) => Units32.stretches order bytes
  | .units32 none =>
    let (order, bytes) := ordered 4 bytes
    Units32.stretches order bytes
  | .utf7 => Utf7.stretches none bytes
  | .escapes => Escapes.stretches (Escapes.escape? false) bytes.length (latin bytes)
  | .codeEscapes => Escapes.stretches Escapes.codeEscape? bytes.length (latin bytes)

/-- Bytes as a text. -/
def decode (coding : Coding) (errors : CodingErrors) (bytes : List UInt8) :
    Except Failure String := do
  let read ← (coding.stretches bytes).mapM fun stretch =>
    match stretch with
    | .said text => .ok text
    | .flaw bytes => errors.replacement bytes
  return String.ofList read.flatten

theorem encode_onlyMishaps (coding : Coding) (errors : CodingErrors) (text : String) :
    OnlyMishaps (coding.encode errors text) := by
  refine .ite (.ok _) (.bind (.mapM (fun c => ?_) _) fun _ _ => .ok _)
  split
  · exact .ok _
  · refine (errors.substitute_onlyMishaps c).bind fun instead _ => ?_
    split
    · exact .ok _
    · exact CodingErrors.unwritable_onlyMishaps

theorem decode_onlyMishaps (coding : Coding) (errors : CodingErrors) (bytes : List UInt8) :
    OnlyMishaps (coding.decode errors bytes) := by
  refine .bind (.mapM (fun stretch => ?_) _) fun _ _ => .ok _
  cases stretch with
  | said text => exact .ok _
  | flaw bytes => exact errors.replacement_onlyMishaps bytes

end Coding
end PageContracts
