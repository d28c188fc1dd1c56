import ChannelSdk.JsonDocument
import ChannelSdk.Lib.JsonGrammar

/-!
# The JSON reader

`GenericReader` of `third_party/rapidjson/include/rapidjson/reader.h` with the
default flags, as `Document::Parse` calls it on a C string.  A function takes
the bytes that are left and gives its result with the bytes behind it; nothing
but whether there was a parse error is observed by the callers, so an error is
`none`.  The end of the bytes is the NUL at which every `Peek` stops.

The arithmetic of `ParseNumber` on the digits that it scans is the parameter
`convert`: it gives the number, rounded where it has to be, or nothing for a
number that is too big.  A string of the document is kept as the `String`
whose characters are its bytes.
-/

namespace ChannelSdk

open CheckedMemory JsonGrammar

/-- The `String` that stands for a `std::string`. -/
def ofBytes (bytes : Bytes) : String :=
  String.ofList (bytes.map fun byte => Char.ofNat byte.toNat)

/-- The bytes of a `std::string` that a C string shows. -/
def cText (bytes : Bytes) : Bytes :=
  bytes.takeWhile (· ≠ 0)

namespace RapidJson

/-- A function of the reader. -/
abbrev Reader (Value : Type) := Bytes → Option (Value × Bytes)

/-- `SkipWhitespace`. -/
def skipWhitespace (text : Bytes) : Bytes :=
  text.dropWhile isSpace

/-- `Consume`. -/
def consume (expect : UInt8) : Bytes → Option Bytes
  | [] => none
  | next :: rest => if next = expect then some rest else none

/-- Calls of `Consume` in a row. -/
def consumeAll : List UInt8 → Bytes → Option Bytes
  | [], text => some text
  | expect :: others, text => do
      let text ← consume expect text
      consumeAll others text

/-! ## Tokens -/

/-- `ParseNull` behind the `n`. -/
def parseNull (text : Bytes) : Option (Json × Bytes) := do
  let text ← consumeAll ("ull".toList.map ascii) text
  some (.null, text)

/-- `ParseTrue` behind the `t`. -/
def parseTrue (text : Bytes) : Option (Json × Bytes) := do
  let text ← consumeAll ("rue".toList.map ascii) text
  some (.bool true, text)

/-- `ParseFalse` behind the `f`. -/
def parseFalse (text : Bytes) : Option (Json × Bytes) := do
  let text ← consumeAll ("alse".toList.map ascii) text
  some (.bool false, text)

/-- The value of a digit in `ParseHex4`. -/
def hexDigit (c : UInt8) : Option Nat :=
  if ascii '0' ≤ c ∧ c ≤ ascii '9' then some (c.toNat - 48)
  else if ascii 'A' ≤ c ∧ c ≤ ascii 'F' then some (c.toNat - (65 - 10))
  else if ascii 'a' ≤ c ∧ c ≤ ascii 'f' then some (c.toNat - (97 - 10))
  else none

/-- The loop of `ParseHex4`. -/
def parseHex (codepoint : Nat) : Nat → Reader Nat
  | 0, text => some (codepoint, text)
  | _ + 1, [] => none
  | digits + 1, c :: rest => do
      let digit ← hexDigit c
      parseHex ((codepoint <<< 4) + digit) digits rest

/-- `ParseHex4`. -/
def parseHex4 : Reader Nat :=
  parseHex 0 4

/-- `UTF8<>::Encode`. -/
def encode (codepoint : Nat) : Bytes :=
  if codepoint ≤ 0x7F then [.ofNat (codepoint &&& 0xFF)]
  else if codepoint ≤ 0x7FF then
    [.ofNat (0xC0 ||| ((codepoint >>> 6) &&& 0xFF)),
      .ofNat (0x80 ||| (codepoint &&& 0x3F))]
  else if codepoint ≤ 0xFFFF then
    [.ofNat (0xE0 ||| ((codepoint >>> 12) &&& 0xFF)),
      .ofNat (0x80 ||| ((codepoint >>> 6) &&& 0x3F)),
      .ofNat (0x80 ||| (codepoint &&& 0x3F))]
  else
    [.ofNat (0xF0 ||| ((codepoint >>> 18) &&& 0xFF)),
      .ofNat (0x80 ||| ((codepoint >>> 12) &&& 0x3F)),
      .ofNat (0x80 ||| ((codepoint >>> 6) &&& 0x3F)),
      .ofNat (0x80 ||| (codepoint &&& 0x3F))]

/-- The table `escape`, without its zeros. -/
def escape (e : UInt8) : Option UInt8 :=
  if e = ascii '"' then some (ascii '"')
  else if e = ascii '/' then some (ascii '/')
  else if e = ascii '\\' then some (ascii '\\')
  else if e = ascii 'b' then some 8
  else if e = ascii 'f' then some 12
  else if e = ascii 'n' then some 10
  else if e = ascii 'r' then some 13
  else if e = ascii 't' then some 9
  else none

def isHighSurrogate (codepoint : Nat) : Bool :=
  codepoint ≥ 0xD800 && codepoint ≤ 0xDBFF

def isLowSurrogate (codepoint : Nat) : Bool :=
  !(codepoint < 0xDC00 || codepoint > 0xDFFF)

/-- The code point of a surrogate pair. -/
def surrogatePair (codepoint codepoint2 : Nat) : Nat :=
  (((codepoint - 0xD800) <<< 10) ||| (codepoint2 - 0xDC00)) + 0x10000

/-- A `\u` escape behind the `u`.  A high surrogate must be followed by the
escape of a low one; a low surrogate may stand alone. -/
def parseUnicode (text : Bytes) : Option (Bytes × Bytes) := do
  let (codepoint, text) ← parseHex4 text
  if isHighSurrogate codepoint then
    let text ← consume (ascii '\\') text
    let text ← consume (ascii 'u') text
    let (codepoint2, text) ← parseHex4 text
    if isLowSurrogate codepoint2 then
      some (encode (surrogatePair codepoint codepoint2), text)
    else none
  else some (encode codepoint, text)

/-- An escape behind its backslash. -/
def parseEscape : Reader Bytes
  | [] => none
  | e :: rest =>
      match escape e with
      | some byte => some ([byte], rest)
      | none => if e = ascii 'u' then parseUnicode rest else none

/-- The loop of `ParseStringToStream`.  Every pass takes a byte, so the number
of bytes bounds the number of passes. -/
def parseStringToStream : Nat → Reader Bytes
  | 0, _ => none
  | _ + 1, [] => none
  | passes + 1, c :: rest =>
      if c = ascii '\\' then do
        let (bytes, rest) ← parseEscape rest
        let (more, rest) ← parseStringToStream passes rest
        some (bytes ++ more, rest)
      else if c = ascii '"' then some ([], rest)
      else if c.toNat < 0x20 then none
      else do
        let (more, rest) ← parseStringToStream passes rest
        some (c :: more, rest)

/-- `ParseString` behind the quotation mark. -/
def parseString (text : Bytes) : Option (String × Bytes) := do
  let (bytes, text) ← parseStringToStream (text.length + 1) text
  some (ofBytes bytes, text)

/-- The digits in front of a text. -/
def takeDigits (text : Bytes) : Bytes × Bytes :=
  (text.takeWhile isDigit, text.dropWhile isDigit)

/-- One or more digits. -/
def parseDigits (text : Bytes) : Option (Bytes × Bytes) :=
  let (digits, text) := takeDigits text
  if digits = [] then none else some (digits, text)

/-- The minus of a number. -/
def parseMinus (text : Bytes) : Bytes × Bytes :=
  match consume (ascii '-') text with
  | some text => ([ascii '-'], text)
  | none => ([], text)

/-- The integer part of a number: `zero / ( digit1-9 *DIGIT )`. -/
def parseInt : Reader Bytes
  | [] => none
  | first :: rest =>
      if first = ascii '0' then some ([first], rest)
      else if isDigit first then
        let (digits, rest) := takeDigits rest
        some (first :: digits, rest)
      else none

/-- The fraction of a number: `decimal-point 1*DIGIT`. -/
def parseFrac (text : Bytes) : Option (Bytes × Bytes) :=
  match consume (ascii '.') text with
  | some text => do
      let (digits, text) ← parseDigits text
      some (ascii '.' :: digits, text)
  | none => some ([], text)

/-- The sign of an exponent. -/
def parseSign (text : Bytes) : Bytes × Bytes :=
  match consume (ascii '+') text with
  | some text => ([ascii '+'], text)
  | none =>
      match consume (ascii '-') text with
      | some text => ([ascii '-'], text)
      | none => ([], text)

/-- The exponent of a number: `e [ minus / plus ] 1*DIGIT`. -/
def parseExp : Reader Bytes
  | [] => some ([], [])
  | mark :: rest =>
      if mark = ascii 'e' ∨ mark = ascii 'E' then do
        let (sign, rest) := parseSign rest
        let (digits, rest) ← parseDigits rest
        some (mark :: (sign ++ digits), rest)
      else some ([], mark :: rest)

/-- `ParseNumber`. -/
def parseNumber (convert : Bytes → Option Json) (text : Bytes) :
    Option (Json × Bytes) := do
  let (minus, text) := parseMinus text
  let (int, text) ← parseInt text
  let (frac, text) ← parseFrac text
  let (exp, text) ← parseExp text
  let number ← convert (minus ++ (int ++ (frac ++ exp)))
  some (number, text)

/-! ## Values -/

section Items

variable {Item : Type}

/-- The loop of `ParseArray` and of `ParseObject`, at an item.  Every pass but
the last takes a comma. -/
def parseItems (parseItem : Reader Item) (closing : UInt8) :
    Nat → Reader (List Item)
  | 0, _ => none
  | passes + 1, text => do
      let (item, text) ← parseItem text
      match text with
      | [] => none
      | next :: rest =>
          if next = ascii ',' then do
            let (items, rest) ←
              parseItems parseItem closing passes (skipWhitespace rest)
            some (item :: items, rest)
          else if next = closing then some ([item], rest)
          else none

/-- `ParseArray` and `ParseObject` behind the opening bracket. -/
def parseEnclosed (parseItem : Reader Item) (closing : UInt8)
    (text : Bytes) : Option (List Item × Bytes) :=
  match consume closing (skipWhitespace text) with
  | some rest => some ([], rest)
  | none =>
      parseItems parseItem closing (text.length + 1) (skipWhitespace text)

end Items

/-- A value and the white space behind it. -/
def parseElement (parseValue : Reader Json) (text : Bytes) :
    Option (Json × Bytes) := do
  let (value, text) ← parseValue text
  some (value, skipWhitespace text)

/-- A member of an object and the white space behind it. -/
def parseMember (parseValue : Reader Json) (text : Bytes) :
    Option ((String × Json) × Bytes) := do
  let text ← consume (ascii '"') text
  let (name, text) ← parseString text
  let text ← consume (ascii ':') (skipWhitespace text)
  let (value, text) ← parseElement parseValue (skipWhitespace text)
  some ((name, value), text)

/-- `ParseArray` behind the bracket. -/
def parseArray (parseValue : Reader Json) (text : Bytes) :
    Option (Json × Bytes) := do
  let (elements, text) ←
    parseEnclosed (parseElement parseValue) (ascii ']') text
  some (.array elements, text)

/-- `ParseObject` behind the brace. -/
def parseObject (parseValue : Reader Json) (text : Bytes) :
    Option (Json × Bytes) := do
  let (members, text) ←
    parseEnclosed (parseMember parseValue) (ascii '\x7d') text
  some (.object members, text)

/-- `ParseValue`.  The number bounds the depth of the calls; every call takes
a byte. -/
def parseValue (convert : Bytes → Option Json) : Nat → Reader Json
  | 0, _ => none
  | _ + 1, [] => none
  | depth + 1, first :: rest =>
      if first = ascii 'n' then parseNull rest
      else if first = ascii 't' then parseTrue rest
      else if first = ascii 'f' then parseFalse rest
      else if first = ascii '"' then do
        let (value, rest) ← parseString rest
        some (.string value, rest)
      else if first = ascii '\x7b' then
        parseObject (parseValue convert depth) rest
      else if first = ascii '[' then
        parseArray (parseValue convert depth) rest
      else parseNumber convert (first :: rest)

/-- `GenericReader::Parse` on the bytes of a C string. -/
def parse (convert : Bytes → Option Json) (text : Bytes) :
    Option Json := do
  let (value, rest) ←
    parseElement (parseValue convert (text.length + 1)) (skipWhitespace text)
  if rest = [] then some value else none

end RapidJson

end ChannelSdk
