import ChannelSdk.RapidJsonReader

/-!
# The reader on the tokens of the grammar

A token of the grammar is read as a whole, whatever text stands behind it.  A
number is the only token without an end of its own: the reader takes as many
digits as there are, so what follows must not go on with the number.
-/

namespace ChannelSdk.RapidJson

open CheckedMemory JsonGrammar

/-- The first byte, if there is one, has the property. -/
def Starts (property : UInt8 → Prop) (text : Bytes) : Prop :=
  ∀ byte ∈ text.head?, property byte

theorem starts_nil (property : UInt8 → Prop) : Starts property [] :=
  fun _ member => nomatch member

theorem starts_cons
    {property : UInt8 → Prop} {byte : UInt8} (holds : property byte)
    (rest : Bytes) : Starts property (byte :: rest) := by
  intro first member
  cases member
  exact holds

theorem Starts.imp
    {property other : UInt8 → Prop} {text : Bytes}
    (starts : Starts property text)
    (implies : ∀ byte, property byte → other byte) : Starts other text :=
  fun byte member => implies byte (starts byte member)

section Consume

variable {expect : UInt8}

theorem consume_self (rest : Bytes) :
    consume expect (expect :: rest) = some rest :=
  if_pos rfl

theorem consume_eq_none
    {text : Bytes} (different : Starts (· ≠ expect) text) :
    consume expect text = none := by
  cases text with
  | nil => rfl
  | cons first rest => exact if_neg (different first rfl)

theorem consumeAll_append (expected rest : Bytes) :
    consumeAll expected (expected ++ rest) = some rest := by
  induction expected with
  | nil => rfl
  | cons expect others inductionHypothesis =>
      rw [List.cons_append, consumeAll, consume_self]
      exact inductionHypothesis

end Consume

/-! ## White space -/

theorem skipWhitespace_append
    {space : Bytes} (isWhite : Space space) (text : Bytes) :
    skipWhitespace (space ++ text) = skipWhitespace text :=
  List.dropWhile_append_of_pos isWhite

theorem skipWhitespace_eq_self
    {text : Bytes} (visible : Starts (isSpace · = false) text) :
    skipWhitespace text = text := by
  cases text with
  | nil => rfl
  | cons first rest =>
      have shown := visible first rfl
      exact List.dropWhile_cons_of_neg (by simp [shown])

/-! ## Numbers -/

/-- The bytes with which a number does not go on. -/
def EndsNumber (byte : UInt8) : Prop :=
  isDigit byte = false ∧ byte ≠ ascii '.' ∧ byte ≠ ascii 'e' ∧
    byte ≠ ascii 'E'

instance (byte : UInt8) : Decidable (EndsNumber byte) :=
  inferInstanceAs
    (Decidable
      (isDigit byte = false ∧ byte ≠ ascii '.' ∧ byte ≠ ascii 'e' ∧
        byte ≠ ascii 'E'))

theorem ne_of_isDigit
    {byte : UInt8} (digit : isDigit byte = true) {character : Char}
    (notDigit : isDigit (ascii character) = false) :
    byte ≠ ascii character := by
  rintro rfl
  rw [notDigit] at digit
  cases digit

section Numbers

variable {rest : Bytes}

theorem takeDigits_append
    {digits : Bytes} (areDigits : ∀ byte ∈ digits, isDigit byte = true)
    (stops : Starts (isDigit · = false) rest) :
    takeDigits (digits ++ rest) = (digits, rest) := by
  have nothing :
      rest.takeWhile isDigit = [] ∧ rest.dropWhile isDigit = rest := by
    cases rest with
    | nil => exact ⟨rfl, rfl⟩
    | cons first others =>
        have noDigit : isDigit first = false := stops first rfl
        exact
          ⟨List.takeWhile_cons_of_neg (by simp [noDigit]),
            List.dropWhile_cons_of_neg (by simp [noDigit])⟩
  rw [takeDigits, List.takeWhile_append_of_pos areDigits,
    List.dropWhile_append_of_pos areDigits, nothing.1, nothing.2,
    List.append_nil]

theorem parseDigits_append
    {digits : Bytes} (areDigits : Digits digits)
    (stops : Starts (isDigit · = false) rest) :
    parseDigits (digits ++ rest) = some (digits, rest) := by
  rw [parseDigits, takeDigits_append areDigits.2 stops]
  exact if_neg areDigits.1

theorem starts_digits
    {digits : Bytes} (areDigits : Digits digits) (rest : Bytes) :
    Starts (isDigit · = true) (digits ++ rest) := by
  cases digits with
  | nil => exact absurd rfl areDigits.1
  | cons first others =>
      exact starts_cons (areDigits.2 first List.mem_cons_self) _

theorem parseMinus_append
    {minus : Bytes} (isMinus : Minus minus)
    (digit : Starts (isDigit · = true) rest) :
    parseMinus (minus ++ rest) = (minus, rest) := by
  rcases isMinus with rfl | rfl
  · have noMinus : Starts (· ≠ ascii '-') rest :=
      digit.imp fun byte isOne => ne_of_isDigit isOne (by decide)
    rw [parseMinus, List.nil_append, consume_eq_none noMinus]
  · rw [parseMinus, List.singleton_append, consume_self]

theorem starts_whole
    {whole : Bytes} (isWhole : Whole whole) (rest : Bytes) :
    Starts (isDigit · = true) (whole ++ rest) := by
  rcases isWhole with rfl | ⟨first, others, rfl, -, digit, -⟩
  · exact starts_cons (by decide) rest
  · exact starts_cons digit _

theorem parseInt_append
    {whole : Bytes} (isWhole : Whole whole)
    (stops : Starts (isDigit · = false) rest) :
    parseInt (whole ++ rest) = some (whole, rest) := by
  rcases isWhole with rfl | ⟨first, others, rfl, notZero, digit, digits⟩
  · rw [List.singleton_append, parseInt, if_pos rfl]
  · rw [List.cons_append, parseInt, if_neg notZero, if_pos digit,
      takeDigits_append digits stops]

theorem parseFrac_append
    {fraction : Bytes} (isFraction : Fraction fraction)
    (stops : Starts (isDigit · = false) rest)
    (noPoint : Starts (· ≠ ascii '.') rest) :
    parseFrac (fraction ++ rest) = some (fraction, rest) := by
  rcases isFraction with rfl | ⟨digits, rfl, areDigits⟩
  · rw [parseFrac, List.nil_append, consume_eq_none noPoint]
  · rw [parseFrac, List.cons_append, consume_self]
    simp only [parseDigits_append areDigits stops, Option.bind_eq_bind,
      Option.bind_some]

theorem parseSign_append
    {sign : Bytes} (isSign : Sign sign)
    (digit : Starts (isDigit · = true) rest) :
    parseSign (sign ++ rest) = (sign, rest) := by
  have noPlus : Starts (· ≠ ascii '+') rest :=
    digit.imp fun byte isOne => ne_of_isDigit isOne (by decide)
  have noMinus : Starts (· ≠ ascii '-') rest :=
    digit.imp fun byte isOne => ne_of_isDigit isOne (by decide)
  rcases isSign with rfl | rfl | rfl
  · rw [parseSign, List.nil_append, consume_eq_none noPlus,
      consume_eq_none noMinus]
  · rw [parseSign, List.singleton_append, consume_self]
  · rw [parseSign, List.singleton_append,
      consume_eq_none (starts_cons (by decide) rest), consume_self]

theorem parseExp_append
    {exponent : Bytes} (isExponent : Exponent exponent)
    (stops : Starts EndsNumber rest) :
    parseExp (exponent ++ rest) = some (exponent, rest) := by
  rcases isExponent with
    rfl | ⟨mark, sign, digits, rfl, isMark, isSign, areDigits⟩
  · cases rest with
    | nil => rfl
    | cons first others =>
        have ends : EndsNumber first := stops first rfl
        have noMark : ¬ (first = ascii 'e' ∨ first = ascii 'E') := by
          rintro (isLower | isUpper)
          · exact ends.2.2.1 isLower
          · exact ends.2.2.2 isUpper
        rw [List.nil_append, parseExp, if_neg noMark]
  · have noDigit : Starts (isDigit · = false) rest :=
      stops.imp fun byte ends => ends.1
    rw [List.cons_append, List.append_assoc, parseExp, if_pos isMark,
      parseSign_append isSign (starts_digits areDigits rest)]
    simp only [parseDigits_append areDigits noDigit, Option.bind_eq_bind,
      Option.bind_some]

/-- The part of a number behind its integer part goes on with a point, with
the mark of an exponent or not at all. -/
theorem starts_exponent
    {exponent : Bytes} (isExponent : Exponent exponent)
    (stops : Starts EndsNumber rest) :
    Starts (fun byte => isDigit byte = false ∧ byte ≠ ascii '.')
      (exponent ++ rest) := by
  rcases isExponent with rfl | ⟨mark, sign, digits, rfl, isMark, -, -⟩
  · exact stops.imp fun byte ends => ⟨ends.1, ends.2.1⟩
  · apply starts_cons
    rcases isMark with rfl | rfl <;> decide

theorem starts_fraction
    {fraction : Bytes} (isFraction : Fraction fraction)
    (stops : Starts (isDigit · = false) rest) :
    Starts (isDigit · = false) (fraction ++ rest) := by
  rcases isFraction with rfl | ⟨digits, rfl, -⟩
  · exact stops
  · exact starts_cons (by decide) _

/-- A number is scanned as a whole, and converted. -/
theorem parseNumber_append
    (convert : Bytes → Option Json)
    {minus whole fraction exponent : Bytes}
    (number : Number minus whole fraction exponent)
    (stops : Starts EndsNumber rest) :
    parseNumber convert
        ((minus ++ (whole ++ (fraction ++ exponent))) ++ rest) =
      (convert (minus ++ (whole ++ (fraction ++ exponent)))).map
        fun value => (value, rest) := by
  have atExponent := starts_exponent number.exponent stops
  have noDigit : Starts (isDigit · = false) (exponent ++ rest) :=
    atExponent.imp fun byte holds => holds.1
  have noPoint : Starts (· ≠ ascii '.') (exponent ++ rest) :=
    atExponent.imp fun byte holds => holds.2
  have atFraction := starts_fraction number.fraction noDigit
  have atWhole :=
    starts_whole number.whole (fraction ++ (exponent ++ rest))
  simp only [parseNumber, List.append_assoc]
  rw [parseMinus_append number.minus atWhole]
  simp only [parseInt_append number.whole atFraction,
    parseFrac_append number.fraction noDigit noPoint,
    parseExp_append number.exponent stops, Option.bind_eq_bind,
    Option.bind_some, Option.map_eq_bind]
  rfl

end Numbers

/-! ## Strings -/

/-- The byte that an escape of two characters stands for. -/
def escapedByte : Escape → UInt8
  | .quotationMark => ascii '"'
  | .backslash => ascii '\\'
  | .slash => ascii '/'
  | .backspace => 8
  | .formFeed => 12
  | .lineFeed => 10
  | .carriageReturn => 13
  | .tab => 9

/-- The bytes of a string with these pieces.  A high surrogate that no low one
follows has none; a low surrogate on its own is encoded like any other code
unit. -/
def bytesOf : List Piece → Option Bytes
  | [] => some []
  | .unescaped character :: rest =>
      (bytesOf rest).map (String.utf8EncodeChar character ++ ·)
  | .escape escape :: rest => (bytesOf rest).map (escapedByte escape :: ·)
  | .unicode unit :: rest =>
      if isHighSurrogate unit then
        match rest with
        | .unicode low :: behind =>
            if isLowSurrogate low then
              (bytesOf behind).map (encode (surrogatePair unit low) ++ ·)
            else none
        | _ => none
      else (bytesOf rest).map (encode unit ++ ·)

section BytesOf

variable {unit : Nat} {pieces : List Piece}

theorem bytesOf_single (single : ¬ isHighSurrogate unit = true) :
    bytesOf (.unicode unit :: pieces) =
      (bytesOf pieces).map (encode unit ++ ·) := by
  rw [bytesOf.eq_def]
  exact if_neg single

theorem bytesOf_pair (high : isHighSurrogate unit = true) {low : Nat} :
    bytesOf (.unicode unit :: .unicode low :: pieces) =
      if isLowSurrogate low then
        (bytesOf pieces).map (encode (surrogatePair unit low) ++ ·)
      else none := by
  rw [bytesOf.eq_def]
  exact if_pos high

theorem bytesOf_unpaired
    (high : isHighSurrogate unit = true)
    (notUnicode : ∀ low behind, pieces = .unicode low :: behind → False) :
    bytesOf (.unicode unit :: pieces) = none := by
  rw [bytesOf.eq_def]
  refine (if_pos high).trans ?_
  split
  next low behind => exact (notUnicode low behind rfl).elim
  next => rfl

end BytesOf

/-- The reader reads the text and the quotation mark behind it as these bytes,
or finds an error. -/
def Scans (text : Bytes) (result : Option Bytes) : Prop :=
  ∀ (rest : Bytes) (passes : Nat), text.length < passes →
    parseStringToStream passes (text ++ ascii '"' :: rest) =
      result.map fun bytes => (bytes, rest)

theorem scans_nil : Scans [] (some []) := by
  intro rest passes enough
  cases passes with
  | zero => cases enough
  | succ passes => rfl

/-- A byte that stands for itself. -/
def Copied (byte : UInt8) : Prop :=
  byte ≠ ascii '\\' ∧ byte ≠ ascii '"' ∧ 32 ≤ byte.toNat

theorem Scans.copied
    {text : Bytes} {result : Option Bytes} (scans : Scans text result)
    {byte : UInt8} (copied : Copied byte) :
    Scans (byte :: text) (result.map (byte :: ·)) := by
  intro rest passes enough
  cases passes with
  | zero => cases enough
  | succ passes =>
      have behind := scans rest passes (Nat.lt_of_succ_lt_succ enough)
      rw [List.cons_append, parseStringToStream, if_neg copied.1,
        if_neg copied.2.1, if_neg (Nat.not_lt.mpr copied.2.2), behind]
      cases result <;> rfl

theorem Scans.copiedAll
    {text : Bytes} {result : Option Bytes} (scans : Scans text result)
    {bytes : Bytes} (copied : ∀ byte ∈ bytes, Copied byte) :
    Scans (bytes ++ text) (result.map (bytes ++ ·)) := by
  induction bytes with
  | nil =>
      cases result <;> exact scans
  | cons byte bytes inductionHypothesis =>
      have behind :=
        inductionHypothesis fun other member =>
          copied other (List.mem_cons_of_mem _ member)
      have here := behind.copied (copied byte List.mem_cons_self)
      rw [Option.map_map] at here
      exact here

/-- An escape that the reader takes as these bytes. -/
theorem Scans.escaped
    {text : Bytes} {result : Option Bytes} (scans : Scans text result)
    (body : Bytes) {bytes : Bytes}
    (escapes : ∀ rest,
      parseEscape (body ++ (text ++ ascii '"' :: rest)) =
        some (bytes, text ++ ascii '"' :: rest)) :
    Scans (ascii '\\' :: (body ++ text)) (result.map (bytes ++ ·)) := by
  intro rest passes enough
  cases passes with
  | zero => cases enough
  | succ passes =>
      have shorter : text.length < passes := by
        rw [List.length_cons, List.length_append] at enough
        omega
      have behind := scans rest passes shorter
      rw [List.cons_append, List.append_assoc, parseStringToStream,
        if_pos rfl, escapes]
      simp only [behind, Option.bind_eq_bind, Option.bind_some]
      cases result <;> rfl

/-- An escape that the reader rejects. -/
theorem scans_none
    {text : Bytes}
    (rejected : ∀ rest, parseEscape (text ++ ascii '"' :: rest) = none) :
    Scans (ascii '\\' :: text) none := by
  intro rest passes enough
  cases passes with
  | zero => cases enough
  | succ passes =>
      rw [List.cons_append, parseStringToStream, if_pos rfl, rejected]
      rfl

theorem copied_of_unescaped
    {character : Char} (unescaped : Unescaped character) :
    ∀ byte ∈ String.utf8EncodeChar character, Copied byte := by
  intro byte member
  have value := utf8EncodeChar_byte member
  have distinct
      {other : Char} (different : character ≠ other)
      (small : other.toNat < 128) : byte ≠ ascii other := by
    intro same
    have otherValue : (ascii other).toNat = other.toNat := by
      rw [ascii, UInt8.toNat_ofNat']
      omega
    rw [same, otherValue] at value
    rcases value with equal | large
    · exact different (Char.toNat_inj.mp equal.symm)
    · omega
  refine
    ⟨distinct unescaped.2.1 (by decide), distinct unescaped.1 (by decide), ?_⟩
  have large := unescaped.2.2
  omega

theorem parseHex4_eq_some
    {first second third fourth : UInt8} {unit : Nat}
    (hex : hexUnit first second third fourth = some unit) (rest : Bytes) :
    parseHex4 (first :: second :: third :: fourth :: rest) =
      some (unit, rest) := by
  simp only [hexUnit, Option.bind_eq_bind, Option.bind_eq_some_iff] at hex
  rcases hex with ⟨one, isOne, two, isTwo, three, isThree, four, isFour, same⟩
  have digit (c : UInt8) : hexDigit c = hexValue c := rfl
  simp only [parseHex4, parseHex, digit, isOne, isTwo, isThree, isFour,
    Option.bind_eq_bind, Option.bind_some, Nat.shiftLeft_eq]
  rw [← Option.some.inj same]
  congr 2
  omega

theorem parseEscape_letter (kind : Escape) (rest : Bytes) :
    parseEscape (kind.letter :: rest) = some ([escapedByte kind], rest) := by
  cases kind <;> rfl

theorem parseEscape_unicode (text : Bytes) :
    parseEscape (ascii 'u' :: text) = parseUnicode text :=
  rfl

section Unicode

variable {first second third fourth : UInt8} {unit : Nat}

theorem parseUnicode_single
    (hex : hexUnit first second third fourth = some unit)
    (single : isHighSurrogate unit = false) (rest : Bytes) :
    parseUnicode (first :: second :: third :: fourth :: rest) =
      some (encode unit, rest) := by
  rw [parseUnicode, parseHex4_eq_some hex]
  simp only [Option.bind_eq_bind, Option.bind_some, single]
  rfl

/-- A high surrogate needs an escape behind it. -/
theorem parseUnicode_unpaired
    (hex : hexUnit first second third fourth = some unit)
    (high : isHighSurrogate unit = true) {rest : Bytes}
    (noEscape :
      (consume (ascii '\\') rest).bind (consume (ascii 'u')) = none) :
    parseUnicode (first :: second :: third :: fourth :: rest) = none := by
  rw [parseUnicode, parseHex4_eq_some hex]
  simp only [Option.bind_eq_bind, Option.bind_some, high, if_true]
  rw [← Option.bind_assoc, noEscape]
  rfl

theorem parseUnicode_pair
    (hex : hexUnit first second third fourth = some unit)
    (high : isHighSurrogate unit = true)
    {fifth sixth seventh eighth : UInt8} {low : Nat}
    (lowHex : hexUnit fifth sixth seventh eighth = some low) (rest : Bytes) :
    parseUnicode
        (first :: second :: third :: fourth ::
          ascii '\\' :: ascii 'u' ::
            fifth :: sixth :: seventh :: eighth :: rest) =
      if isLowSurrogate low then
        some (encode (surrogatePair unit low), rest)
      else none := by
  rw [parseUnicode, parseHex4_eq_some hex]
  simp only [Option.bind_eq_bind, Option.bind_some, high, if_true,
    consume_self, parseHex4_eq_some lowHex]

end Unicode

/-- No other piece starts like a `\u` escape. -/
theorem noEscape_of_chars
    {pieces : List Piece} {text : Text} (chars : Chars pieces text)
    (notUnicode :
      ∀ low behind, pieces = .unicode low :: behind → False)
    (tail : Bytes) :
    (consume (ascii '\\') (text ++ ascii '"' :: tail)).bind
      (consume (ascii 'u')) = none := by
  cases chars with
  | nil => rfl
  | unescaped plain others =>
      rename_i character behind text
      have noBackslash :
          Starts (· ≠ ascii '\\')
            ((String.utf8EncodeChar character ++ text) ++
              ascii '"' :: tail) := by
        have copied := copied_of_unescaped plain
        cases encoded : String.utf8EncodeChar character with
        | nil => exact absurd encoded String.utf8EncodeChar_ne_nil
        | cons first bytes =>
            rw [encoded] at copied
            intro byte member
            cases member
            exact (copied first List.mem_cons_self).1
      rw [consume_eq_none noBackslash]
      rfl
  | escape kind others =>
      rw [List.cons_append, consume_self, Option.bind_some,
        List.cons_append, consume_eq_none]
      apply starts_cons
      cases kind <;> decide
  | unicode hex others => exact (notUnicode _ _ rfl).elim

/-- The reader reads the characters of a string as its bytes. -/
theorem scans_of_chars
    {pieces : List Piece} {text : Text} (chars : Chars pieces text) :
    Scans text (bytesOf pieces) := by
  induction pieces using bytesOf.induct generalizing text with
  | case1 =>
      cases chars
      exact scans_nil
  | case2 character rest inductionHypothesis =>
      cases chars
      next behind plain others =>
        rw [bytesOf]
        exact
          (inductionHypothesis others).copiedAll (copied_of_unescaped plain)
  | case3 kind rest inductionHypothesis =>
      cases chars
      next behind others =>
        rw [bytesOf]
        exact
          (inductionHypothesis others).escaped [kind.letter] fun _ =>
            parseEscape_letter kind _
  | case4 unit high low behind isLow inductionHypothesis =>
      cases chars with
      | unicode hex others =>
          cases others with
          | unicode lowHex others =>
              rw [bytesOf_pair high, if_pos isLow]
              refine
                (inductionHypothesis others).escaped
                  [ascii 'u', _, _, _, _, ascii '\\', ascii 'u', _, _, _, _]
                  fun tail => ?_
              exact
                (parseEscape_unicode _).trans
                  ((parseUnicode_pair hex high lowHex _).trans
                    (if_pos isLow))
  | case5 unit high low behind notLow =>
      cases chars with
      | unicode hex others =>
          cases others with
          | unicode lowHex others =>
              rw [bytesOf_pair high, if_neg notLow]
              apply scans_none
              intro tail
              exact
                (parseEscape_unicode _).trans
                  ((parseUnicode_pair hex high lowHex _).trans
                    (if_neg notLow))
  | case6 unit rest high notUnicode =>
      cases chars with
      | unicode hex others =>
          rw [bytesOf_unpaired high notUnicode]
          apply scans_none
          intro tail
          exact
            (parseEscape_unicode _).trans
              (parseUnicode_unpaired hex high
                (noEscape_of_chars others notUnicode tail))
  | case7 unit rest notHigh inductionHypothesis =>
      cases chars with
      | unicode hex others =>
          rw [bytesOf_single notHigh]
          refine
            (inductionHypothesis others).escaped [ascii 'u', _, _, _, _]
              fun tail => ?_
          exact
            (parseEscape_unicode _).trans
              (parseUnicode_single hex (Bool.not_eq_true _ ▸ notHigh) _)

end ChannelSdk.RapidJson
