import ChannelSdk.RapidJsonBounds
import ChannelSdk.RapidJsonGrammar
import Mathlib.Data.List.TakeWhile

/-!
# What the reader accepts

Every text that the reader accepts is a text of the grammar, if its bytes are
characters in UTF-8: the reader itself does not look at the bytes of a
character.  What a function of the reader takes from the front of a text is a
part of the grammar, and what it leaves behind starts with a character again.

Together with the reading of the texts of the grammar this says exactly which
texts are accepted and as which documents.
-/

namespace ChannelSdk.RapidJson

open CheckedMemory JsonGrammar

/-! ## Characters -/

/-- The bytes of characters in UTF-8. -/
def Encoded (text : Bytes) : Prop :=
  ∃ characters : List Char, text = characters.flatMap String.utf8EncodeChar

/-- Every byte is an ASCII character. -/
def Plain (text : Bytes) : Prop :=
  ∀ byte ∈ text, byte.toNat < 128

theorem plain_nil : Plain [] :=
  fun _ member => nomatch member

theorem Plain.cons
    {byte : UInt8} {text : Bytes} (first : byte.toNat < 128)
    (plain : Plain text) : Plain (byte :: text) :=
  List.forall_mem_cons.mpr ⟨first, plain⟩

theorem Plain.append
    {text others : Bytes} (plain : Plain text) (othersPlain : Plain others) :
    Plain (text ++ others) :=
  List.forall_mem_append.mpr ⟨plain, othersPlain⟩

theorem plain_of_all
    {text : Bytes}
    (all : (text.all fun byte => decide (byte.toNat < 128)) = true) :
    Plain text :=
  fun byte member => of_decide_eq_true (List.all_eq_true.mp all byte member)

theorem utf8EncodeChar_ascii
    {character : Char} (small : character.toNat < 128) :
    String.utf8EncodeChar character = [ascii character] := by
  have size : character.utf8Size = 1 := by
    rw [Char.utf8Size_eq_one_iff, UInt32.le_iff_toNat_le]
    have value : character.toNat = character.val.toNat := rfl
    have bound : (127 : UInt32).toNat = 127 := rfl
    omega
  rw [String.utf8EncodeChar_eq_singleton size]
  rfl

theorem Encoded.split
    {byte : UInt8} {rest : Bytes} (encoded : Encoded (byte :: rest)) :
    ∃ character behind,
      byte :: rest = String.utf8EncodeChar character ++ behind ∧
        Encoded behind := by
  obtain ⟨characters, spelled⟩ := encoded
  cases characters with
  | nil => cases spelled
  | cons character others =>
      rw [List.flatMap_cons] at spelled
      exact ⟨character, _, spelled, others, rfl⟩

/-- A byte below 128 is a character of its own. -/
theorem Encoded.behind
    {byte : UInt8} {rest : Bytes} (encoded : Encoded (byte :: rest))
    (small : byte.toNat < 128) : Encoded rest := by
  obtain ⟨character, behind, spelled, encodedBehind⟩ := encoded.split
  have nonempty : String.utf8EncodeChar character ≠ [] :=
    String.utf8EncodeChar_ne_nil
  obtain ⟨first, others, spelling⟩ := List.exists_cons_of_ne_nil nonempty
  rw [spelling, List.cons_append] at spelled
  obtain ⟨rfl, rfl⟩ := List.cons.inj spelled
  have member : byte ∈ String.utf8EncodeChar character := by
    rw [spelling]
    exact List.mem_cons_self
  obtain same | large := utf8EncodeChar_byte member
  · rw [utf8EncodeChar_ascii (by omega)] at spelling
    obtain ⟨-, rfl⟩ := List.cons.inj spelling
    exact encodedBehind
  · omega

theorem Encoded.drop
    (consumed : Bytes) {rest : Bytes} (encoded : Encoded (consumed ++ rest))
    (plain : Plain consumed) : Encoded rest := by
  induction consumed with
  | nil => exact encoded
  | cons byte others inductionHypothesis =>
      refine inductionHypothesis ?_ ?_
      · exact encoded.behind (plain byte List.mem_cons_self)
      · intro other member
        exact plain other (List.mem_cons_of_mem _ member)

/-- What a reader takes from a text belongs to the grammar, and what it leaves
behind starts with a character. -/
def Sound {Value : Type} (reader : Reader Value)
    (grammar : Bytes → Prop) : Prop :=
  ∀ {text : Bytes} {value : Value} {rest : Bytes}, Encoded text →
    reader text = some (value, rest) →
      ∃ consumed, text = consumed ++ rest ∧ grammar consumed ∧ Encoded rest

/-! ## White space and numbers -/

theorem plain_of_isSpace
    {byte : UInt8} (space : isSpace byte = true) : byte.toNat < 128 := by
  simp only [isSpace, Bool.or_eq_true, decide_eq_true_eq] at space
  obtain ((same | same) | same) | same := space <;> rw [same] <;> decide

/-- The skipped bytes are white space. -/
theorem skipWhitespace_sound
    {text : Bytes} (encoded : Encoded text) :
    ∃ space, text = space ++ skipWhitespace text ∧ Space space ∧
      Encoded (skipWhitespace text) := by
  have divided : text = text.takeWhile isSpace ++ skipWhitespace text :=
    List.takeWhile_append_dropWhile.symm
  have space : Space (text.takeWhile isSpace) := by
    intro byte member
    exact List.mem_takeWhile_imp member
  refine ⟨_, divided, space, ?_⟩
  rw [divided] at encoded
  exact
    Encoded.drop _ encoded fun byte member =>
      plain_of_isSpace (space byte member)

theorem plain_of_isDigit
    {byte : UInt8} (digit : isDigit byte = true) : byte.toNat < 128 := by
  simp only [isDigit, Bool.and_eq_true, decide_eq_true_eq,
    UInt8.le_iff_toNat_le] at digit
  have upper : byte.toNat ≤ 57 := digit.2
  omega

theorem takeDigits_sound (text : Bytes) :
    text = (takeDigits text).1 ++ (takeDigits text).2 ∧
      ∀ byte ∈ (takeDigits text).1, isDigit byte = true := by
  refine ⟨List.takeWhile_append_dropWhile.symm, ?_⟩
  intro byte member
  exact List.mem_takeWhile_imp member

theorem parseDigits_sound
    {text digits rest : Bytes}
    (read : parseDigits text = some (digits, rest)) :
    text = digits ++ rest ∧ Digits digits := by
  rw [parseDigits] at read
  dsimp only at read
  split at read
  · cases read
  · next nonempty =>
      cases read
      obtain ⟨divided, areDigits⟩ := takeDigits_sound text
      exact ⟨divided, nonempty, areDigits⟩

theorem parseMinus_sound (text : Bytes) :
    text = (parseMinus text).1 ++ (parseMinus text).2 ∧
      Minus (parseMinus text).1 := by
  rw [parseMinus]
  split
  · next consumed => exact ⟨consume_eq_some consumed, .inr rfl⟩
  · exact ⟨rfl, .inl rfl⟩

theorem parseInt_sound
    {text whole rest : Bytes} (read : parseInt text = some (whole, rest)) :
    text = whole ++ rest ∧ Whole whole := by
  cases text with
  | nil => cases read
  | cons first others =>
      rw [parseInt] at read
      split at read
      · next isZero =>
          cases read
          exact ⟨rfl, .inl (by rw [isZero])⟩
      · next notZero =>
          split at read
          · next digit =>
              cases read
              obtain ⟨divided, areDigits⟩ := takeDigits_sound others
              refine ⟨congrArg (first :: ·) divided, .inr ?_⟩
              exact ⟨first, _, rfl, notZero, digit, areDigits⟩
          · cases read

theorem parseFrac_sound
    {text fraction rest : Bytes}
    (read : parseFrac text = some (fraction, rest)) :
    text = fraction ++ rest ∧ Fraction fraction := by
  rw [parseFrac] at read
  split at read
  · next consumed =>
      obtain ⟨⟨digits, behind⟩, readDigits, same⟩ :=
        Option.bind_eq_some_iff.mp read
      cases same
      obtain ⟨divided, areDigits⟩ := parseDigits_sound readDigits
      rw [consume_eq_some consumed, divided]
      exact ⟨rfl, .inr ⟨digits, rfl, areDigits⟩⟩
  · cases read
    exact ⟨rfl, .inl rfl⟩

theorem parseSign_sound (text : Bytes) :
    text = (parseSign text).1 ++ (parseSign text).2 ∧
      Sign (parseSign text).1 := by
  rw [parseSign]
  split
  · next consumed => exact ⟨consume_eq_some consumed, .inr (.inl rfl)⟩
  · split
    · next consumed => exact ⟨consume_eq_some consumed, .inr (.inr rfl)⟩
    · exact ⟨rfl, .inl rfl⟩

theorem parseExp_sound
    {text exponent rest : Bytes}
    (read : parseExp text = some (exponent, rest)) :
    text = exponent ++ rest ∧ Exponent exponent := by
  cases text with
  | nil =>
      cases read
      exact ⟨rfl, .inl rfl⟩
  | cons mark others =>
      rw [parseExp] at read
      split at read
      · next isMark =>
          obtain ⟨⟨digits, behind⟩, readDigits, same⟩ :=
            Option.bind_eq_some_iff.mp read
          cases same
          obtain ⟨signed, isSign⟩ := parseSign_sound others
          obtain ⟨divided, areDigits⟩ := parseDigits_sound readDigits
          refine ⟨?_, .inr ⟨mark, _, digits, rfl, isMark, isSign, areDigits⟩⟩
          have whole := congrArg ((parseSign others).1 ++ ·) divided
          rw [List.cons_append, List.append_assoc]
          exact congrArg (mark :: ·) (signed.trans whole)
      · cases read
        exact ⟨rfl, .inl rfl⟩

theorem plain_of_number
    {minus whole fraction exponent : Bytes}
    (number : Number minus whole fraction exponent) :
    Plain (minus ++ (whole ++ (fraction ++ exponent))) := by
  have digitsPlain {digits : Bytes}
      (areDigits : ∀ byte ∈ digits, isDigit byte = true) : Plain digits :=
    fun byte member => plain_of_isDigit (areDigits byte member)
  obtain ⟨isMinus, isWhole, isFraction, isExponent⟩ := number
  have minusPlain : Plain minus := by
    obtain rfl | rfl := isMinus
    · exact plain_nil
    · exact plain_nil.cons (by decide)
  have wholePlain : Plain whole := by
    obtain rfl | ⟨first, rest, rfl, -, digit, digits⟩ := isWhole
    · exact plain_nil.cons (by decide)
    · exact (digitsPlain digits).cons (plain_of_isDigit digit)
  have fractionPlain : Plain fraction := by
    obtain rfl | ⟨digits, rfl, areDigits⟩ := isFraction
    · exact plain_nil
    · exact (digitsPlain areDigits.2).cons (by decide)
  have exponentPlain : Plain exponent := by
    obtain rfl | ⟨mark, sign, digits, rfl, isMark, isSign, areDigits⟩ :=
      isExponent
    · exact plain_nil
    · have signPlain : Plain sign := by
        obtain rfl | rfl | rfl := isSign
        · exact plain_nil
        · exact plain_nil.cons (by decide)
        · exact plain_nil.cons (by decide)
      refine (signPlain.append (digitsPlain areDigits.2)).cons ?_
      obtain rfl | rfl := isMark
      · decide
      · decide
  exact minusPlain.append
    (wholePlain.append (fractionPlain.append exponentPlain))

theorem parseNumber_sound (convert : Bytes → Option Json) :
    Sound (parseNumber convert)
      fun consumed => ∃ tree, Spells (.value tree) consumed := by
  intro text value rest encoded read
  simp only [parseNumber, Option.bind_eq_bind,
    Option.bind_eq_some_iff] at read
  obtain ⟨⟨whole, afterWhole⟩, readWhole, ⟨fraction, afterFraction⟩,
    readFraction, ⟨exponent, afterExponent⟩, readExponent, number,
    -, same⟩ := read
  cases same
  obtain ⟨minusDivided, isMinus⟩ := parseMinus_sound text
  obtain ⟨wholeDivided, isWhole⟩ := parseInt_sound readWhole
  obtain ⟨fractionDivided, isFraction⟩ := parseFrac_sound readFraction
  obtain ⟨exponentDivided, isExponent⟩ := parseExp_sound readExponent
  have isNumber : Number _ whole fraction exponent :=
    ⟨isMinus, isWhole, isFraction, isExponent⟩
  have divided :
      text =
        ((parseMinus text).1 ++ (whole ++ (fraction ++ exponent))) ++
          afterExponent := by
    rw [List.append_assoc, List.append_assoc, List.append_assoc,
      ← exponentDivided, ← fractionDivided, ← wholeDivided]
    exact minusDivided
  refine ⟨_, divided, ⟨_, .number isNumber⟩, ?_⟩
  rw [divided] at encoded
  exact Encoded.drop _ encoded (plain_of_number isNumber)

/-! ## Strings -/

theorem plain_of_hexValue
    {byte : UInt8} {value : Nat} (hex : hexValue byte = some value) :
    byte.toNat < 128 := by
  unfold hexValue at hex
  simp only [UInt8.le_iff_toNat_le] at hex
  split at hex
  · next digit =>
      have upper : byte.toNat ≤ 57 := digit.2
      omega
  · split at hex
    · next letter =>
        have upper : byte.toNat ≤ 70 := letter.2
        omega
    · split at hex
      · next letter =>
          have upper : byte.toNat ≤ 102 := letter.2
          omega
      · cases hex

theorem parseHex_succ
    {codepoint digits unit : Nat} {text rest : Bytes}
    (read : parseHex codepoint (digits + 1) text = some (unit, rest)) :
    ∃ byte value others,
      text = byte :: others ∧ hexValue byte = some value ∧
        parseHex ((codepoint <<< 4) + value) digits others =
          some (unit, rest) := by
  cases text with
  | nil => cases read
  | cons byte others =>
      obtain ⟨value, isValue, behind⟩ := Option.bind_eq_some_iff.mp read
      exact ⟨byte, value, others, rfl, isValue, behind⟩

theorem parseHex4_sound
    {unit : Nat} {text rest : Bytes}
    (read : parseHex4 text = some (unit, rest)) :
    ∃ first second third fourth,
      text = first :: second :: third :: fourth :: rest ∧
        hexUnit first second third fourth = some unit ∧
        Plain [first, second, third, fourth] := by
  obtain ⟨first, one, _, rfl, isOne, read⟩ := parseHex_succ read
  obtain ⟨second, two, _, rfl, isTwo, read⟩ := parseHex_succ read
  obtain ⟨third, three, _, rfl, isThree, read⟩ := parseHex_succ read
  obtain ⟨fourth, four, _, rfl, isFour, read⟩ := parseHex_succ read
  cases read
  refine ⟨first, second, third, fourth, rfl, ?_, ?_⟩
  · simp only [hexUnit, isOne, isTwo, isThree, isFour, Option.bind_eq_bind,
      Option.bind_some, Nat.shiftLeft_eq]
    congr 1
    omega
  · exact
      (((plain_nil.cons (plain_of_hexValue isFour)).cons
        (plain_of_hexValue isThree)).cons
          (plain_of_hexValue isTwo)).cons (plain_of_hexValue isOne)

/-- The escape of a letter in the table. -/
theorem exists_escape
    {letter byte : UInt8} (found : escape letter = some byte) :
    ∃ kind : Escape, letter = kind.letter := by
  unfold escape at found
  by_cases isMark : letter = ascii '"'
  · exact ⟨.quotationMark, isMark⟩
  by_cases isSlash : letter = ascii '/'
  · exact ⟨.slash, isSlash⟩
  by_cases isBackslash : letter = ascii '\\'
  · exact ⟨.backslash, isBackslash⟩
  by_cases isBackspace : letter = ascii 'b'
  · exact ⟨.backspace, isBackspace⟩
  by_cases isFeed : letter = ascii 'f'
  · exact ⟨.formFeed, isFeed⟩
  by_cases isLine : letter = ascii 'n'
  · exact ⟨.lineFeed, isLine⟩
  by_cases isReturn : letter = ascii 'r'
  · exact ⟨.carriageReturn, isReturn⟩
  by_cases isTab : letter = ascii 't'
  · exact ⟨.tab, isTab⟩
  simp [isMark, isSlash, isBackslash, isBackspace, isFeed, isLine,
    isReturn, isTab] at found

/-- Some pieces of a string in front of others. -/
def Prepends (body : Bytes) : Prop :=
  ∀ {pieces : List Piece} {text : Bytes}, Chars pieces text →
    ∃ more, Chars more (body ++ text)

theorem parseUnicode_sound :
    Sound parseUnicode fun consumed =>
      Prepends (ascii '\\' :: ascii 'u' :: consumed) := by
  intro text value rest encoded read
  obtain ⟨⟨unit, behind⟩, readHex, readBehind⟩ :=
    Option.bind_eq_some_iff.mp read
  obtain ⟨first, second, third, fourth, rfl, hex, plain⟩ :=
    parseHex4_sound readHex
  clear read
  dsimp only at readBehind
  have encodedBehind : Encoded behind :=
    Encoded.drop [first, second, third, fourth] encoded plain
  split at readBehind
  · obtain ⟨afterSlash, slash, readPair⟩ :=
      Option.bind_eq_some_iff.mp readBehind
    obtain ⟨afterLetter, letter, readPair⟩ :=
      Option.bind_eq_some_iff.mp readPair
    obtain ⟨⟨low, last⟩, readLow, ends⟩ := Option.bind_eq_some_iff.mp readPair
    obtain rfl := consume_eq_some slash
    obtain rfl := consume_eq_some letter
    obtain ⟨fifth, sixth, seventh, eighth, rfl, lowHex, lowPlain⟩ :=
      parseHex4_sound readLow
    dsimp only at ends
    split at ends
    · have same : last = rest := (Prod.mk.inj (Option.some.inj ends)).2
      subst same
      refine
        ⟨[first, second, third, fourth, ascii '\\', ascii 'u', fifth, sixth,
          seventh, eighth], rfl, ?_, ?_⟩
      · intro pieces others chars
        exact ⟨_, .unicode hex (.unicode lowHex chars)⟩
      · have plainPair :
            Plain [ascii '\\', ascii 'u', fifth, sixth, seventh, eighth] :=
          (lowPlain.cons (by decide)).cons (by decide)
        exact Encoded.drop _ encodedBehind plainPair
    · cases ends
  · have same : behind = rest := (Prod.mk.inj (Option.some.inj readBehind)).2
    subst same
    refine ⟨[first, second, third, fourth], rfl, ?_, encodedBehind⟩
    intro pieces others chars
    exact ⟨_, .unicode hex chars⟩

theorem parseEscape_sound :
    Sound parseEscape fun consumed => Prepends (ascii '\\' :: consumed) := by
  intro text value rest encoded read
  cases text with
  | nil => cases read
  | cons letter others =>
      rw [parseEscape] at read
      split at read
      · next byte found =>
          cases read
          obtain ⟨kind, rfl⟩ := exists_escape found
          refine ⟨[kind.letter], rfl, ?_, encoded.behind ?_⟩
          · intro pieces text chars
            exact ⟨_, .escape kind chars⟩
          · cases kind <;> decide
      · split at read
        · next isUnicode =>
            subst isUnicode
            obtain ⟨consumed, rfl, prepends, encodedRest⟩ :=
              parseUnicode_sound (encoded.behind (by decide)) read
            exact ⟨ascii 'u' :: consumed, rfl, prepends, encodedRest⟩
        · cases read

/-- The bytes of a character above the control characters that needs no escape
are copied one by one. -/
theorem parseStringToStream_copied
    {block : Bytes} (copied : ∀ byte ∈ block, Copied byte)
    {passes : Nat} {text bytes rest : Bytes}
    (read :
      parseStringToStream passes (block ++ text) = some (bytes, rest)) :
    ∃ fewer more,
      fewer + block.length = passes ∧
        parseStringToStream fewer text = some (more, rest) := by
  induction block generalizing passes bytes with
  | nil => exact ⟨passes, bytes, rfl, read⟩
  | cons byte others inductionHypothesis =>
      cases passes with
      | zero => cases read
      | succ passes =>
          obtain ⟨notBackslash, notMark, large⟩ :=
            copied byte List.mem_cons_self
          rw [List.cons_append, parseStringToStream, if_neg notBackslash,
            if_neg notMark, if_neg (Nat.not_lt.mpr large)] at read
          obtain ⟨⟨behind, last⟩, readBehind, same⟩ :=
            Option.bind_eq_some_iff.mp read
          cases same
          obtain ⟨fewer, more, counted, readMore⟩ :=
            inductionHypothesis
              (fun other member =>
                copied other (List.mem_cons_of_mem _ member)) readBehind
          refine ⟨fewer, more, ?_, readMore⟩
          rw [List.length_cons]
          omega

/-- A character that starts with a byte that needs no escape. -/
theorem unescaped_of_copied
    {character : Char} {first : UInt8} {others : Bytes}
    (spelling : String.utf8EncodeChar character = first :: others)
    (copied : Copied first) : Unescaped character := by
  have single (small : character.toNat < 128) : first = ascii character := by
    rw [utf8EncodeChar_ascii small] at spelling
    exact (List.cons.inj spelling).1.symm
  obtain ⟨notBackslash, notMark, large⟩ := copied
  refine ⟨?_, ?_, ?_⟩
  · rintro rfl
    exact notMark (single (by decide))
  · rintro rfl
    exact notBackslash (single (by decide))
  · by_contra small
    have value := single (by omega)
    rw [value, ascii, UInt8.toNat_ofNat'] at large
    omega

theorem Encoded.unescaped
    {first : UInt8} {others : Bytes} (encoded : Encoded (first :: others))
    (copied : Copied first) :
    ∃ character behind,
      first :: others = String.utf8EncodeChar character ++ behind ∧
        Unescaped character ∧ Encoded behind := by
  obtain ⟨character, behind, spelled, encodedBehind⟩ := encoded.split
  have nonempty : String.utf8EncodeChar character ≠ [] :=
    String.utf8EncodeChar_ne_nil
  obtain ⟨lead, trail, spelling⟩ := List.exists_cons_of_ne_nil nonempty
  refine ⟨character, behind, spelled, ?_, encodedBehind⟩
  rw [spelling] at spelled
  obtain ⟨rfl, -⟩ := List.cons.inj spelled
  exact unescaped_of_copied spelling copied

theorem length_utf8EncodeChar_pos (character : Char) :
    0 < (String.utf8EncodeChar character).length :=
  List.length_pos_iff.mpr String.utf8EncodeChar_ne_nil

/-- The induction is on the passes; a character takes as many of them as it
has bytes. -/
theorem parseStringToStream_sound (passes : Nat) :
    Sound (parseStringToStream passes) fun consumed =>
      ∃ pieces chars, consumed = chars ++ [ascii '"'] ∧ Chars pieces chars := by
  induction passes using Nat.strong_induction_on with
  | _ passes inductionHypothesis =>
    intro text bytes rest encoded read
    cases passes with
    | zero => cases read
    | succ passes =>
      cases text with
      | nil => cases read
      | cons first others =>
        have whole := read
        rw [parseStringToStream] at read
        split at read
        · next isBackslash =>
            clear whole
            subst isBackslash
            obtain ⟨⟨taken, behind⟩, readEscape, read⟩ :=
              Option.bind_eq_some_iff.mp read
            obtain ⟨⟨more, last⟩, readMore, same⟩ :=
              Option.bind_eq_some_iff.mp read
            cases same
            obtain ⟨escaped, rfl, prepends, encodedBehind⟩ :=
              parseEscape_sound (encoded.behind (by decide)) readEscape
            obtain ⟨_, rfl, ⟨pieces, chars, rfl, spelled⟩, encodedRest⟩ :=
              inductionHypothesis passes (Nat.lt_succ_self _) encodedBehind
                readMore
            obtain ⟨all, allSpelled⟩ := prepends spelled
            refine ⟨_, ?_, ⟨all, _, rfl, allSpelled⟩, encodedRest⟩
            simp only [List.cons_append, List.append_assoc]
        · split at read
          · next isMark =>
              subst isMark
              cases read
              exact
                ⟨[ascii '"'], rfl, ⟨[], [], rfl, .nil⟩,
                  encoded.behind (by decide)⟩
          · split at read
            · cases read
            · next notBackslash notMark large =>
                obtain ⟨character, behind, spelled, unescaped, encodedBehind⟩ :=
                  encoded.unescaped
                    ⟨notBackslash, notMark, Nat.not_lt.mp large⟩
                rw [spelled] at whole ⊢
                obtain ⟨fewer, more, counted, readMore⟩ :=
                  parseStringToStream_copied (copied_of_unescaped unescaped)
                    whole
                have nonempty := length_utf8EncodeChar_pos character
                obtain ⟨_, rfl, ⟨pieces, chars, rfl, later⟩, encodedRest⟩ :=
                  inductionHypothesis fewer (by omega) encodedBehind readMore
                refine
                  ⟨_, ?_, ⟨_, _, rfl, .unescaped unescaped later⟩, encodedRest⟩
                simp only [List.append_assoc]

theorem parseString_sound :
    Sound parseString fun consumed =>
      ∃ pieces chars, consumed = chars ++ [ascii '"'] ∧ Chars pieces chars := by
  intro text value rest encoded read
  obtain ⟨⟨bytes, behind⟩, readStream, same⟩ := Option.bind_eq_some_iff.mp read
  cases same
  exact parseStringToStream_sound _ encoded readStream

/-! ## Items between brackets -/

/-- A grammar of several items with commas between them, white space in front
included. -/
structure Lists (single several : Bytes → Prop) : Prop where
  last : ∀ {text : Bytes}, single text → several text
  more : ∀ {text others : Bytes}, single text → several others →
    several (text ++ ascii ',' :: others)
  padded : ∀ {space text : Bytes}, Space space → several text →
    several (space ++ text)

section Items

variable {Item : Type} {parseItem : Reader Item} {closing : UInt8}
variable {single several : Bytes → Prop}

theorem parseItems_sound
    (lists : Lists single several) (sound : Sound parseItem single)
    (plain : closing.toNat < 128) (passes : Nat) :
    Sound (parseItems parseItem closing passes) fun consumed =>
      ∃ inside, consumed = inside ++ [closing] ∧ several inside := by
  induction passes with
  | zero =>
      intro text items rest _ read
      cases read
  | succ passes inductionHypothesis =>
      intro text items rest encoded read
      obtain ⟨⟨item, behind⟩, readItem, readBehind⟩ :=
        Option.bind_eq_some_iff.mp read
      clear read
      obtain ⟨first, rfl, isSingle, encodedBehind⟩ := sound encoded readItem
      dsimp only at readBehind
      split at readBehind
      · cases readBehind
      · next next others =>
          split at readBehind
          · next isComma =>
              subst isComma
              obtain ⟨⟨more, last⟩, readMore, same⟩ :=
                Option.bind_eq_some_iff.mp readBehind
              cases same
              obtain ⟨space, divided, isWhite, encodedOthers⟩ :=
                skipWhitespace_sound (encodedBehind.behind (by decide))
              obtain ⟨_, taken, ⟨inside, rfl, isSeveral⟩, encodedRest⟩ :=
                inductionHypothesis encodedOthers readMore
              rw [taken] at divided
              rw [divided]
              refine
                ⟨_, ?_,
                  ⟨_, rfl, lists.more isSingle (lists.padded isWhite isSeveral)⟩,
                  encodedRest⟩
              simp only [List.append_assoc, List.cons_append]
          · split at readBehind
            · next isClosing =>
                subst isClosing
                cases readBehind
                refine
                  ⟨first ++ [next], ?_, ⟨first, rfl, lists.last isSingle⟩,
                    encodedBehind.behind plain⟩
                rw [List.append_assoc, List.singleton_append]
            · cases readBehind

theorem parseEnclosed_sound
    (lists : Lists single several) (sound : Sound parseItem single)
    (plain : closing.toNat < 128) :
    Sound (parseEnclosed parseItem closing) fun consumed =>
      ∃ inside, consumed = inside ++ [closing] ∧
        (Space inside ∨ several inside) := by
  intro text items rest encoded read
  obtain ⟨space, divided, isWhite, encodedBehind⟩ :=
    skipWhitespace_sound encoded
  rw [parseEnclosed] at read
  split at read
  · next behind closed =>
      cases read
      rw [consume_eq_some closed] at divided encodedBehind
      rw [divided]
      refine
        ⟨space ++ [closing], ?_, ⟨space, rfl, .inl isWhite⟩,
          encodedBehind.behind plain⟩
      rw [List.append_assoc, List.singleton_append]
  · obtain ⟨_, taken, ⟨inside, rfl, isSeveral⟩, encodedRest⟩ :=
      parseItems_sound lists sound plain _ encodedBehind read
    rw [taken] at divided
    rw [divided]
    refine
      ⟨_, ?_, ⟨_, rfl, .inr (lists.padded isWhite isSeveral)⟩, encodedRest⟩
    simp only [List.append_assoc]

end Items

/-! ## Elements and members -/

/-- The text spells a part of this kind. -/
def SpellsSome {Kind : Type} (part : Kind → Part) (text : Bytes) : Prop :=
  ∃ kind, Spells (part kind) text

theorem spells_padded_element
    {tree : Tree} {space text : Bytes} (isWhite : Space space)
    (spells : Spells (.element tree) text) :
    Spells (.element tree) (space ++ text) := by
  cases spells with
  | element before value after =>
      rw [← List.append_assoc]
      exact .element (List.forall_mem_append.mpr ⟨isWhite, before⟩) value after

theorem spells_padded_member
    {entry : List Piece × Tree} {space text : Bytes} (isWhite : Space space)
    (spells : Spells (.member entry) text) :
    Spells (.member entry) (space ++ text) := by
  cases spells with
  | member before name after value =>
      rw [← List.append_assoc]
      exact .member (List.forall_mem_append.mpr ⟨isWhite, before⟩) name after value

theorem lists_elements :
    Lists (SpellsSome .element) (SpellsSome .elements) where
  last := by
    rintro text ⟨tree, element⟩
    exact ⟨[tree], .lastElement element⟩
  more := by
    rintro text others ⟨tree, element⟩ ⟨trees, elements⟩
    exact ⟨tree :: trees, .elements element elements⟩
  padded := by
    rintro space text isWhite ⟨trees, elements⟩
    refine ⟨trees, ?_⟩
    cases elements with
    | lastElement element =>
        exact .lastElement (spells_padded_element isWhite element)
    | elements element others =>
        rw [← List.append_assoc]
        exact .elements (spells_padded_element isWhite element) others

theorem lists_members :
    Lists (SpellsSome .member) (SpellsSome .members) where
  last := by
    rintro text ⟨entry, member⟩
    exact ⟨[entry], .lastMember member⟩
  more := by
    rintro text others ⟨entry, member⟩ ⟨entries, members⟩
    exact ⟨entry :: entries, .members member members⟩
  padded := by
    rintro space text isWhite ⟨entries, members⟩
    refine ⟨entries, ?_⟩
    cases members with
    | lastMember member =>
        exact .lastMember (spells_padded_member isWhite member)
    | members member others =>
        rw [← List.append_assoc]
        exact .members (spells_padded_member isWhite member) others

section Around

variable {readValue : Reader Json}

theorem parseElement_sound
    (sound : Sound readValue (SpellsSome .value)) :
    Sound (parseElement readValue) (SpellsSome .element) := by
  intro text value rest encoded read
  obtain ⟨⟨_, behind⟩, readFirst, same⟩ := Option.bind_eq_some_iff.mp read
  cases same
  obtain ⟨taken, rfl, ⟨tree, spelled⟩, encodedBehind⟩ :=
    sound encoded readFirst
  obtain ⟨space, divided, isWhite, encodedRest⟩ :=
    skipWhitespace_sound encodedBehind
  refine ⟨taken ++ space, ?_, ⟨tree, ?_⟩, encodedRest⟩
  · rw [List.append_assoc, ← divided]
  · exact .element space_nil spelled isWhite

theorem parseMember_sound
    (sound : Sound readValue (SpellsSome .value)) :
    Sound (parseMember readValue) (SpellsSome .member) := by
  intro text value rest encoded read
  obtain ⟨afterMark, mark, readName⟩ := Option.bind_eq_some_iff.mp read
  obtain ⟨⟨name, afterName⟩, named, readColon⟩ :=
    Option.bind_eq_some_iff.mp readName
  obtain ⟨afterColon, colon, readElement⟩ :=
    Option.bind_eq_some_iff.mp readColon
  obtain ⟨⟨element, last⟩, readLast, same⟩ :=
    Option.bind_eq_some_iff.mp readElement
  cases same
  rw [consume_eq_some mark] at encoded ⊢
  obtain ⟨_, rfl, ⟨pieces, chars, rfl, spelledName⟩, encodedName⟩ :=
    parseString_sound (encoded.behind (by decide)) named
  obtain ⟨after, dividedAfter, isAfter, encodedColon⟩ :=
    skipWhitespace_sound encodedName
  rw [consume_eq_some colon] at dividedAfter encodedColon
  obtain ⟨before, dividedBefore, isBefore, encodedValue⟩ :=
    skipWhitespace_sound (encodedColon.behind (by decide))
  obtain ⟨inside, taken, ⟨tree, spelled⟩, encodedRest⟩ :=
    parseElement_sound sound encodedValue readLast
  rw [taken] at dividedBefore
  rw [dividedBefore] at dividedAfter
  rw [dividedAfter]
  refine ⟨_, ?_, ⟨(pieces, tree), .member space_nil spelledName isAfter
    (spells_padded_element isBefore spelled)⟩, encodedRest⟩
  simp only [quoted, List.nil_append, List.append_assoc, List.cons_append]

end Around

/-! ## Values -/

theorem consumeAll_sound
    {expected text rest : Bytes}
    (consumed : consumeAll expected text = some rest) :
    text = expected ++ rest := by
  induction expected generalizing text with
  | nil =>
      cases consumed
      rfl
  | cons expect others inductionHypothesis =>
      obtain ⟨behind, first, consumedOthers⟩ :=
        Option.bind_eq_some_iff.mp consumed
      rw [consume_eq_some first, inductionHypothesis consumedOthers]
      rfl

theorem plain_words :
    Plain (ascii 'n' :: "ull".toList.map ascii) ∧
      Plain (ascii 't' :: "rue".toList.map ascii) ∧
      Plain (ascii 'f' :: "alse".toList.map ascii) :=
  ⟨plain_of_all (by decide), plain_of_all (by decide),
    plain_of_all (by decide)⟩

theorem spells_words :
    Spells (.value .null) (ascii 'n' :: "ull".toList.map ascii) ∧
      Spells (.value (.bool true)) (ascii 't' :: "rue".toList.map ascii) ∧
      Spells (.value (.bool false))
        (ascii 'f' :: "alse".toList.map ascii) := by
  rw [← words.1, ← words.2.1, ← words.2.2]
  exact ⟨.nullToken, .trueToken, .falseToken⟩

/-- A word is taken with the letter that announces it. -/
theorem word_sound
    {expected : Bytes} {first : UInt8} {word value : Json} {tree : Tree}
    {text rest : Bytes} (plain : Plain (first :: expected))
    (spelled : Spells (.value tree) (first :: expected))
    (encoded : Encoded (first :: text))
    (read :
      ((consumeAll expected text).bind fun text => some (word, text)) =
        some (value, rest)) :
    ∃ consumed,
      first :: text = consumed ++ rest ∧ SpellsSome .value consumed ∧
        Encoded rest := by
  obtain ⟨last, consumed, same⟩ := Option.bind_eq_some_iff.mp read
  cases same
  rw [consumeAll_sound consumed] at encoded ⊢
  exact
    ⟨first :: expected, rfl, ⟨tree, spelled⟩,
      Encoded.drop (first :: expected) encoded plain⟩

section Values

variable {convert : Bytes → Option Json} {readValue : Reader Json}

theorem parseArray_sound
    (sound : Sound readValue (SpellsSome .value)) {text rest : Bytes}
    {value : Json} (encoded : Encoded text)
    (read : parseArray readValue text = some (value, rest)) :
    ∃ consumed,
      text = consumed ++ rest ∧
        SpellsSome .value (ascii '[' :: consumed) ∧ Encoded rest := by
  obtain ⟨⟨elements, last⟩, readElements, same⟩ :=
    Option.bind_eq_some_iff.mp read
  cases same
  obtain ⟨_, rfl, ⟨inside, rfl, spelled⟩, encodedRest⟩ :=
    parseEnclosed_sound lists_elements (parseElement_sound sound) (by decide)
      encoded readElements
  refine ⟨_, rfl, ?_, encodedRest⟩
  obtain isWhite | ⟨trees, elements⟩ := spelled
  · exact ⟨_, .emptyArray isWhite⟩
  · exact ⟨_, .array elements⟩

theorem parseObject_sound
    (sound : Sound readValue (SpellsSome .value)) {text rest : Bytes}
    {value : Json} (encoded : Encoded text)
    (read : parseObject readValue text = some (value, rest)) :
    ∃ consumed,
      text = consumed ++ rest ∧
        SpellsSome .value (ascii '\x7b' :: consumed) ∧ Encoded rest := by
  obtain ⟨⟨members, last⟩, readMembers, same⟩ :=
    Option.bind_eq_some_iff.mp read
  cases same
  obtain ⟨_, rfl, ⟨inside, rfl, spelled⟩, encodedRest⟩ :=
    parseEnclosed_sound lists_members (parseMember_sound sound) (by decide)
      encoded readMembers
  refine ⟨_, rfl, ?_, encodedRest⟩
  obtain isWhite | ⟨entries, members⟩ := spelled
  · exact ⟨_, .emptyObject isWhite⟩
  · exact ⟨_, .object members⟩

/-- The induction is on the depth of the calls. -/
theorem parseValue_sound (convert : Bytes → Option Json) (depth : Nat) :
    Sound (parseValue convert depth) (SpellsSome .value) := by
  induction depth with
  | zero =>
      intro text value rest _ read
      cases read
  | succ depth inductionHypothesis =>
      intro text value rest encoded read
      cases text with
      | nil => cases read
      | cons first others =>
        rw [parseValue] at read
        split at read
        · next isFirst =>
            subst isFirst
            exact word_sound plain_words.1 spells_words.1 encoded read
        split at read
        · next isFirst =>
            subst isFirst
            exact
              word_sound plain_words.2.1 spells_words.2.1 encoded read
        split at read
        · next isFirst =>
            subst isFirst
            exact
              word_sound plain_words.2.2 spells_words.2.2 encoded read
        split at read
        · next isMark =>
            subst isMark
            obtain ⟨⟨string, last⟩, readString, same⟩ :=
              Option.bind_eq_some_iff.mp read
            cases same
            obtain ⟨_, rfl, ⟨pieces, chars, rfl, spelled⟩, encodedRest⟩ :=
              parseString_sound (encoded.behind (by decide)) readString
            exact ⟨quoted chars, rfl, ⟨_, .string spelled⟩, encodedRest⟩
        split at read
        · next isBrace =>
            subst isBrace
            obtain ⟨inside, rfl, spelled, encodedRest⟩ :=
              parseObject_sound inductionHypothesis
                (encoded.behind (by decide)) read
            exact ⟨ascii '\x7b' :: inside, rfl, spelled, encodedRest⟩
        split at read
        · next isBracket =>
            subst isBracket
            obtain ⟨inside, rfl, spelled, encodedRest⟩ :=
              parseArray_sound inductionHypothesis
                (encoded.behind (by decide)) read
            exact ⟨ascii '[' :: inside, rfl, spelled, encodedRest⟩
        · exact parseNumber_sound convert encoded read

end Values

/-! ## Texts -/

/-- A text that is accepted is a text of the grammar. -/
theorem document_of_parse
    {convert : Bytes → Option Json} {text : Bytes} (encoded : Encoded text)
    {json : Json} (parsed : parse convert text = some json) :
    ∃ tree, Document tree text := by
  obtain ⟨⟨value, rest⟩, readValue, ends⟩ := Option.bind_eq_some_iff.mp parsed
  dsimp only at ends
  split at ends
  · next nothing =>
      subst nothing
      obtain ⟨space, divided, isWhite, encodedText⟩ :=
        skipWhitespace_sound encoded
      obtain ⟨taken, whole, ⟨tree, spelled⟩, -⟩ :=
        parseElement_sound (parseValue_sound convert _) encodedText readValue
      rw [List.append_nil] at whole
      rw [whole] at divided
      rw [divided]
      exact ⟨tree, spells_padded_element isWhite spelled⟩
  · cases ends

/-- The texts in UTF-8 that the reader accepts are the texts of the grammar
whose trees have a document, and it accepts them as this document. -/
theorem parse_eq_some_iff
    (convert : Bytes → Option Json) {text : Bytes} (encoded : Encoded text)
    (json : Json) :
    parse convert text = some json ↔
      ∃ tree, Document tree text ∧ documentOf convert tree = some json := by
  constructor
  · intro parsed
    obtain ⟨tree, document⟩ := document_of_parse encoded parsed
    rw [parse_eq_documentOf document] at parsed
    exact ⟨tree, document, parsed⟩
  · rintro ⟨tree, document, built⟩
    rw [parse_eq_documentOf document, built]

/-- A name with an accent and the empty list. -/
def accented : List Char :=
  "\x7b\"é\":[]\x7d".toList

/-- The reader takes other bytes above the control characters too. -/
example :
    parse (fun _ => none) [ascii '"', 0xFF, ascii '"'] =
      some (.string (ofBytes [0xFF])) := rfl

theorem parse_eq_some_iff_accented :
    (parse (fun _ => none) (accented.flatMap String.utf8EncodeChar)).isSome ∧
      ∀ json,
        parse (fun _ => none) (accented.flatMap String.utf8EncodeChar) =
            some json ↔
          ∃ tree,
            Document tree (accented.flatMap String.utf8EncodeChar) ∧
              documentOf (fun _ => none) tree = some json :=
  ⟨by decide, fun json =>
    parse_eq_some_iff (fun _ => none) ⟨accented, rfl⟩ json⟩

end ChannelSdk.RapidJson
