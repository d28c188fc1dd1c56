import Mathlib.Data.List.Basic

/-!
# The grammar of JSON texts

RFC 8259 over the bytes of a text in UTF-8, as a relation between a text and
the syntax tree that it spells.  A tree keeps what the tokens say: the pieces
of a string, the bytes of a number.  White space stands around the values that
the grammar separates, so `element` is a value with the white space on both
sides of it, and a whole text is an element.

White space is the only place for control characters.  A text without its
newlines, or without any other choice of control characters, therefore spells
the same tree.
-/

namespace JsonGrammar

abbrev Text := List UInt8

/-- The byte of an ASCII character. -/
def ascii (character : Char) : UInt8 :=
  UInt8.ofNat character.toNat

/-! ## Tokens -/

def isSpace (byte : UInt8) : Bool :=
  byte = ascii ' ' || byte = ascii '\t' || byte = ascii '\n' ||
    byte = ascii '\r'

def Space (text : Text) : Prop :=
  ∀ byte ∈ text, isSpace byte = true

theorem space_nil : Space [] :=
  fun _ member => nomatch member

theorem Space.cons
    {byte : UInt8} {text : Text} (first : isSpace byte = true)
    (space : Space text) : Space (byte :: text) := by
  intro other member
  rcases List.mem_cons.mp member with rfl | member
  · exact first
  · exact space other member

def isDigit (byte : UInt8) : Bool :=
  ascii '0' ≤ byte && byte ≤ ascii '9'

/-- One or more digits. -/
def Digits (text : Text) : Prop :=
  text ≠ [] ∧ ∀ byte ∈ text, isDigit byte = true

def Minus (text : Text) : Prop :=
  text = [] ∨ text = [ascii '-']

def Whole (text : Text) : Prop :=
  text = [ascii '0'] ∨
    ∃ first rest, text = first :: rest ∧ first ≠ ascii '0' ∧
      isDigit first = true ∧ ∀ byte ∈ rest, isDigit byte = true

def Fraction (text : Text) : Prop :=
  text = [] ∨ ∃ digits, text = ascii '.' :: digits ∧ Digits digits

def Sign (text : Text) : Prop :=
  text = [] ∨ text = [ascii '+'] ∨ text = [ascii '-']

def Exponent (text : Text) : Prop :=
  text = [] ∨
    ∃ mark sign digits, text = mark :: (sign ++ digits) ∧
      (mark = ascii 'e' ∨ mark = ascii 'E') ∧ Sign sign ∧ Digits digits

/-- A number, by its parts. -/
structure Number (minus whole fraction exponent : Text) : Prop where
  minus : Minus minus
  whole : Whole whole
  fraction : Fraction fraction
  exponent : Exponent exponent

def hexValue (byte : UInt8) : Option Nat :=
  if ascii '0' ≤ byte ∧ byte ≤ ascii '9' then some (byte.toNat - 48)
  else if ascii 'A' ≤ byte ∧ byte ≤ ascii 'F' then some (byte.toNat - 55)
  else if ascii 'a' ≤ byte ∧ byte ≤ ascii 'f' then some (byte.toNat - 87)
  else none

/-- The code unit of four digits. -/
def hexUnit (first second third fourth : UInt8) : Option Nat := do
  let first ← hexValue first
  let second ← hexValue second
  let third ← hexValue third
  let fourth ← hexValue fourth
  some (((first * 16 + second) * 16 + third) * 16 + fourth)

/-- The escapes of two characters. -/
inductive Escape where
  | quotationMark
  | backslash
  | slash
  | backspace
  | formFeed
  | lineFeed
  | carriageReturn
  | tab
  deriving DecidableEq, Repr

def Escape.letter : Escape → UInt8
  | quotationMark => ascii '"'
  | backslash => ascii '\\'
  | slash => ascii '/'
  | backspace => ascii 'b'
  | formFeed => ascii 'f'
  | lineFeed => ascii 'n'
  | carriageReturn => ascii 'r'
  | tab => ascii 't'

/-- One `char` of a string; a `\u` escape stands for a code unit. -/
inductive Piece where
  | unescaped (character : Char)
  | escape (escape : Escape)
  | unicode (unit : Nat)
  deriving DecidableEq, Repr

/-- The characters that need no escape. -/
def Unescaped (character : Char) : Prop :=
  character ≠ '"' ∧ character ≠ '\\' ∧ 32 ≤ character.toNat

/-- The text between the quotation marks of a string. -/
inductive Chars : List Piece → Text → Prop
  | nil : Chars [] []
  | unescaped {character : Char} {pieces : List Piece} {text : Text} :
      Unescaped character → Chars pieces text →
      Chars (.unescaped character :: pieces)
        (String.utf8EncodeChar character ++ text)
  | escape (escape : Escape) {pieces : List Piece} {text : Text} :
      Chars pieces text →
      Chars (.escape escape :: pieces)
        (ascii '\\' :: escape.letter :: text)
  | unicode {first second third fourth : UInt8} {unit : Nat}
      {pieces : List Piece} {text : Text} :
      hexUnit first second third fourth = some unit → Chars pieces text →
      Chars (.unicode unit :: pieces)
        (ascii '\\' :: ascii 'u' ::
          first :: second :: third :: fourth :: text)

/-! ## Texts -/

inductive Tree where
  | null
  | bool (value : Bool)
  | number (text : Text)
  | string (pieces : List Piece)
  | array (elements : List Tree)
  | object (members : List (List Piece × Tree))

/-- What a part of a text spells. -/
inductive Part where
  | value (tree : Tree)
  | element (tree : Tree)
  | elements (trees : List Tree)
  | member (entry : List Piece × Tree)
  | members (entries : List (List Piece × Tree))

/-- A string with its quotation marks. -/
def quoted (text : Text) : Text :=
  ascii '"' :: (text ++ [ascii '"'])

/-- The grammar. -/
inductive Spells : Part → Text → Prop
  | nullToken : Spells (.value .null) ("null".toList.map ascii)
  | trueToken : Spells (.value (.bool true)) ("true".toList.map ascii)
  | falseToken : Spells (.value (.bool false)) ("false".toList.map ascii)
  | number {minus whole fraction exponent : Text} :
      Number minus whole fraction exponent →
      Spells (.value (.number (minus ++ (whole ++ (fraction ++ exponent)))))
        (minus ++ (whole ++ (fraction ++ exponent)))
  | string {pieces : List Piece} {text : Text} :
      Chars pieces text →
      Spells (.value (.string pieces)) (quoted text)
  | emptyArray {space : Text} :
      Space space →
      Spells (.value (.array [])) (ascii '[' :: (space ++ [ascii ']']))
  | array {trees : List Tree} {text : Text} :
      Spells (.elements trees) text →
      Spells (.value (.array trees)) (ascii '[' :: (text ++ [ascii ']']))
  | emptyObject {space : Text} :
      Space space →
      Spells (.value (.object []))
        (ascii '\x7b' :: (space ++ [ascii '\x7d']))
  | object {entries : List (List Piece × Tree)} {text : Text} :
      Spells (.members entries) text →
      Spells (.value (.object entries))
        (ascii '\x7b' :: (text ++ [ascii '\x7d']))
  | element {tree : Tree} {before text after : Text} :
      Space before → Spells (.value tree) text → Space after →
      Spells (.element tree) (before ++ (text ++ after))
  | lastElement {tree : Tree} {text : Text} :
      Spells (.element tree) text →
      Spells (.elements [tree]) text
  | elements {tree : Tree} {trees : List Tree} {text others : Text} :
      Spells (.element tree) text → Spells (.elements trees) others →
      Spells (.elements (tree :: trees)) (text ++ ascii ',' :: others)
  | member {name : List Piece} {tree : Tree}
      {before text after value : Text} :
      Space before → Chars name text → Space after →
      Spells (.element tree) value →
      Spells (.member (name, tree))
        (before ++ (quoted text ++ (after ++ ascii ':' :: value)))
  | lastMember {entry : List Piece × Tree} {text : Text} :
      Spells (.member entry) text →
      Spells (.members [entry]) text
  | members {entry : List Piece × Tree}
      {entries : List (List Piece × Tree)} {text others : Text} :
      Spells (.member entry) text → Spells (.members entries) others →
      Spells (.members (entry :: entries)) (text ++ ascii ',' :: others)

/-- The text of a document. -/
def Document (tree : Tree) (text : Text) : Prop :=
  Spells (.element tree) text

/-! ## The bytes of a text -/

/-- No byte is a control character. -/
def Visible (text : Text) : Prop :=
  ∀ byte ∈ text, 32 ≤ byte.toNat

theorem Visible.append
    {text others : Text} (visible : Visible text)
    (othersVisible : Visible others) : Visible (text ++ others) := by
  intro byte member
  rcases List.mem_append.mp member with here | there
  · exact visible byte here
  · exact othersVisible byte there

theorem Visible.cons
    {byte : UInt8} {text : Text} (first : 32 ≤ byte.toNat)
    (visible : Visible text) : Visible (byte :: text) := by
  intro other member
  rcases List.mem_cons.mp member with rfl | member
  · exact first
  · exact visible other member

theorem visible_nil : Visible [] :=
  fun _ member => nomatch member

theorem visible_of_all
    {text : Text}
    (all : (text.all fun byte => decide (32 ≤ byte.toNat)) = true) :
    Visible text :=
  fun byte member => of_decide_eq_true (List.all_eq_true.mp all byte member)

theorem visible_words :
    Visible ("null".toList.map ascii) ∧ Visible ("true".toList.map ascii) ∧
      Visible ("false".toList.map ascii) :=
  ⟨visible_of_all (by decide), visible_of_all (by decide),
    visible_of_all (by decide)⟩

theorem visible_of_isDigit
    {byte : UInt8} (digit : isDigit byte = true) : 32 ≤ byte.toNat := by
  simp only [isDigit, Bool.and_eq_true, decide_eq_true_eq,
    UInt8.le_iff_toNat_le] at digit
  have lower : 48 ≤ byte.toNat := digit.1
  omega

theorem visible_of_digits
    {text : Text} (digits : ∀ byte ∈ text, isDigit byte = true) :
    Visible text :=
  fun byte member => visible_of_isDigit (digits byte member)

theorem Number.visible
    {minus whole fraction exponent : Text}
    (number : Number minus whole fraction exponent) :
    Visible (minus ++ (whole ++ (fraction ++ exponent))) := by
  have minusVisible : Visible minus := by
    rcases number.minus with rfl | rfl
    · exact visible_nil
    · exact visible_nil.cons (by decide)
  have wholeVisible : Visible whole := by
    rcases number.whole with rfl | ⟨first, rest, rfl, -, digit, digits⟩
    · exact visible_nil.cons (by decide)
    · exact (visible_of_digits digits).cons (visible_of_isDigit digit)
  have fractionVisible : Visible fraction := by
    rcases number.fraction with rfl | ⟨digits, rfl, -, areDigits⟩
    · exact visible_nil
    · exact (visible_of_digits areDigits).cons (by decide)
  have exponentVisible : Visible exponent := by
    rcases number.exponent with
      rfl | ⟨mark, sign, digits, rfl, isMark, isSign, -, areDigits⟩
    · exact visible_nil
    · have signVisible : Visible sign := by
        rcases isSign with rfl | rfl | rfl
        · exact visible_nil
        · exact visible_nil.cons (by decide)
        · exact visible_nil.cons (by decide)
      apply (signVisible.append (visible_of_digits areDigits)).cons
      rcases isMark with rfl | rfl <;> decide
  exact
    minusVisible.append
      (wholeVisible.append (fractionVisible.append exponentVisible))

/-- A byte of an encoded character is the character or has the top bit set. -/
theorem utf8EncodeChar_byte
    {character : Char} {byte : UInt8}
    (member : byte ∈ String.utf8EncodeChar character) :
    byte.toNat = character.toNat ∨ 128 ≤ byte.toNat := by
  unfold String.utf8EncodeChar at member
  have value : character.toNat = character.val.toNat := rfl
  dsimp only at member
  split at member
  · simp only [List.mem_cons, List.not_mem_nil, or_false] at member
    left
    rw [member, UInt8.toNat_ofNat']
    omega
  · right
    split at member
    · simp only [List.mem_cons, List.not_mem_nil, or_false] at member
      rcases member with rfl | rfl <;>
        (rw [UInt8.toNat_ofNat']; omega)
    · split at member
      · simp only [List.mem_cons, List.not_mem_nil, or_false] at member
        rcases member with rfl | rfl | rfl <;>
          (rw [UInt8.toNat_ofNat']; omega)
      · simp only [List.mem_cons, List.not_mem_nil, or_false] at member
        rcases member with rfl | rfl | rfl | rfl <;>
          (rw [UInt8.toNat_ofNat']; omega)

theorem visible_of_hexValue
    {byte : UInt8} {value : Nat} (hex : hexValue byte = some value) :
    32 ≤ byte.toNat := by
  unfold hexValue at hex
  simp only [UInt8.le_iff_toNat_le] at hex
  split at hex
  next digit =>
    have lower : 48 ≤ byte.toNat := digit.1
    omega
  next =>
    split at hex
    next upper =>
      have lower : 65 ≤ byte.toNat := upper.1
      omega
    next =>
      split at hex
      next lowercase =>
        have lower : 97 ≤ byte.toNat := lowercase.1
        omega
      next => cases hex

theorem hexUnit_eq_some
    {first second third fourth : UInt8} {unit : Nat}
    (hex : hexUnit first second third fourth = some unit) :
    Visible [first, second, third, fourth] := by
  simp only [hexUnit, Option.bind_eq_bind, Option.bind_eq_some_iff] at hex
  rcases hex with ⟨_, one, _, two, _, three, _, four, -⟩
  exact
    (((visible_nil.cons (visible_of_hexValue four)).cons
      (visible_of_hexValue three)).cons
        (visible_of_hexValue two)).cons (visible_of_hexValue one)

theorem Chars.visible
    {pieces : List Piece} {text : Text} (chars : Chars pieces text) :
    Visible text := by
  induction chars with
  | nil => exact visible_nil
  | unescaped plain _ inductionHypothesis =>
      apply Visible.append _ inductionHypothesis
      intro byte member
      have large := plain.2.2
      rcases utf8EncodeChar_byte member with same | high
      · omega
      · omega
  | escape escape _ inductionHypothesis =>
      apply (inductionHypothesis.cons _).cons (by decide)
      cases escape <;> decide
  | unicode hex _ inductionHypothesis =>
      have digits := (hexUnit_eq_some hex).append inductionHypothesis
      exact (digits.cons (by decide)).cons (by decide)

theorem quoted_visible {text : Text} (visible : Visible text) :
    Visible (quoted text) :=
  (visible.append (visible_nil.cons (by decide))).cons (by decide)

/-- Every byte is white space or no control character. -/
def Printed (text : Text) : Prop :=
  ∀ byte ∈ text, isSpace byte = true ∨ 32 ≤ byte.toNat

theorem Visible.printed {text : Text} (visible : Visible text) :
    Printed text :=
  fun byte member => .inr (visible byte member)

theorem Space.printed {text : Text} (space : Space text) : Printed text :=
  fun byte member => .inl (space byte member)

theorem Printed.append
    {text others : Text} (printed : Printed text)
    (othersPrinted : Printed others) : Printed (text ++ others) := by
  intro byte member
  rcases List.mem_append.mp member with here | there
  · exact printed byte here
  · exact othersPrinted byte there

theorem Printed.enclosed
    {text : Text} (printed : Printed text) {first last : UInt8}
    (firstVisible : 32 ≤ first.toNat) (lastVisible : 32 ≤ last.toNat) :
    Printed (first :: (text ++ [last])) :=
  (visible_nil.cons firstVisible).printed.append
    (printed.append (visible_nil.cons lastVisible).printed)

theorem Printed.separated
    {text others : Text} (printed : Printed text)
    (othersPrinted : Printed others) {byte : UInt8}
    (visible : 32 ≤ byte.toNat) : Printed (text ++ byte :: others) :=
  printed.append ((visible_nil.cons visible).printed.append othersPrinted)

/-- The grammar admits no control characters but white space. -/
theorem Spells.printed
    {part : Part} {text : Text} (spells : Spells part text) :
    Printed text := by
  induction spells with
  | nullToken => exact visible_words.1.printed
  | trueToken => exact visible_words.2.1.printed
  | falseToken => exact visible_words.2.2.printed
  | number number => exact number.visible.printed
  | string chars => exact (quoted_visible chars.visible).printed
  | emptyArray space => exact space.printed.enclosed (by decide) (by decide)
  | array _ inductionHypothesis =>
      exact inductionHypothesis.enclosed (by decide) (by decide)
  | emptyObject space => exact space.printed.enclosed (by decide) (by decide)
  | object _ inductionHypothesis =>
      exact inductionHypothesis.enclosed (by decide) (by decide)
  | element before _ after inductionHypothesis =>
      exact before.printed.append (inductionHypothesis.append after.printed)
  | lastElement _ inductionHypothesis => exact inductionHypothesis
  | elements _ _ inductionFirst inductionOthers =>
      exact inductionFirst.separated inductionOthers (by decide)
  | member before chars after _ inductionHypothesis =>
      have name := (quoted_visible chars.visible).printed
      exact
        before.printed.append
          (name.append
            (after.printed.separated inductionHypothesis (by decide)))
  | lastMember _ inductionHypothesis => exact inductionHypothesis
  | members _ _ inductionFirst inductionOthers =>
      exact inductionFirst.separated inductionOthers (by decide)

/-! ## Texts without control characters -/

section Filter

variable {kept : UInt8 → Bool}

theorem Visible.filter_eq
    (keeps : ∀ byte, 32 ≤ byte.toNat → kept byte = true)
    {text : Text} (visible : Visible text) : text.filter kept = text :=
  List.filter_eq_self.mpr fun byte member =>
    keeps byte (visible byte member)

theorem Space.filter {text : Text} (space : Space text) :
    Space (text.filter kept) :=
  fun byte member => space byte (List.mem_filter.mp member).1

theorem filter_ascii
    (keeps : ∀ byte, 32 ≤ byte.toNat → kept byte = true)
    (character : Char) (visible : 32 ≤ (ascii character).toNat)
    (rest : Text) :
    (ascii character :: rest).filter kept =
      ascii character :: rest.filter kept :=
  List.filter_cons_of_pos (keeps _ visible)

/-- Dropping control characters joins no tokens and changes none, so the text
still spells the same. -/
theorem Spells.filter
    (keeps : ∀ byte, 32 ≤ byte.toNat → kept byte = true)
    {part : Part} {text : Text} (spells : Spells part text) :
    Spells part (text.filter kept) := by
  have token {visibleText : Text} (visible : Visible visibleText) :
      visibleText.filter kept = visibleText :=
    visible.filter_eq keeps
  have enclosed
      (first last : Char) (firstVisible : 32 ≤ (ascii first).toNat)
      (lastVisible : 32 ≤ (ascii last).toNat) (inside : Text) :
      (ascii first :: (inside ++ [ascii last])).filter kept =
        ascii first :: (inside.filter kept ++ [ascii last]) := by
    rw [filter_ascii keeps first firstVisible, List.filter_append,
      filter_ascii keeps last lastVisible, List.filter_nil]
  induction spells with
  | nullToken =>
      rw [token visible_words.1]
      exact .nullToken
  | trueToken =>
      rw [token visible_words.2.1]
      exact .trueToken
  | falseToken =>
      rw [token visible_words.2.2]
      exact .falseToken
  | number number =>
      rw [token number.visible]
      exact .number number
  | string chars =>
      rw [token (quoted_visible chars.visible)]
      exact .string chars
  | emptyArray space =>
      rw [enclosed '[' ']' (by decide) (by decide)]
      exact .emptyArray space.filter
  | array _ inductionHypothesis =>
      rw [enclosed '[' ']' (by decide) (by decide)]
      exact .array inductionHypothesis
  | emptyObject space =>
      rw [enclosed '\x7b' '\x7d' (by decide) (by decide)]
      exact .emptyObject space.filter
  | object _ inductionHypothesis =>
      rw [enclosed '\x7b' '\x7d' (by decide) (by decide)]
      exact .object inductionHypothesis
  | element before _ after inductionHypothesis =>
      rw [List.filter_append, List.filter_append]
      exact .element before.filter inductionHypothesis after.filter
  | lastElement _ inductionHypothesis =>
      exact .lastElement inductionHypothesis
  | elements _ _ inductionFirst inductionOthers =>
      rw [List.filter_append, filter_ascii keeps ',' (by decide)]
      exact .elements inductionFirst inductionOthers
  | member before chars after _ inductionHypothesis =>
      rw [List.filter_append, List.filter_append,
        token (quoted_visible chars.visible), List.filter_append,
        filter_ascii keeps ':' (by decide)]
      exact .member before.filter chars after.filter inductionHypothesis
  | lastMember _ inductionHypothesis =>
      exact .lastMember inductionHypothesis
  | members _ _ inductionFirst inductionOthers =>
      rw [List.filter_append, filter_ascii keeps ',' (by decide)]
      exact .members inductionFirst inductionOthers

end Filter

/-! ## The ends of a text -/

/-- The bytes with which a value can start. -/
def StartsValue (byte : UInt8) : Prop :=
  byte = ascii 'n' ∨ byte = ascii 't' ∨ byte = ascii 'f' ∨
    byte = ascii '"' ∨ byte = ascii '[' ∨ byte = ascii '\x7b' ∨
    byte = ascii '-' ∨ isDigit byte = true

theorem Number.starts
    {minus whole fraction exponent : Text}
    (number : Number minus whole fraction exponent) :
    ∃ first rest,
      minus ++ (whole ++ (fraction ++ exponent)) = first :: rest ∧
        (first = ascii '-' ∨ isDigit first = true) := by
  rcases number.minus with rfl | rfl
  · rcases number.whole with rfl | ⟨first, rest, rfl, -, digit, -⟩
    · exact ⟨_, _, rfl, .inr (by decide)⟩
    · exact ⟨_, _, rfl, .inr digit⟩
  · exact ⟨_, _, rfl, .inl rfl⟩

theorem Spells.starts
    {tree : Tree} {text : Text} (spells : Spells (.value tree) text) :
    ∃ first rest, text = first :: rest ∧ StartsValue first := by
  cases spells with
  | nullToken => exact ⟨_, _, rfl, .inl rfl⟩
  | trueToken => exact ⟨_, _, rfl, .inr (.inl rfl)⟩
  | falseToken => exact ⟨_, _, rfl, .inr (.inr (.inl rfl))⟩
  | number number =>
      obtain ⟨first, rest, starts, possible⟩ := number.starts
      refine ⟨first, rest, starts, ?_⟩
      unfold StartsValue
      tauto
  | string => exact ⟨_, _, rfl, .inr (.inr (.inr (.inl rfl)))⟩
  | emptyArray => exact ⟨_, _, rfl, .inr (.inr (.inr (.inr (.inl rfl))))⟩
  | array => exact ⟨_, _, rfl, .inr (.inr (.inr (.inr (.inl rfl))))⟩
  | emptyObject =>
      exact ⟨_, _, rfl, .inr (.inr (.inr (.inr (.inr (.inl rfl)))))⟩
  | object =>
      exact ⟨_, _, rfl, .inr (.inr (.inr (.inr (.inr (.inl rfl)))))⟩

end JsonGrammar
