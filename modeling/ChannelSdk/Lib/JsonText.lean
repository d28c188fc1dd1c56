import Mathlib.Data.List.Basic

/-!
# JSON texts of strings, lists and objects

A reader for the JSON grammar of strings, arrays and objects: white space
between the tokens, every escape of a string with the surrogate pairs of
`\u`, and no raw control characters.  A format pairs a reader with a printer
that escapes nothing, and with the values on which the reader inverts the
printer.

The reader never returns a value whose print is longer than the text that it
has consumed, and when the two are equally long the value is one that prints
plainly.  A plain print therefore reads back as itself, and no other print
reads back as a value of the same length.
-/

namespace JsonText

/-- A reader of the front of a text, with the text behind it. -/
abbrev Reader (α : Type) := List Char → Option (α × List Char)

def isSpace (character : Char) : Bool :=
  character = ' ' || character = '\t' || character = '\n' ||
    character = '\r'

def skipSpace (text : List Char) : List Char :=
  text.dropWhile isSpace

theorem length_skipSpace_le (text : List Char) :
    (skipSpace text).length ≤ text.length :=
  (List.dropWhile_sublist isSpace).length_le

theorem skipSpace_cons
    {first : Char} (visible : isSpace first = false) (rest : List Char) :
    skipSpace (first :: rest) = first :: rest := by
  simp [skipSpace, visible]

/-! ## Characters of a string -/

def hexValue (character : Char) : Option Nat :=
  if '0' ≤ character ∧ character ≤ '9' then some (character.toNat - 48)
  else if 'a' ≤ character ∧ character ≤ 'f' then
    some (character.toNat - 87)
  else if 'A' ≤ character ∧ character ≤ 'F' then
    some (character.toNat - 55)
  else none

/-- The four digits of a `\u` escape. -/
def readUnit : Reader Nat
  | first :: second :: third :: fourth :: rest => do
      let first ← hexValue first
      let second ← hexValue second
      let third ← hexValue third
      let fourth ← hexValue fourth
      some (((first * 16 + second) * 16 + third) * 16 + fourth, rest)
  | _ => none

/-- A `\u` escape behind its first two characters: a code unit, or the two of
a surrogate pair. -/
def readUnicode (text : List Char) : Option (Char × List Char) := do
  let (unit, rest) ← readUnit text
  if 0xD800 ≤ unit ∧ unit ≤ 0xDBFF then
    match rest with
    | '\\' :: 'u' :: rest =>
        let (low, rest) ← readUnit rest
        if 0xDC00 ≤ low ∧ low ≤ 0xDFFF then
          some (Char.ofNat
            (0x10000 + (unit - 0xD800) * 0x400 + (low - 0xDC00)), rest)
        else none
    | _ => none
  else if 0xDC00 ≤ unit ∧ unit ≤ 0xDFFF then none
  else some (Char.ofNat unit, rest)

/-- An escape behind its backslash. -/
def readEscape : Reader Char
  | [] => none
  | kind :: rest =>
      if kind = 'u' then readUnicode rest
      else if kind = '"' ∨ kind = '\\' ∨ kind = '/' then some (kind, rest)
      else if kind = 'b' then some ('\x08', rest)
      else if kind = 'f' then some ('\x0c', rest)
      else if kind = 'n' then some ('\n', rest)
      else if kind = 'r' then some ('\r', rest)
      else if kind = 't' then some ('\t', rest)
      else none

/-- A character that stands for itself in a string. -/
def PlainCharacter (character : Char) : Prop :=
  character ≠ '"' ∧ character ≠ '\\' ∧ 32 ≤ character.toNat

instance (character : Char) : Decidable (PlainCharacter character) :=
  inferInstanceAs
    (Decidable (character ≠ '"' ∧ character ≠ '\\' ∧ 32 ≤ character.toNat))

/-- One character of a string, raw or escaped. -/
def readCharacter : Reader Char
  | [] => none
  | first :: rest =>
      if first = '\\' then readEscape rest
      else if PlainCharacter first then some (first, rest)
      else none

theorem readUnit_length
    {text rest : List Char} {unit : Nat}
    (read : readUnit text = some (unit, rest)) :
    rest.length + 4 = text.length := by
  match text with
  | [] | [_] | [_, _] | [_, _, _] => cases read
  | first :: second :: third :: fourth :: behind =>
      simp only [readUnit, Option.bind_eq_bind, Option.bind_eq_some_iff]
        at read
      rcases read with ⟨_, -, _, -, _, -, _, -, same⟩
      cases same
      simp

theorem readUnicode_length
    {text rest : List Char} {character : Char}
    (read : readUnicode text = some (character, rest)) :
    rest.length < text.length := by
  rcases Option.bind_eq_some_iff.mp read with
    ⟨⟨unit, behind⟩, readHigh, read⟩
  have consumed : behind.length + 4 = text.length := readUnit_length readHigh
  dsimp only at read
  split at read
  · split at read
    next low after =>
      rcases Option.bind_eq_some_iff.mp read with
        ⟨⟨lowUnit, last⟩, readLow, read⟩
      have consumedLow : last.length + 4 = after.length :=
        readUnit_length readLow
      dsimp only at read
      split at read
      · have same : last = rest := (Prod.mk.inj (Option.some.inj read)).2
        rw [List.length_cons, List.length_cons, ← consumedLow, same]
          at consumed
        omega
      · cases read
    next => cases read
  · split at read
    · cases read
    · have same : behind = rest := (Prod.mk.inj (Option.some.inj read)).2
      rw [same] at consumed
      omega

theorem readEscape_length
    {text rest : List Char} {character : Char}
    (read : readEscape text = some (character, rest)) :
    rest.length < text.length := by
  cases text with
  | nil => cases read
  | cons kind behind =>
      rw [List.length_cons]
      rw [readEscape] at read
      by_cases unicode : kind = 'u'
      · rw [if_pos unicode] at read
        have consumed := readUnicode_length read
        omega
      · rw [if_neg unicode] at read
        repeat' split at read
        all_goals
          cases read
          try omega

theorem readCharacter_plain
    {character : Char} (plain : PlainCharacter character)
    (rest : List Char) :
    readCharacter (character :: rest) = some (character, rest) := by
  rw [readCharacter, if_neg plain.2.1, if_pos plain]

/-- A character takes up at least one of the text, and exactly one only when
it stands for itself. -/
theorem readCharacter_tight
    {text rest : List Char} {character : Char}
    (read : readCharacter text = some (character, rest)) :
    rest.length + 1 ≤ text.length ∧
      (rest.length + 1 = text.length → PlainCharacter character) := by
  cases text with
  | nil => cases read
  | cons first behind =>
      rw [List.length_cons]
      rw [readCharacter] at read
      split at read
      · have consumed := readEscape_length read
        exact ⟨by omega, fun same => by omega⟩
      · split at read
        next plain =>
          cases read
          exact ⟨Nat.le_refl _, fun _ => plain⟩
        next => cases read

/-- The characters up to the closing quote.  Every step consumes a character,
so the length of the text bounds their number. -/
def readCharacters : Nat → Reader (List Char)
  | 0, _ => none
  | _ + 1, [] => none
  | fuel + 1, first :: rest =>
      if first = '"' then some ([], rest)
      else do
        let (character, rest) ← readCharacter (first :: rest)
        let (characters, rest) ← readCharacters fuel rest
        some (character :: characters, rest)

theorem readCharacters_plain
    {characters : List Char}
    (plain : ∀ character ∈ characters, PlainCharacter character)
    (rest : List Char) :
    ∀ {fuel : Nat}, characters.length < fuel →
      readCharacters fuel (characters ++ '"' :: rest) =
        some (characters, rest) := by
  induction characters with
  | nil =>
      intro fuel enough
      obtain ⟨fuel, rfl⟩ := Nat.exists_eq_add_of_lt enough
      rw [List.length_nil, Nat.zero_add, List.nil_append, readCharacters,
        if_pos rfl]
  | cons character characters inductionHypothesis =>
      intro fuel enough
      cases fuel with
      | zero => cases enough
      | succ fuel =>
          have first := plain character List.mem_cons_self
          have others :=
            inductionHypothesis
              (fun other member => plain other (List.mem_cons_of_mem _ member))
              (Nat.lt_of_succ_lt_succ enough)
          rw [List.cons_append, readCharacters, if_neg first.1,
            readCharacter_plain first]
          simp only [Option.bind_eq_bind, Option.bind_some, others]

theorem readCharacters_tight
    {fuel : Nat} :
    ∀ {text characters rest : List Char},
      readCharacters fuel text = some (characters, rest) →
        characters.length + 1 + rest.length ≤ text.length ∧
          (characters.length + 1 + rest.length = text.length →
            ∀ character ∈ characters, PlainCharacter character) := by
  induction fuel with
  | zero =>
      intro text characters rest read
      cases read
  | succ fuel inductionHypothesis =>
      intro text characters rest read
      cases text with
      | nil => cases read
      | cons first behind =>
          rw [readCharacters] at read
          split at read
          · cases read
            simp only [List.length_cons, List.length_nil]
            exact ⟨by omega, fun _ character member => nomatch member⟩
          · simp only [Option.bind_eq_bind, Option.bind_eq_some_iff] at read
            rcases read with
              ⟨⟨character, middle⟩, readFirst, ⟨others, last⟩, readOthers,
                same⟩
            cases same
            have here := readCharacter_tight readFirst
            have later := inductionHypothesis readOthers
            dsimp only at here later ⊢
            rw [List.length_cons]
            refine ⟨by omega, ?_⟩
            intro consumedAll other member
            rcases List.mem_cons.mp member with rfl | member
            · exact here.2 (by omega)
            · exact later.2 (by omega) other member

/-! ## Formats -/

inductive Bracket where
  | square
  | curly
  deriving DecidableEq, Repr

def Bracket.opening : Bracket → Char
  | .square => '['
  | .curly => '\x7b'

def Bracket.closing : Bracket → Char
  | .square => ']'
  | .curly => '\x7d'

/-- A reader, a printer and the values that print plainly. -/
structure Format (α : Type) where
  read : Reader α
  print : α → List Char
  Plain : α → Prop
  /-- A print starts with a token that closes no bracket. -/
  opens :
    ∀ value, ∃ first rest, print value = first :: rest ∧
      isSpace first = false ∧ ∀ bracket : Bracket, first ≠ bracket.closing
  inverts :
    ∀ value rest, Plain value → read (print value ++ rest) = some (value, rest)
  tight :
    ∀ text value rest, read text = some (value, rest) →
      (print value).length + rest.length ≤ text.length ∧
        ((print value).length + rest.length = text.length → Plain value)

/-- A string, between quotes. -/
def readString (text : List Char) : Option (String × List Char) :=
  match skipSpace text with
  | [] => none
  | first :: rest =>
      if first = '"' then do
        let (characters, rest) ← readCharacters rest.length rest
        some (String.ofList characters, rest)
      else none

/-- Print a string with its characters as they are. -/
def printString (text : String) : List Char :=
  '"' :: (text.toList ++ ['"'])

/-- A string without quotes, backslashes and control characters. -/
def PlainString (text : String) : Prop :=
  ∀ character ∈ text.toList, PlainCharacter character

instance (text : String) : Decidable (PlainString text) :=
  List.decidableBAll PlainCharacter text.toList

def string : Format String where
  read := readString
  print := printString
  Plain := PlainString
  opens := by
    intro text
    exact ⟨'"', text.toList ++ ['"'], rfl, by decide,
      fun bracket => by cases bracket <;> decide⟩
  inverts := by
    intro text rest plain
    have characters :=
      readCharacters_plain plain rest
        (show text.toList.length < (text.toList ++ '"' :: rest).length by
          simp)
    rw [readString, printString, List.cons_append, List.append_assoc,
      skipSpace_cons (by decide)]
    simp only [List.cons_append, List.nil_append, if_true, characters,
      Option.bind_eq_bind, Option.bind_some, String.ofList_toList]
  tight := by
    intro text value rest read
    have shorter := length_skipSpace_le text
    rw [readString] at read
    split at read
    · cases read
    next first behind skipped =>
      split at read
      · simp only [Option.bind_eq_bind, Option.bind_eq_some_iff] at read
        rcases read with ⟨⟨characters, after⟩, readBody, same⟩
        cases same
        have body := readCharacters_tight readBody
        rw [skipped, List.length_cons] at shorter
        have printed :
            (printString (String.ofList characters)).length =
              characters.length + 2 := by
          simp [printString]
        dsimp only at body ⊢
        refine ⟨by omega, ?_⟩
        intro consumedAll
        unfold PlainString
        rw [String.toList_ofList]
        exact body.2 (by omega)
      · cases read

section Sequence

variable {α : Type}

/-- The elements behind the first one, up to the closing bracket.  Every pass
consumes a comma, so the length of the text bounds their number. -/
def readTail (closing : Char) (reader : Reader α) : Nat → Reader (List α)
  | 0, _ => none
  | fuel + 1, text =>
      match skipSpace text with
      | [] => none
      | first :: rest =>
          if first = closing then some ([], rest)
          else if first = ',' then do
            let (value, rest) ← reader rest
            let (values, rest) ← readTail closing reader fuel rest
            some (value :: values, rest)
          else none

/-- An array or, with members for elements, an object. -/
def readSequence (bracket : Bracket) (reader : Reader α)
    (text : List Char) : Option (List α × List Char) :=
  match skipSpace text with
  | [] => none
  | first :: rest =>
      if first = bracket.opening then
        match skipSpace rest with
        | [] => none
        | second :: behind =>
            if second = bracket.closing then some ([], behind)
            else do
              let (value, rest) ← reader rest
              let (values, rest) ←
                readTail bracket.closing reader rest.length rest
              some (value :: values, rest)
      else none

def printTail (print : α → List Char) : List α → List Char
  | [] => []
  | value :: values => ',' :: (print value ++ printTail print values)

/-- The elements with commas between them. -/
def printElements (print : α → List Char) : List α → List Char
  | [] => []
  | value :: values => print value ++ printTail print values

def printSequence (bracket : Bracket) (print : α → List Char)
    (values : List α) : List Char :=
  bracket.opening :: (printElements print values ++ [bracket.closing])

/-- Every element comes with a comma. -/
theorem length_le_length_printTail
    (print : α → List Char) (values : List α) :
    values.length ≤ (printTail print values).length := by
  induction values with
  | nil => exact Nat.le_refl 0
  | cons value values inductionHypothesis =>
      rw [printTail, List.length_cons, List.length_cons, List.length_append]
      omega

/-- The first element comes without a comma. -/
theorem length_printElements (print : α → List Char) (values : List α) :
    (printElements print values).length + min values.length 1 =
      (printTail print values).length := by
  cases values with
  | nil => rfl
  | cons value values =>
      rw [printElements, printTail, List.length_cons, List.length_cons]
      omega

/-- The order of the elements does not matter to the length of a print. -/
theorem length_printTail_perm
    (print : α → List Char) {values others : List α}
    (permuted : values.Perm others) :
    (printTail print values).length = (printTail print others).length := by
  induction permuted with
  | nil => rfl
  | cons value _ inductionHypothesis =>
      rw [printTail, printTail, List.length_cons, List.length_cons,
        List.length_append, List.length_append, inductionHypothesis]
  | swap first second rest =>
      simp only [printTail, List.length_cons, List.length_append]
      omega
  | trans _ _ inductionFirst inductionSecond =>
      exact inductionFirst.trans inductionSecond

theorem Bracket.visible (bracket : Bracket) :
    isSpace bracket.opening = false ∧ isSpace bracket.closing = false ∧
      bracket.closing ≠ ',' ∧
      ∀ other : Bracket, bracket.opening ≠ other.closing := by
  cases bracket with
  | square =>
      exact ⟨by decide, by decide, by decide,
        fun other => by cases other <;> decide⟩
  | curly =>
      exact ⟨by decide, by decide, by decide,
        fun other => by cases other <;> decide⟩

theorem readTail_plain
    (bracket : Bracket) (format : Format α) {values : List α}
    (plain : ∀ value ∈ values, format.Plain value) (rest : List Char) :
    ∀ {fuel : Nat}, values.length < fuel →
      readTail bracket.closing format.read fuel
          (printTail format.print values ++ bracket.closing :: rest) =
        some (values, rest) := by
  have visible := bracket.visible
  induction values with
  | nil =>
      intro fuel enough
      cases fuel with
      | zero => cases enough
      | succ fuel =>
          rw [readTail, printTail, List.nil_append,
            skipSpace_cons visible.2.1]
          exact if_pos rfl
  | cons value values inductionHypothesis =>
      intro fuel enough
      cases fuel with
      | zero => cases enough
      | succ fuel =>
          have first :=
            format.inverts value
              (printTail format.print values ++ bracket.closing :: rest)
              (plain value List.mem_cons_self)
          have others :=
            inductionHypothesis
              (fun other member => plain other (List.mem_cons_of_mem _ member))
              (Nat.lt_of_succ_lt_succ enough)
          rw [readTail, printTail, List.cons_append, List.append_assoc,
            skipSpace_cons (by decide)]
          simp only [if_neg visible.2.2.1.symm, if_true, first,
            Option.bind_eq_bind, Option.bind_some, others]

theorem readTail_tight
    (bracket : Bracket) (format : Format α) {fuel : Nat} :
    ∀ {text rest : List Char} {values : List α},
      readTail bracket.closing format.read fuel text = some (values, rest) →
        (printTail format.print values).length + 1 + rest.length ≤
            text.length ∧
          ((printTail format.print values).length + 1 + rest.length =
              text.length →
            ∀ value ∈ values, format.Plain value) := by
  induction fuel with
  | zero =>
      intro text rest values read
      cases read
  | succ fuel inductionHypothesis =>
      intro text rest values read
      have shorter := length_skipSpace_le text
      rw [readTail] at read
      split at read
      · cases read
      next first behind skipped =>
        rw [skipped, List.length_cons] at shorter
        split at read
        · cases read
          rw [printTail, List.length_nil]
          exact ⟨by omega, fun _ value member => nomatch member⟩
        · split at read
          · simp only [Option.bind_eq_bind, Option.bind_eq_some_iff] at read
            rcases read with
              ⟨⟨value, middle⟩, readFirst, ⟨others, last⟩, readOthers, same⟩
            cases same
            have here := format.tight _ _ _ readFirst
            have later := inductionHypothesis readOthers
            dsimp only at here later ⊢
            rw [printTail, List.length_cons, List.length_append]
            refine ⟨by omega, ?_⟩
            intro consumedAll other member
            rcases List.mem_cons.mp member with rfl | member
            · exact here.2 (by omega)
            · exact later.2 (by omega) other member
          · cases read

/-- Elements between brackets. -/
def sequence (bracket : Bracket) (format : Format α) : Format (List α) where
  read := readSequence bracket format.read
  print := printSequence bracket format.print
  Plain := fun values => ∀ value ∈ values, format.Plain value
  opens := by
    intro values
    have visible := bracket.visible
    exact ⟨bracket.opening, _, rfl, visible.1, visible.2.2.2⟩
  inverts := by
    intro values rest plain
    have visible := bracket.visible
    rw [readSequence, printSequence, List.cons_append, List.append_assoc,
      skipSpace_cons visible.1]
    cases values with
    | nil =>
        simp only [printElements, List.nil_append, List.cons_append, if_true,
          skipSpace_cons visible.2.1]
    | cons value values =>
        have first :=
          format.inverts value
            (printTail format.print values ++ bracket.closing :: rest)
            (plain value List.mem_cons_self)
        have others :=
          readTail_plain bracket format
            (fun other member => plain other (List.mem_cons_of_mem _ member))
            rest
            (show values.length <
                (printTail format.print values ++
                  bracket.closing :: rest).length by
              have counted := length_le_length_printTail format.print values
              rw [List.length_append, List.length_cons]
              omega)
        rcases format.opens value with
          ⟨opening, behind, printed, shown, closesNothing⟩
        have skipped :
            skipSpace
                (format.print value ++
                  (printTail format.print values ++
                    bracket.closing :: rest)) =
              opening :: (behind ++
                (printTail format.print values ++
                  bracket.closing :: rest)) := by
          rw [printed, List.cons_append, skipSpace_cons shown]
        simp only [printElements, List.append_assoc, List.cons_append,
          List.nil_append, if_true, skipped, if_neg (closesNothing bracket),
          first, others, Option.bind_eq_bind, Option.bind_some]
  tight := by
    intro text values rest read
    have shorter := length_skipSpace_le text
    rw [readSequence] at read
    split at read
    · cases read
    next first opened skipped =>
      rw [skipped, List.length_cons] at shorter
      split at read
      · have shorterStill := length_skipSpace_le opened
        split at read
        · cases read
        next second behind skippedAgain =>
          rw [skippedAgain, List.length_cons] at shorterStill
          split at read
          · cases read
            rw [printSequence, printElements]
            simp only [List.length_cons, List.nil_append, List.length_nil]
            exact ⟨by omega, fun _ value member => nomatch member⟩
          · simp only [Option.bind_eq_bind, Option.bind_eq_some_iff] at read
            rcases read with
              ⟨⟨value, middle⟩, readFirst, ⟨others, last⟩, readOthers, same⟩
            cases same
            have here := format.tight _ _ _ readFirst
            have later := readTail_tight bracket format readOthers
            dsimp only at here later ⊢
            rw [printSequence, printElements, List.length_cons,
              List.length_append, List.length_append, List.length_singleton]
            refine ⟨by omega, ?_⟩
            intro consumedAll other member
            rcases List.mem_cons.mp member with rfl | member
            · exact here.2 (by omega)
            · exact later.2 (by omega) other member
      · cases read

theorem length_print_sequence_perm
    (bracket : Bracket) (format : Format α) {values others : List α}
    (permuted : values.Perm others) :
    ((sequence bracket format).print values).length =
      ((sequence bracket format).print others).length := by
  have tails := length_printTail_perm format.print permuted
  have elements := length_printElements format.print values
  have otherElements := length_printElements format.print others
  have sameLength := permuted.length_eq
  change (printSequence bracket format.print values).length =
    (printSequence bracket format.print others).length
  rw [printSequence, printSequence, List.length_cons, List.length_cons,
    List.length_append, List.length_append]
  omega

/-- A member of an object. -/
def readMember (reader : Reader α) (text : List Char) :
    Option ((String × α) × List Char) := do
  let (name, rest) ← readString text
  match skipSpace rest with
  | [] => none
  | first :: rest =>
      if first = ':' then do
        let (value, rest) ← reader rest
        some ((name, value), rest)
      else none

def printMember (print : α → List Char) (entry : String × α) : List Char :=
  printString entry.1 ++ ':' :: print entry.2

/-- A name and a value, with a colon between them. -/
def member (format : Format α) : Format (String × α) where
  read := readMember format.read
  print := printMember format.print
  Plain := fun entry => PlainString entry.1 ∧ format.Plain entry.2
  opens := by
    intro entry
    rcases string.opens entry.1 with ⟨first, rest, printed, shown, closing⟩
    refine ⟨first, rest ++ ':' :: format.print entry.2, ?_, shown, closing⟩
    change string.print entry.1 ++ ':' :: format.print entry.2 = _
    rw [printed, List.cons_append]
  inverts := by
    intro entry rest plain
    have name :=
      string.inverts entry.1 (':' :: (format.print entry.2 ++ rest)) plain.1
    have value := format.inverts entry.2 rest plain.2
    change readString (printString entry.1 ++ _) = _ at name
    rw [readMember, printMember, List.append_assoc, List.cons_append, name]
    simp only [Option.bind_eq_bind, Option.bind_some,
      skipSpace_cons (show isSpace ':' = false by decide), if_true, value]
  tight := by
    intro text entry rest read
    rcases Option.bind_eq_some_iff.mp read with
      ⟨⟨name, middle⟩, readName, read⟩
    have named :
        (printString name).length + middle.length ≤ text.length ∧
          ((printString name).length + middle.length = text.length →
            PlainString name) :=
      string.tight _ _ _ readName
    have shorter := length_skipSpace_le middle
    dsimp only at read
    split at read
    · cases read
    next first behind skipped =>
      rw [skipped, List.length_cons] at shorter
      split at read
      · rcases Option.bind_eq_some_iff.mp read with
          ⟨⟨value, last⟩, readValue, same⟩
        cases same
        have valued := format.tight _ _ _ readValue
        rw [printMember, List.length_append, List.length_cons]
        dsimp only at valued ⊢
        refine ⟨by omega, ?_⟩
        intro consumedAll
        exact ⟨named.2 (by omega), valued.2 (by omega)⟩
      · cases read

end Sequence

/-! ## Whole documents -/

namespace Format

variable {α : Type}

/-- Read a text that holds one value and nothing else. -/
def readDocument (format : Format α) (text : List Char) : Option α := do
  let (value, rest) ← format.read text
  if skipSpace rest = [] then some value else none

theorem readDocument_print
    (format : Format α) {value : α} (plain : format.Plain value) :
    format.readDocument (format.print value) = some value := by
  have read := format.inverts value [] plain
  rw [List.append_nil] at read
  rw [readDocument, read]
  rfl

/-- A print that reads back as a value with a print of the same length is
plain. -/
theorem plain_of_readDocument
    (format : Format α) {value found : α}
    (read : format.readDocument (format.print value) = some found)
    (sameLength :
      (format.print found).length = (format.print value).length) :
    format.Plain found := by
  rcases Option.bind_eq_some_iff.mp read with
    ⟨⟨result, rest⟩, readResult, whole⟩
  dsimp only at whole
  split at whole
  · cases whole
    have bounds := format.tight _ _ _ readResult
    exact bounds.2 (by omega)
  · cases whole

end Format

end JsonText
