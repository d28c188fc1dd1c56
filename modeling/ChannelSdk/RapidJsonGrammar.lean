import ChannelSdk.RapidJsonTokens

/-!
# The reader on the texts of the grammar

Every text of the grammar is read as the document of its syntax tree.  The
induction is on the derivation: each part of a text is read as a whole,
whatever stands behind it, as long as that cannot go on with a number.

A document fails to exist for two trees only: one with a high surrogate that
no low surrogate follows, and one with a number that cannot be converted.
-/

namespace ChannelSdk.RapidJson

open CheckedMemory JsonGrammar

/-! ## Documents of trees -/

section Documents

variable (convert : Bytes → Option Json)

mutual

/-- The document that the handlers of the reader build for a tree. -/
def documentOf : Tree → Option Json
  | .null => some .null
  | .bool value => some (.bool value)
  | .number text => convert text
  | .string pieces => do
      let bytes ← bytesOf pieces
      some (.string (ofBytes bytes))
  | .array trees => do
      let elements ← documentsOf trees
      some (.array elements)
  | .object entries => do
      let members ← membersOf entries
      some (.object members)

def documentsOf : List Tree → Option (List Json)
  | [] => some []
  | tree :: trees => do
      let element ← documentOf tree
      let elements ← documentsOf trees
      some (element :: elements)

def memberOf : List Piece × Tree → Option (String × Json)
  | (name, tree) => do
      let bytes ← bytesOf name
      let value ← documentOf tree
      some (ofBytes bytes, value)

def membersOf : List (List Piece × Tree) → Option (List (String × Json))
  | [] => some []
  | entry :: entries => do
      let member ← memberOf entry
      let members ← membersOf entries
      some (member :: members)

end

theorem documentOf_string (pieces : List Piece) :
    documentOf convert (.string pieces) =
      (bytesOf pieces).map fun bytes => .string (ofBytes bytes) := by
  rw [documentOf, Option.map_eq_bind]
  rfl

theorem documentOf_array (trees : List Tree) :
    documentOf convert (.array trees) =
      (documentsOf convert trees).map .array := by
  rw [documentOf, Option.map_eq_bind]
  rfl

theorem documentOf_object (entries : List (List Piece × Tree)) :
    documentOf convert (.object entries) =
      (membersOf convert entries).map .object := by
  rw [documentOf, Option.map_eq_bind]
  rfl

theorem documentsOf_cons (tree : Tree) (trees : List Tree) :
    documentsOf convert (tree :: trees) =
      (documentOf convert tree).bind fun element =>
        (documentsOf convert trees).map fun elements =>
          element :: elements := by
  simp only [documentsOf, Option.map_eq_bind]
  rfl

theorem documentsOf_singleton (tree : Tree) :
    documentsOf convert [tree] =
      (documentOf convert tree).map fun element => [element] := by
  rw [documentsOf_cons, Option.map_eq_bind]
  rfl

theorem memberOf_eq (name : List Piece) (tree : Tree) :
    memberOf convert (name, tree) =
      (bytesOf name).bind fun bytes =>
        (documentOf convert tree).map fun value => (ofBytes bytes, value) := by
  simp only [memberOf, Option.map_eq_bind]
  rfl

theorem membersOf_cons
    (entry : List Piece × Tree) (entries : List (List Piece × Tree)) :
    membersOf convert (entry :: entries) =
      (memberOf convert entry).bind fun member =>
        (membersOf convert entries).map fun members =>
          member :: members := by
  simp only [membersOf, Option.map_eq_bind]
  rfl

theorem membersOf_singleton (entry : List Piece × Tree) :
    membersOf convert [entry] =
      (memberOf convert entry).map fun member => [member] := by
  rw [membersOf_cons, Option.map_eq_bind]
  rfl

end Documents

/-! ## Items between brackets -/

/-- The bytes behind an element or a member. -/
def Separates (byte : UInt8) : Prop :=
  byte = ascii ',' ∨ byte = ascii ']' ∨ byte = ascii '\x7d'

theorem Separates.visible {byte : UInt8} (separates : Separates byte) :
    isSpace byte = false := by
  rcases separates with rfl | rfl | rfl <;> decide

theorem Separates.endsNumber {byte : UInt8} (separates : Separates byte) :
    EndsNumber byte := by
  rcases separates with rfl | rfl | rfl <;> decide

theorem endsNumber_of_isSpace
    {byte : UInt8} (space : isSpace byte = true) : EndsNumber byte := by
  simp only [isSpace, Bool.or_eq_true, decide_eq_true_eq] at space
  rcases space with ((rfl | rfl) | rfl) | rfl <;> decide

/-- White space and a separator end a number. -/
theorem endsNumber_append
    {after rest : Bytes} (space : Space after)
    (separated : Starts Separates rest) :
    Starts EndsNumber (after ++ rest) := by
  cases after with
  | nil => exact separated.imp fun byte => Separates.endsNumber
  | cons first others =>
      exact
        starts_cons (endsNumber_of_isSpace (space first List.mem_cons_self)) _

section Items

variable {Item : Type}

/-- The text of an item is read with the white space around it. -/
def ReadsItem (parseItem : Reader Item) (text : Bytes)
    (result : Option Item) : Prop :=
  ∀ rest, Starts Separates rest →
    parseItem (skipWhitespace (text ++ rest)) =
      result.map fun item => (item, rest)

/-- The text of several items is read with the closing bracket. -/
def ReadsItems (parseItem : Reader Item) (closing : UInt8) (text : Bytes)
    (result : Option (List Item)) : Prop :=
  ∀ (rest : Bytes) (passes : Nat), text.length < passes →
    parseItems parseItem closing passes
        (skipWhitespace (text ++ closing :: rest)) =
      result.map fun items => (items, rest)

variable {parseItem : Reader Item} {closing : UInt8} {text : Bytes}
variable {result : Option Item}

theorem ReadsItem.last
    (reads : ReadsItem parseItem text result)
    (closes : closing = ascii ']' ∨ closing = ascii '\x7d') :
    ReadsItems parseItem closing text (result.map fun item => [item]) := by
  intro rest passes enough
  have separates : Separates closing := .inr closes
  have notComma : closing ≠ ascii ',' := by
    rcases closes with rfl | rfl <;> decide
  cases passes with
  | zero => cases enough
  | succ passes =>
      rw [parseItems, reads (closing :: rest) (starts_cons separates rest)]
      cases result with
      | none => rfl
      | some item =>
          simp only [Option.map_some, Option.bind_eq_bind, Option.bind_some,
            if_neg notComma, if_true]

theorem ReadsItem.more
    (reads : ReadsItem parseItem text result)
    {others : Bytes} {results : Option (List Item)}
    (readsOthers : ReadsItems parseItem closing others results) :
    ReadsItems parseItem closing (text ++ ascii ',' :: others)
      (result.bind fun item => results.map fun items => item :: items) := by
  intro rest passes enough
  rw [List.length_append, List.length_cons] at enough
  cases passes with
  | zero => cases enough
  | succ passes =>
      have behind := readsOthers rest passes (by omega)
      rw [List.append_assoc, List.cons_append, parseItems,
        reads _ (starts_cons (.inl rfl) _)]
      cases result with
      | none => rfl
      | some item =>
          simp only [Option.map_some, Option.bind_eq_bind, Option.bind_some,
            if_true, behind]
          cases results <;> rfl

theorem parseEnclosed_space
    {space : Bytes} (isWhite : Space space)
    (closes : isSpace closing = false) (rest : Bytes) :
    parseEnclosed parseItem closing (space ++ closing :: rest) =
      some ([], rest) := by
  rw [parseEnclosed, skipWhitespace_append isWhite,
    skipWhitespace_eq_self (starts_cons closes rest), consume_self]

theorem ReadsItems.enclosed
    {results : Option (List Item)}
    (reads : ReadsItems parseItem closing text results) (rest : Bytes)
    (opens : Starts (· ≠ closing) (skipWhitespace (text ++ closing :: rest))) :
    parseEnclosed parseItem closing (text ++ closing :: rest) =
      results.map fun items => (items, rest) := by
  rw [parseEnclosed, consume_eq_none opens]
  exact reads rest _ (by rw [List.length_append]; omega)

end Items

/-! ## The first byte of an item -/

theorem starts_skipWhitespace
    {space : Bytes} (isWhite : Space space) {first avoided : UInt8}
    (different : first ≠ avoided) (visible : isSpace first = false)
    (rest : Bytes) :
    Starts (· ≠ avoided) (skipWhitespace (space ++ first :: rest)) := by
  rw [skipWhitespace_append isWhite,
    skipWhitespace_eq_self (starts_cons visible rest)]
  intro byte member
  cases member
  exact different

theorem visible_of_startsValue
    {byte : UInt8} (starts : StartsValue byte) :
    isSpace byte = false ∧ byte ≠ ascii ']' := by
  rcases starts with rfl | rfl | rfl | rfl | rfl | rfl | rfl | digit
  any_goals decide
  have endsNothing : ¬ EndsNumber byte := by
    rintro ⟨noDigit, -⟩
    rw [digit] at noDigit
    cases noDigit
  refine ⟨?_, ne_of_isDigit digit (by decide)⟩
  cases space : isSpace byte with
  | false => rfl
  | true => exact absurd (endsNumber_of_isSpace space) endsNothing

theorem starts_element
    {tree : Tree} {text : Text} (spells : Spells (.element tree) text)
    (rest : Bytes) :
    Starts (· ≠ ascii ']') (skipWhitespace (text ++ rest)) := by
  cases spells with
  | element before value after =>
      obtain ⟨first, others, rfl, starts⟩ := value.starts
      have shown := visible_of_startsValue starts
      rw [List.append_assoc, List.cons_append, List.cons_append]
      exact starts_skipWhitespace before shown.2 shown.1 _

theorem starts_elements
    {trees : List Tree} {text : Text}
    (spells : Spells (.elements trees) text) (rest : Bytes) :
    Starts (· ≠ ascii ']') (skipWhitespace (text ++ rest)) := by
  cases spells with
  | lastElement element => exact starts_element element rest
  | elements element others =>
      rw [List.append_assoc]
      exact starts_element element _

theorem starts_member
    {entry : List Piece × Tree} {text : Text}
    (spells : Spells (.member entry) text) (rest : Bytes) :
    Starts (· ≠ ascii '\x7d') (skipWhitespace (text ++ rest)) := by
  cases spells with
  | member before name after value =>
      rw [List.append_assoc, quoted, List.cons_append, List.cons_append]
      exact starts_skipWhitespace before (by decide) (by decide) _

theorem starts_members
    {entries : List (List Piece × Tree)} {text : Text}
    (spells : Spells (.members entries) text) (rest : Bytes) :
    Starts (· ≠ ascii '\x7d') (skipWhitespace (text ++ rest)) := by
  cases spells with
  | lastMember member => exact starts_member member rest
  | members member others =>
      rw [List.append_assoc]
      exact starts_member member _

/-! ## Elements and members -/

/-- The text of a value is read when nothing behind it goes on with a
number. -/
def ReadsValue (readValue : Reader Json) (text : Bytes)
    (result : Option Json) : Prop :=
  ∀ rest, Starts EndsNumber rest →
    readValue (text ++ rest) = result.map fun value => (value, rest)

section Around

variable {readValue : Reader Json} {result : Option Json}

/-- The white space behind a value ends before the separator. -/
theorem skipWhitespace_separated
    {after rest : Bytes} (space : Space after)
    (separated : Starts Separates rest) :
    skipWhitespace (after ++ rest) = rest := by
  rw [skipWhitespace_append space]
  exact skipWhitespace_eq_self (separated.imp fun _ => Separates.visible)

theorem ReadsValue.element
    {before text after : Bytes} (reads : ReadsValue readValue text result)
    (spaceBefore : Space before) (spaceAfter : Space after)
    (starts : ∃ first others, text = first :: others ∧ StartsValue first) :
    ReadsItem (parseElement readValue) (before ++ (text ++ after))
      result := by
  intro rest separated
  have start :
      skipWhitespace (text ++ (after ++ rest)) = text ++ (after ++ rest) := by
    obtain ⟨first, others, rfl, startsValue⟩ := starts
    exact
      skipWhitespace_eq_self
        (starts_cons (visible_of_startsValue startsValue).1 _)
  have read := reads (after ++ rest) (endsNumber_append spaceAfter separated)
  rw [List.append_assoc, List.append_assoc,
    skipWhitespace_append spaceBefore, start, parseElement, read]
  cases result with
  | none => rfl
  | some value =>
      simp only [Option.map_some, Option.bind_eq_bind, Option.bind_some,
        skipWhitespace_separated spaceAfter separated]

theorem parseString_append
    {pieces : List Piece} {text : Text} (chars : Chars pieces text)
    (rest : Bytes) :
    parseString (text ++ ascii '"' :: rest) =
      (bytesOf pieces).map fun bytes => (ofBytes bytes, rest) := by
  rw [parseString,
    scans_of_chars chars rest _ (by rw [List.length_append]; omega)]
  cases bytesOf pieces <;> rfl

theorem ReadsItem.member
    {value : Bytes}
    (reads : ReadsItem (parseElement readValue) value result)
    {pieces : List Piece} {text : Text} (chars : Chars pieces text)
    {before after : Bytes} (spaceBefore : Space before)
    (spaceAfter : Space after) :
    ReadsItem (parseMember readValue)
      (before ++ (quoted text ++ (after ++ ascii ':' :: value)))
      ((bytesOf pieces).bind fun bytes =>
        result.map fun value => (ofBytes bytes, value)) := by
  intro rest separated
  have start :
      skipWhitespace
          ((before ++ (quoted text ++ (after ++ ascii ':' :: value))) ++
            rest) =
        ascii '"' :: (text ++
          ascii '"' :: (after ++ ascii ':' :: (value ++ rest))) := by
    simp only [quoted, List.append_assoc, List.cons_append, List.nil_append,
      skipWhitespace_append spaceBefore]
    exact skipWhitespace_eq_self (starts_cons (by decide) _)
  have colon :
      skipWhitespace (after ++ ascii ':' :: (value ++ rest)) =
        ascii ':' :: (value ++ rest) := by
    rw [skipWhitespace_append spaceAfter]
    exact skipWhitespace_eq_self (starts_cons (by decide) _)
  rw [start, parseMember, consume_self]
  simp only [Option.bind_eq_bind, Option.bind_some,
    parseString_append chars]
  cases bytesOf pieces with
  | none => rfl
  | some bytes =>
      simp only [Option.map_some, Option.bind_some, colon, consume_self,
        reads rest separated]
      cases result <;> rfl

end Around

/-! ## Values -/

section Values

variable {convert : Bytes → Option Json}

/-- How the reader reads a part of a text. -/
def Parses (convert : Bytes → Option Json) : Part → Text → Prop
  | .value tree, text =>
      ∀ depth, text.length < depth →
        ReadsValue (parseValue convert depth) text (documentOf convert tree)
  | .element tree, text =>
      ∀ depth, text.length < depth →
        ReadsItem (parseElement (parseValue convert depth)) text
          (documentOf convert tree)
  | .elements trees, text =>
      ∀ depth, text.length < depth →
        ReadsItems (parseElement (parseValue convert depth)) (ascii ']') text
          (documentsOf convert trees)
  | .member entry, text =>
      ∀ depth, text.length < depth →
        ReadsItem (parseMember (parseValue convert depth)) text
          (memberOf convert entry)
  | .members entries, text =>
      ∀ depth, text.length < depth →
        ReadsItems (parseMember (parseValue convert depth)) (ascii '\x7d')
          text (membersOf convert entries)

/-- The reader is called at a depth that is not zero. -/
theorem parses_value
    {tree : Tree} {text : Text}
    (reads : ∀ depth, text.length ≤ depth →
      ReadsValue (parseValue convert (depth + 1)) text
        (documentOf convert tree)) :
    Parses convert (.value tree) text := by
  intro depth enough
  cases depth with
  | zero => cases enough
  | succ depth => exact reads depth (Nat.le_of_lt_succ enough)

/-- The first byte of a number selects no other token. -/
theorem parseValue_number
    {first : UInt8} (starts : first = ascii '-' ∨ isDigit first = true)
    (depth : Nat) (rest : Bytes) :
    parseValue convert (depth + 1) (first :: rest) =
      parseNumber convert (first :: rest) := by
  have distinct
      {character : Char} (notMinus : ascii '-' ≠ ascii character)
      (notDigit : isDigit (ascii character) = false) :
      first ≠ ascii character := by
    rcases starts with rfl | digit
    · exact notMinus
    · exact ne_of_isDigit digit notDigit
  rw [parseValue, if_neg (distinct (by decide) (by decide)),
    if_neg (distinct (by decide) (by decide)),
    if_neg (distinct (by decide) (by decide)),
    if_neg (distinct (by decide) (by decide)),
    if_neg (distinct (by decide) (by decide)),
    if_neg (distinct (by decide) (by decide))]

theorem parses_number
    {minus whole fraction exponent : Text}
    (number : Number minus whole fraction exponent) :
    Parses convert
      (.value (.number (minus ++ (whole ++ (fraction ++ exponent)))))
      (minus ++ (whole ++ (fraction ++ exponent))) := by
  apply parses_value
  intro depth _ rest stops
  obtain ⟨first, others, same, starts⟩ := number.starts
  have scanned := parseNumber_append convert number stops
  rw [same, List.cons_append] at scanned ⊢
  rw [parseValue_number starts, scanned]
  rfl

theorem parseValue_string (depth : Nat) (rest : Bytes) :
    parseValue convert (depth + 1) (ascii '"' :: rest) =
      (parseString rest).map fun read => (.string read.1, read.2) :=
  Option.map_eq_bind.symm

theorem parses_string
    {pieces : List Piece} {text : Text} (chars : Chars pieces text) :
    Parses convert (.value (.string pieces)) (quoted text) := by
  apply parses_value
  intro depth _ rest _
  rw [quoted, List.cons_append, List.append_assoc, List.singleton_append,
    parseValue_string, parseString_append chars, Option.map_map,
    documentOf_string, Option.map_map]
  rfl

theorem words :
    "null".toList.map ascii = ascii 'n' :: "ull".toList.map ascii ∧
      "true".toList.map ascii = ascii 't' :: "rue".toList.map ascii ∧
      "false".toList.map ascii = ascii 'f' :: "alse".toList.map ascii := by
  decide

/-- A word is read off its first letter. -/
theorem parses_word
    {tree : Tree} {value : Json} {first : UInt8} {others : Bytes}
    (dispatch : ∀ (depth : Nat) (rest : Bytes),
      parseValue convert (depth + 1) (first :: rest) =
        (consumeAll others rest).map fun rest => (value, rest))
    (document : documentOf convert tree = some value) :
    Parses convert (.value tree) (first :: others) := by
  apply parses_value
  intro depth _ rest _
  rw [List.cons_append, dispatch, consumeAll_append, document]
  rfl

/-- Items between brackets are read off the opening one. -/
theorem parses_enclosed
    {Item : Type} {parseItem : Nat → Reader Item}
    {opening closing : UInt8} {tree : Tree} {text : Bytes}
    (results : Option (List Item)) {build : List Item → Json}
    (dispatch : ∀ (depth : Nat) (rest : Bytes),
      parseValue convert (depth + 1) (opening :: rest) =
        (parseEnclosed (parseItem depth) closing rest).map
          fun read => (build read.1, read.2))
    (document : documentOf convert tree = results.map build)
    (reads : ∀ (depth : Nat) (rest : Bytes), text.length < depth →
      parseEnclosed (parseItem depth) closing (text ++ closing :: rest) =
        results.map fun items => (items, rest)) :
    Parses convert (.value tree) (opening :: (text ++ [closing])) := by
  apply parses_value
  intro depth enough rest _
  rw [List.length_cons, List.length_append] at enough
  rw [List.cons_append, List.append_assoc, dispatch, List.singleton_append,
    reads depth rest (by omega), document, Option.map_map, Option.map_map]
  rfl

theorem parseValue_array (depth : Nat) (rest : Bytes) :
    parseValue convert (depth + 1) (ascii '[' :: rest) =
      (parseEnclosed (parseElement (parseValue convert depth)) (ascii ']')
        rest).map fun read => (.array read.1, read.2) :=
  Option.map_eq_bind.symm

theorem parseValue_object (depth : Nat) (rest : Bytes) :
    parseValue convert (depth + 1) (ascii '\x7b' :: rest) =
      (parseEnclosed (parseMember (parseValue convert depth))
        (ascii '\x7d') rest).map fun read => (.object read.1, read.2) :=
  Option.map_eq_bind.symm

/-- A part of a text is read as the document of what it spells. -/
theorem parses_of_spells
    {part : Part} {text : Text} (spells : Spells part text) :
    Parses convert part text := by
  induction spells with
  | nullToken =>
      rw [words.1]
      exact parses_word (fun _ _ => Option.map_eq_bind.symm) rfl
  | trueToken =>
      rw [words.2.1]
      exact parses_word (fun _ _ => Option.map_eq_bind.symm) rfl
  | falseToken =>
      rw [words.2.2]
      exact parses_word (fun _ _ => Option.map_eq_bind.symm) rfl
  | number number => exact parses_number number
  | string chars => exact parses_string chars
  | emptyArray space =>
      exact
        parses_enclosed (some []) parseValue_array rfl fun _ rest _ =>
          parseEnclosed_space space (by decide) rest
  | array elements inductionHypothesis =>
      exact
        parses_enclosed _ parseValue_array (documentOf_array convert _)
          fun depth rest enough =>
            (inductionHypothesis depth enough).enclosed rest
              (starts_elements elements _)
  | emptyObject space =>
      exact
        parses_enclosed (some []) parseValue_object rfl fun _ rest _ =>
          parseEnclosed_space space (by decide) rest
  | object members inductionHypothesis =>
      exact
        parses_enclosed _ parseValue_object (documentOf_object convert _)
          fun depth rest enough =>
            (inductionHypothesis depth enough).enclosed rest
              (starts_members members _)
  | element before value after inductionHypothesis =>
      intro depth enough
      rw [List.length_append, List.length_append] at enough
      exact
        (inductionHypothesis depth (by omega)).element before after
          value.starts
  | lastElement _ inductionHypothesis =>
      intro depth enough
      rw [documentsOf_singleton]
      exact (inductionHypothesis depth enough).last (.inl rfl)
  | elements _ _ inductionFirst inductionOthers =>
      intro depth enough
      rw [List.length_append, List.length_cons] at enough
      rw [documentsOf_cons]
      exact
        (inductionFirst depth (by omega)).more
          (inductionOthers depth (by omega))
  | member before name after _ inductionHypothesis =>
      intro depth enough
      simp only [List.length_append, List.length_cons] at enough
      rw [memberOf_eq]
      exact
        (inductionHypothesis depth (by omega)).member name before after
  | lastMember _ inductionHypothesis =>
      intro depth enough
      rw [membersOf_singleton]
      exact (inductionHypothesis depth enough).last (.inr rfl)
  | members _ _ inductionFirst inductionOthers =>
      intro depth enough
      rw [List.length_append, List.length_cons] at enough
      rw [membersOf_cons]
      exact
        (inductionFirst depth (by omega)).more
          (inductionOthers depth (by omega))

/-- A text of the grammar is read as the document of its tree. -/
theorem parse_eq_documentOf
    {tree : Tree} {text : Text} (document : Document tree text) :
    parse convert text = documentOf convert tree := by
  have read :=
    @parses_of_spells convert _ _ document (text.length + 1)
      (Nat.lt_succ_self _) [] (starts_nil _)
  rw [List.append_nil] at read
  rw [parse, read]
  cases documentOf convert tree <;> rfl

end Values

end ChannelSdk.RapidJson
