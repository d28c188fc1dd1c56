import ChannelSdk.RapidJsonReader

/-!
# The bounds of the reader

The loops and the recursion of the reader carry a bound on their passes and
their depth.  Every call takes a byte of the text, so a bound beyond the
length of the text never runs out: with any two such bounds the reader gives
the same result, on the texts of the grammar and on all others.
-/

namespace ChannelSdk.RapidJson

open CheckedMemory JsonGrammar

section Shrinking

variable {Value : Type}

/-- A successful call takes at least one byte. -/
def Shrinks (reader : Reader Value) : Prop :=
  ∀ text value rest, reader text = some (value, rest) →
    rest.length < text.length

/-- The readers give the same results on texts up to a length. -/
def AgreeUpTo (size : Nat) (reader other : Reader Value) : Prop :=
  ∀ text, text.length ≤ size → reader text = other text

end Shrinking

theorem length_skipWhitespace_le (text : Bytes) :
    (skipWhitespace text).length ≤ text.length :=
  (List.dropWhile_sublist isSpace).length_le

theorem consume_eq_some
    {expect : UInt8} {text rest : Bytes}
    (consumed : consume expect text = some rest) : text = expect :: rest := by
  cases text with
  | nil => cases consumed
  | cons next others =>
      rw [consume] at consumed
      split at consumed
      next same =>
        cases consumed
        rw [same]
      next => cases consumed

theorem consumeAll_length_le
    {expected : List UInt8} {text rest : Bytes}
    (consumed : consumeAll expected text = some rest) :
    rest.length ≤ text.length := by
  induction expected generalizing text with
  | nil =>
      cases consumed
      exact Nat.le_refl _
  | cons expect others inductionHypothesis =>
      rcases Option.bind_eq_some_iff.mp consumed with
        ⟨behind, first, consumedOthers⟩
      have shorter := inductionHypothesis consumedOthers
      rw [consume_eq_some first, List.length_cons]
      omega

/-! ## Tokens -/

theorem parseHex_length_le
    {codepoint digits : Nat} {text rest : Bytes} {value : Nat}
    (read : parseHex codepoint digits text = some (value, rest)) :
    rest.length ≤ text.length := by
  induction digits generalizing codepoint text with
  | zero =>
      cases read
      exact Nat.le_refl _
  | succ digits inductionHypothesis =>
      cases text with
      | nil => cases read
      | cons first others =>
          rcases Option.bind_eq_some_iff.mp read with ⟨digit, -, readOthers⟩
          have shorter := inductionHypothesis readOthers
          rw [List.length_cons]
          omega

theorem parseUnicode_length_le
    {text rest bytes : Bytes}
    (read : parseUnicode text = some (bytes, rest)) :
    rest.length ≤ text.length := by
  rcases Option.bind_eq_some_iff.mp read with
    ⟨⟨codepoint, behind⟩, readFirst, read⟩
  have shorter := parseHex_length_le readFirst
  dsimp only at read
  split at read
  · rcases Option.bind_eq_some_iff.mp read with ⟨second, backslash, read⟩
    rcases Option.bind_eq_some_iff.mp read with ⟨third, letter, read⟩
    rcases Option.bind_eq_some_iff.mp read with
      ⟨⟨codepoint2, last⟩, readSecond, read⟩
    have shorterStill := parseHex_length_le readSecond
    dsimp only at read
    split at read
    · have same : last = rest := (Prod.mk.inj (Option.some.inj read)).2
      rw [consume_eq_some backslash, consume_eq_some letter,
        List.length_cons, List.length_cons] at shorter
      rw [← same]
      omega
    · cases read
  · have same : behind = rest := (Prod.mk.inj (Option.some.inj read)).2
    rw [← same]
    exact shorter

theorem parseEscape_length_lt
    {text rest bytes : Bytes}
    (read : parseEscape text = some (bytes, rest)) :
    rest.length < text.length := by
  cases text with
  | nil => cases read
  | cons e others =>
      rw [parseEscape] at read
      rw [List.length_cons]
      split at read
      · cases read
        exact Nat.lt_succ_self _
      · split at read
        · exact Nat.lt_succ_of_le (parseUnicode_length_le read)
        · cases read

theorem parseStringToStream_shrinks (passes : Nat) :
    Shrinks (parseStringToStream passes) := by
  induction passes with
  | zero =>
      intro text value rest read
      cases read
  | succ passes inductionHypothesis =>
      intro text value rest read
      cases text with
      | nil => cases read
      | cons c others =>
          rw [parseStringToStream] at read
          rw [List.length_cons]
          split at read
          · rcases Option.bind_eq_some_iff.mp read with
              ⟨⟨bytes, behind⟩, escaped, read⟩
            rcases Option.bind_eq_some_iff.mp read with
              ⟨⟨more, last⟩, readOthers, same⟩
            cases same
            have first := parseEscape_length_lt escaped
            have later := inductionHypothesis _ _ _ readOthers
            omega
          · split at read
            · cases read
              exact Nat.lt_succ_self _
            · split at read
              · cases read
              · rcases Option.bind_eq_some_iff.mp read with
                  ⟨⟨more, last⟩, readOthers, same⟩
                cases same
                exact Nat.lt_succ_of_lt (inductionHypothesis _ _ _ readOthers)

/-- The number of passes over a string does not matter. -/
theorem parseStringToStream_passes
    {passes others : Nat} {text : Bytes} (enough : text.length < passes)
    (enoughToo : text.length < others) :
    parseStringToStream passes text = parseStringToStream others text := by
  induction passes generalizing others text with
  | zero => cases enough
  | succ passes inductionHypothesis =>
      cases others with
      | zero => cases enoughToo
      | succ others =>
          cases text with
          | nil => rfl
          | cons c rest =>
              rw [List.length_cons] at enough enoughToo
              have same :
                  parseStringToStream passes rest =
                    parseStringToStream others rest :=
                inductionHypothesis (by omega) (by omega)
              simp only [parseStringToStream, same]
              split
              · cases escaped : parseEscape rest with
                | none => rfl
                | some read =>
                    have shorter := parseEscape_length_lt escaped
                    have sameBehind :
                        parseStringToStream passes read.2 =
                          parseStringToStream others read.2 :=
                      inductionHypothesis (by omega) (by omega)
                    simp only [Option.bind_eq_bind, Option.bind_some,
                      sameBehind]
              · rfl

theorem parseString_shrinks : Shrinks parseString := by
  intro text value rest read
  rcases Option.bind_eq_some_iff.mp read with ⟨⟨bytes, last⟩, scanned, same⟩
  cases same
  exact parseStringToStream_shrinks _ _ _ _ scanned

theorem dropDigits_length_le (text : Bytes) :
    (text.dropWhile isDigit).length ≤ text.length :=
  (List.dropWhile_sublist isDigit).length_le

theorem parseDigits_length_le
    {text digits rest : Bytes}
    (read : parseDigits text = some (digits, rest)) :
    rest.length ≤ text.length := by
  rw [parseDigits, takeDigits] at read
  dsimp only at read
  split at read
  · cases read
  · cases read
    exact dropDigits_length_le text

theorem parseMinus_length_le (text : Bytes) :
    (parseMinus text).2.length ≤ text.length := by
  rw [parseMinus]
  split
  next rest consumed =>
    rw [consume_eq_some consumed]
    exact Nat.le_succ _
  next => exact Nat.le_refl _

theorem parseSign_length_le (text : Bytes) :
    (parseSign text).2.length ≤ text.length := by
  rw [parseSign]
  split
  next rest consumed =>
    rw [consume_eq_some consumed]
    exact Nat.le_succ _
  next =>
    split
    next rest consumed =>
      rw [consume_eq_some consumed]
      exact Nat.le_succ _
    next => exact Nat.le_refl _

theorem parseInt_shrinks : Shrinks parseInt := by
  intro text value rest read
  cases text with
  | nil => cases read
  | cons first others =>
      rw [parseInt] at read
      rw [List.length_cons]
      split at read
      · cases read
        exact Nat.lt_succ_self _
      · split at read
        · cases read
          exact Nat.lt_succ_of_le (dropDigits_length_le others)
        · cases read

theorem parseFrac_length_le
    {text fraction rest : Bytes}
    (read : parseFrac text = some (fraction, rest)) :
    rest.length ≤ text.length := by
  rw [parseFrac] at read
  split at read
  next behind consumed =>
    rcases Option.bind_eq_some_iff.mp read with
      ⟨⟨digits, last⟩, readDigits, same⟩
    cases same
    rw [consume_eq_some consumed]
    exact Nat.le_succ_of_le (parseDigits_length_le readDigits)
  next =>
    cases read
    exact Nat.le_refl _

theorem parseExp_length_le
    {text exponent rest : Bytes}
    (read : parseExp text = some (exponent, rest)) :
    rest.length ≤ text.length := by
  cases text with
  | nil =>
      cases read
      exact Nat.le_refl _
  | cons mark others =>
      rw [parseExp] at read
      split at read
      · rcases Option.bind_eq_some_iff.mp read with
          ⟨⟨digits, last⟩, readDigits, same⟩
        cases same
        have signed := parseSign_length_le others
        have shorter : rest.length ≤ (parseSign others).2.length :=
          parseDigits_length_le readDigits
        rw [List.length_cons]
        omega
      · cases read
        exact Nat.le_refl _

theorem parseNumber_shrinks (convert : Bytes → Option Json) :
    Shrinks (parseNumber convert) := by
  intro text value rest read
  rcases Option.bind_eq_some_iff.mp read with ⟨⟨int, first⟩, readInt, read⟩
  rcases Option.bind_eq_some_iff.mp read with ⟨⟨frac, second⟩, readFrac, read⟩
  rcases Option.bind_eq_some_iff.mp read with ⟨⟨exp, third⟩, readExp, read⟩
  rcases Option.bind_eq_some_iff.mp read with ⟨number, -, same⟩
  cases same
  have minus := parseMinus_length_le text
  have whole : first.length < (parseMinus text).2.length :=
    parseInt_shrinks _ _ _ readInt
  have fraction := parseFrac_length_le readFrac
  have exponent := parseExp_length_le readExp
  omega

/-! ## Items between brackets -/

section Items

variable {Item : Type} {parseItem other : Reader Item} {closing : UInt8}

theorem parseItems_shrinks
    (shrinks : Shrinks parseItem) (closing : UInt8) (passes : Nat) :
    Shrinks (parseItems parseItem closing passes) := by
  induction passes with
  | zero =>
      intro text value rest read
      cases read
  | succ passes inductionHypothesis =>
      intro text value rest read
      rcases Option.bind_eq_some_iff.mp read with
        ⟨⟨item, behind⟩, readItem, read⟩
      have first := shrinks _ _ _ readItem
      cases behind with
      | nil => cases read
      | cons next others =>
          rw [List.length_cons] at first
          dsimp only at read
          split at read
          · rcases Option.bind_eq_some_iff.mp read with
              ⟨⟨items, last⟩, readOthers, same⟩
            cases same
            have later := inductionHypothesis _ _ _ readOthers
            have skipped := length_skipWhitespace_le others
            dsimp only
            omega
          · split at read
            · cases read
              omega
            · cases read

/-- Neither the number of passes nor what an item reader does to longer texts
matters to the loop. -/
theorem parseItems_passes
    (shrinks : Shrinks parseItem) {size : Nat}
    (agree : AgreeUpTo size parseItem other) {passes others : Nat}
    {text : Bytes} (small : text.length ≤ size)
    (enough : text.length < passes) (enoughToo : text.length < others) :
    parseItems parseItem closing passes text =
      parseItems other closing others text := by
  induction passes generalizing others text with
  | zero => cases enough
  | succ passes inductionHypothesis =>
      cases others with
      | zero => cases enoughToo
      | succ others =>
          rw [parseItems, parseItems, ← agree text small]
          cases readItem : parseItem text with
          | none => rfl
          | some read =>
              have first := shrinks _ _ _ readItem
              simp only [Option.bind_eq_bind, Option.bind_some]
              cases behind : read.2 with
              | nil => rfl
              | cons next rest =>
                  have skipped := length_skipWhitespace_le rest
                  rw [behind, List.length_cons] at first
                  have same :
                      parseItems parseItem closing passes
                          (skipWhitespace rest) =
                        parseItems other closing others
                          (skipWhitespace rest) :=
                    inductionHypothesis (by omega) (by omega) (by omega)
                  simp only [same]

theorem parseEnclosed_shrinks
    (shrinks : Shrinks parseItem) (closing : UInt8) :
    Shrinks (parseEnclosed parseItem closing) := by
  intro text value rest read
  have skipped := length_skipWhitespace_le text
  rw [parseEnclosed] at read
  split at read
  next behind consumed =>
    cases read
    rw [consume_eq_some consumed, List.length_cons] at skipped
    omega
  next =>
    have shorter := parseItems_shrinks shrinks closing _ _ _ _ read
    omega

theorem parseEnclosed_agree
    (shrinks : Shrinks parseItem) {size : Nat}
    (agree : AgreeUpTo size parseItem other) :
    AgreeUpTo size (parseEnclosed parseItem closing)
      (parseEnclosed other closing) := by
  intro text small
  have skipped := length_skipWhitespace_le text
  rw [parseEnclosed, parseEnclosed]
  split
  next => rfl
  next =>
    exact
      parseItems_passes shrinks agree (by omega) (by omega) (by omega)

end Items

/-! ## Values -/

section Values

variable {readValue other : Reader Json}

theorem parseElement_shrinks (shrinks : Shrinks readValue) :
    Shrinks (parseElement readValue) := by
  intro text value rest read
  rcases Option.bind_eq_some_iff.mp read with ⟨⟨found, last⟩, readIt, same⟩
  cases same
  have shorter := shrinks _ _ _ readIt
  have skipped := length_skipWhitespace_le last
  omega

theorem parseMember_shrinks (shrinks : Shrinks readValue) :
    Shrinks (parseMember readValue) := by
  intro text value rest read
  rcases Option.bind_eq_some_iff.mp read with ⟨first, quote, read⟩
  rcases Option.bind_eq_some_iff.mp read with ⟨⟨name, second⟩, readName, read⟩
  rcases Option.bind_eq_some_iff.mp read with ⟨third, colon, read⟩
  rcases Option.bind_eq_some_iff.mp read with ⟨⟨found, last⟩, readIt, same⟩
  cases same
  have named := parseString_shrinks _ _ _ readName
  have valued := parseElement_shrinks shrinks _ _ _ readIt
  have skippedName := length_skipWhitespace_le second
  have skippedColon := length_skipWhitespace_le third
  rw [consume_eq_some colon, List.length_cons] at skippedName
  rw [consume_eq_some quote, List.length_cons]
  omega

theorem parseElement_agree {size : Nat}
    (agree : AgreeUpTo size readValue other) :
    AgreeUpTo size (parseElement readValue) (parseElement other) := by
  intro text small
  rw [parseElement, parseElement, agree text small]

theorem parseMember_agree {size : Nat}
    (agree : AgreeUpTo size readValue other) :
    AgreeUpTo size (parseMember readValue) (parseMember other) := by
  intro text small
  rw [parseMember, parseMember]
  cases quote : consume (ascii '"') text with
  | none => rfl
  | some first =>
      rw [consume_eq_some quote, List.length_cons] at small
      cases readName : parseString first with
      | none => simp only [Option.bind_eq_bind, Option.bind_some, readName,
          Option.bind_none]
      | some named =>
          have shorter := parseString_shrinks _ _ _ readName
          cases colon : consume (ascii ':') (skipWhitespace named.2) with
          | none => simp only [Option.bind_eq_bind, Option.bind_some,
              readName, colon, Option.bind_none]
          | some third =>
              have skipped := length_skipWhitespace_le named.2
              rw [consume_eq_some colon, List.length_cons] at skipped
              have skippedColon := length_skipWhitespace_le third
              simp only [Option.bind_eq_bind, Option.bind_some, readName,
                colon, parseElement_agree agree (skipWhitespace third)
                  (by omega)]

variable {convert : Bytes → Option Json}

theorem parseArray_shrinks (shrinks : Shrinks readValue) :
    Shrinks (parseArray readValue) := by
  intro text value rest read
  rcases Option.bind_eq_some_iff.mp read with ⟨⟨elements, last⟩, items, same⟩
  cases same
  exact parseEnclosed_shrinks (parseElement_shrinks shrinks) _ _ _ _ items

theorem parseObject_shrinks (shrinks : Shrinks readValue) :
    Shrinks (parseObject readValue) := by
  intro text value rest read
  rcases Option.bind_eq_some_iff.mp read with ⟨⟨members, last⟩, items, same⟩
  cases same
  exact parseEnclosed_shrinks (parseMember_shrinks shrinks) _ _ _ _ items

theorem parseWord_length_le
    {expected : List UInt8} {word value : Json} {text rest : Bytes}
    (read :
      ((consumeAll expected text).bind fun text => some (word, text)) =
        some (value, rest)) :
    rest.length ≤ text.length := by
  rcases Option.bind_eq_some_iff.mp read with ⟨last, consumed, same⟩
  cases same
  exact consumeAll_length_le consumed

theorem parseValue_shrinks (depth : Nat) :
    Shrinks (parseValue convert depth) := by
  induction depth with
  | zero =>
      intro text value rest read
      cases read
  | succ depth inductionHypothesis =>
      intro text value rest read
      cases text with
      | nil => cases read
      | cons first others =>
          rw [parseValue] at read
          rw [List.length_cons]
          split at read
          · exact Nat.lt_succ_of_le (parseWord_length_le read)
          split at read
          · exact Nat.lt_succ_of_le (parseWord_length_le read)
          split at read
          · exact Nat.lt_succ_of_le (parseWord_length_le read)
          split at read
          · rcases Option.bind_eq_some_iff.mp read with
              ⟨⟨text, last⟩, readText, same⟩
            cases same
            exact Nat.lt_succ_of_lt (parseString_shrinks _ _ _ readText)
          split at read
          · exact
              Nat.lt_succ_of_lt
                (parseObject_shrinks inductionHypothesis _ _ _ read)
          split at read
          · exact
              Nat.lt_succ_of_lt
                (parseArray_shrinks inductionHypothesis _ _ _ read)
          · exact parseNumber_shrinks convert _ _ _ read

theorem parseArray_agree
    (shrinks : Shrinks readValue) {size : Nat}
    (agree : AgreeUpTo size readValue other) :
    AgreeUpTo size (parseArray readValue) (parseArray other) := by
  intro text small
  rw [parseArray, parseArray,
    parseEnclosed_agree (parseElement_shrinks shrinks)
      (parseElement_agree agree) text small]

theorem parseObject_agree
    (shrinks : Shrinks readValue) {size : Nat}
    (agree : AgreeUpTo size readValue other) :
    AgreeUpTo size (parseObject readValue) (parseObject other) := by
  intro text small
  rw [parseObject, parseObject,
    parseEnclosed_agree (parseMember_shrinks shrinks)
      (parseMember_agree agree) text small]

/-- The depth does not matter to the reader once it exceeds the length of the
text. -/
theorem parseValue_depth
    {depth more : Nat} {text : Bytes} (enough : text.length < depth)
    (enoughToo : text.length < more) :
    parseValue convert depth text = parseValue convert more text := by
  induction depth generalizing more text with
  | zero => cases enough
  | succ depth inductionHypothesis =>
      cases more with
      | zero => cases enoughToo
      | succ more =>
          cases text with
          | nil => rfl
          | cons first others =>
              rw [List.length_cons] at enough enoughToo
              have shrinks := @parseValue_shrinks convert depth
              have agree :
                  AgreeUpTo others.length (parseValue convert depth)
                    (parseValue convert more) :=
                fun text small => inductionHypothesis (by omega) (by omega)
              rw [parseValue, parseValue,
                parseArray_agree shrinks agree others (Nat.le_refl _),
                parseObject_agree shrinks agree others (Nat.le_refl _)]

/-- `Parse` with any bound on the depth beyond the length of the text. -/
theorem parse_eq_of_depth
    {depth : Nat} {text : Bytes} (enough : text.length < depth) :
    parse convert text =
      (parseElement (parseValue convert depth) (skipWhitespace text)).bind
        fun read => if read.2 = [] then some read.1 else none := by
  have skipped := length_skipWhitespace_le text
  have agree :
      AgreeUpTo text.length (parseValue convert (text.length + 1))
        (parseValue convert depth) :=
    fun shorter small => parseValue_depth (by omega) (by omega)
  rw [parse, parseElement_agree agree _ skipped]
  rfl

end Values

end ChannelSdk.RapidJson
