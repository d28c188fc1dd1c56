import ChannelSdk.ConfigAcceptance
import ChannelSdk.DocumentTypes
import ChannelSdk.LoadedConfig
import ChannelSdk.RapidJsonIntegers

/-!
# The integers of a configuration as they are written

`BUFFER_SIZE` and the other integer settings pass through the number reader,
the flags of the document and the assertion of `GetInt`.  What arrives in the
configuration is the integer that stands in the text: a setting that is
written with a point or an exponent, or that does not fit into `int`, is
refused even where its value is an integer, and of two settings of one name
the first counts.
-/

namespace ChannelSdk

open CheckedMemory JsonGrammar GuardedDigits

namespace RapidJson

/-! ## Numbers with a point or an exponent -/

section Token

variable {Double : Type} (float : FloatArithmetic Double)

theorem parseFracPart_isDouble
    {s read : Significand Double} {expFrac : Int} {fraction rest : Bytes}
    (isFraction : Fraction fraction) (present : fraction ≠ [])
    (returned : parseFracPart float s fraction = .ok ((read, expFrac), rest)) :
    read.useDouble = true := by
  rcases isFraction with rfl | ⟨digits, rfl, nonempty, areDigits⟩
  · exact absurd rfl present
  · have digit := head_isNone_of_digits ⟨nonempty, areDigits⟩
    rw [parseFracPart_digits float s digits digit] at returned
    cases loops : fracLoops float s digits with
    | error raised =>
        rw [loops] at returned
        cases returned
    | ok value =>
        rw [loops] at returned
        cases returned
        rfl

theorem parseExpPart_isDouble
    {s read : Significand Double} {expFrac exp : Int} {exponent rest : Bytes}
    (isExponent : Exponent exponent)
    (present : exponent ≠ [] ∨ s.useDouble = true)
    (returned :
      parseExpPart float s expFrac exponent = .ok ((read, exp), rest)) :
    read.useDouble = true := by
  rcases isExponent with
    rfl | ⟨mark, sign, digits, rfl, isMark, isSign, areDigits⟩
  · cases returned
    exact present.resolve_left fun nonempty => nonempty rfl
  · rw [parseExpPart, if_pos isMark] at returned
    obtain ⟨value, -, returned⟩ := bind_eq_ok returned
    cases returned
    rfl

/-- A number with a point or an exponent is never an integer. -/
theorem readNumber_double
    {minus whole fraction exponent rest : Bytes}
    (number : Number minus whole fraction exponent)
    (notInteger : fraction ≠ [] ∨ exponent ≠ []) {event : NumberEvent Double}
    (read :
      readNumber float (minus ++ (whole ++ (fraction ++ exponent))) =
        .ok (event, rest)) :
    ∃ d, event = .double d := by
  rw [readNumber_token float number] at read
  cases value : valueOfParts float minus whole fraction exponent with
  | error raised =>
      rw [value] at read
      cases read
  | ok returned =>
      rw [value] at read
      cases read
      obtain ⟨⟨s, left⟩, -, value⟩ := bind_eq_ok value
      obtain ⟨⟨⟨withFraction, expFrac⟩, left⟩, readFraction, value⟩ :=
        bind_eq_ok value
      obtain ⟨⟨⟨withExponent, exp⟩, left⟩, readExponent, value⟩ :=
        bind_eq_ok value
      have isDouble : withExponent.useDouble = true :=
        parseExpPart_isDouble float number.exponent
          (notInteger.symm.imp_right fun present =>
            parseFracPart_isDouble float number.fraction present readFraction)
          readExponent
      dsimp only at value
      rw [finishNumber, if_pos isDouble] at value
      obtain ⟨p, -, value⟩ := bind_eq_ok value
      obtain ⟨d, -, value⟩ := bind_eq_ok value
      split at value
      · cases value
      · cases value
        exact ⟨_, rfl⟩

/-- A text is that of an integer. -/
structure WritesInteger (text : Bytes) (value : Int) : Prop where
  fits : FitsInt32 value
  written :
    ∃ minus whole,
      Number minus whole [] [] ∧ text = minus ++ whole ∧
        value = signed (minus = [ascii '-']) (wholeNumber whole)

theorem getInt_eq_ok {json : Json} {value : Int} :
    json.getInt = .ok value ↔ json = .integer value ∧ FitsInt32 value := by
  cases json with
  | integer number =>
      by_cases fits : FitsInt32 number
      · rw [Json.getInt, if_pos fits]
        simp only [Except.ok.injEq, Json.integer.injEq]
        constructor
        · rintro rfl
          exact ⟨rfl, fits⟩
        · exact fun has => has.1
      · rw [Json.getInt, if_neg fits]
        simp only [Json.integer.injEq, reduceCtorEq, false_iff, not_and]
        rintro rfl
        exact fits
  | _ => simp [Json.getInt]

theorem numberOf_eq_some {text : Bytes} {json : Json} :
    numberOf float text = some json ↔
      ∃ event rest,
        readNumber float text = .ok (event, rest) ∧
          event.document float = json := by
  rw [numberOf]
  cases readNumber float text with
  | error raised => simp [Except.toOption]
  | ok read => simp [Except.toOption, Prod.ext_iff, and_assoc]

/-- `GetInt` accepts what is written as an integer in the range of `int`. -/
theorem numberOf_getInt_iff
    {minus whole fraction exponent : Bytes}
    (number : Number minus whole fraction exponent) (value : Int) :
    (∃ json,
        numberOf float (minus ++ (whole ++ (fraction ++ exponent))) =
            some json ∧
          json.getInt = .ok value) ↔
      WritesInteger (minus ++ (whole ++ (fraction ++ exponent))) value := by
  simp only [getInt_eq_ok, numberOf_eq_some]
  constructor
  · rintro ⟨json, ⟨event, rest, read, rfl⟩, isInteger, fits⟩
    have noDouble : ¬ ∃ d, event = .double d := by
      rintro ⟨d, rfl⟩
      cases isInteger
    have integer : fraction = [] ∧ exponent = [] := by
      by_contra other
      rw [not_and_or] at other
      exact noDouble (readNumber_double float number other read)
    obtain ⟨rfl, rfl⟩ := integer
    obtain ⟨within, beyond⟩ :=
      readNumber_integer float number (starts_nil EndsNumber)
    refine ⟨fits, minus, whole, number, by simp, ?_⟩
    by_cases word :
        FitsWord64 (signed (minus = [ascii '-']) (wholeNumber whole))
    · obtain ⟨kept, readKept, keeps⟩ := within word
      have same := read.symm.trans readKept
      cases same
      have document := isInteger.symm.trans keeps.document
      cases document
      rfl
    · rcases beyond word with failed | ⟨d, readDouble⟩
      · have same := read.symm.trans failed
        cases same
      · have same := read.symm.trans readDouble
        cases same
        exact absurd ⟨d, rfl⟩ noDouble
  · rintro ⟨fits, sign, digits, isInteger, same, rfl⟩
    have word : FitsWord64 (signed (sign = [ascii '-']) (wholeNumber digits)) :=
      ⟨Int.le_trans (by decide) fits.1, Int.le_trans fits.2 (by decide)⟩
    obtain ⟨event, read, keeps⟩ :=
      (readNumber_integer float isInteger (starts_nil EndsNumber)).1 word
    rw [List.append_nil] at read
    rw [same]
    exact ⟨_, ⟨event, [], read, keeps.document⟩, rfl, fits⟩

end Token

/-! ## The members of a text -/

/-- The name that a string of the grammar is read as. -/
def nameOf (pieces : List Piece) : Option String :=
  (bytesOf pieces).map ofBytes

/-- The first entry of a name. -/
def entryOf (entries : List (List Piece × Tree)) (key : String) :
    Option (List Piece × Tree) :=
  entries.find? fun entry => nameOf entry.1 = some key

theorem findMember_eq
    {convert : Bytes → Option Json} {entries : List (List Piece × Tree)}
    {members : List (String × Json)}
    (built : membersOf convert entries = some members) (key : String) :
    (entryOf entries key).map (fun entry => documentOf convert entry.2) =
      (Json.findMember members key).map some := by
  induction entries generalizing members with
  | nil =>
      cases built
      rfl
  | cons entry others inductionHypothesis =>
      obtain ⟨pieces, tree⟩ := entry
      rw [membersOf_cons] at built
      obtain ⟨member, first, built⟩ := Option.bind_eq_some_iff.mp built
      obtain ⟨rest, later, rfl⟩ := Option.map_eq_some_iff.mp built
      rw [memberOf_eq] at first
      obtain ⟨bytes, name, first⟩ := Option.bind_eq_some_iff.mp first
      obtain ⟨value, document, rfl⟩ := Option.map_eq_some_iff.mp first
      have named : nameOf pieces = some (ofBytes bytes) := by
        rw [nameOf, name]
        rfl
      have continued := inductionHypothesis later
      rw [Json.findMember, entryOf] at continued ⊢
      rw [List.find?_cons, List.find?_cons, named]
      by_cases found : ofBytes bytes = key
      · simp [found, document]
      · simpa [found] using continued

/-- The values of the members of a text are spelled in it. -/
theorem spelled_of_members
    {entries : List (List Piece × Tree)} {text : Bytes}
    (spelled : Spells (.members entries) text) :
    ∀ entry ∈ entries, ∃ value, Spells (.value entry.2) value := by
  have ofMember :
      ∀ {entry : List Piece × Tree} {text : Bytes},
        Spells (.member entry) text →
          ∃ value, Spells (.value entry.2) value := by
    intro entry text spelled
    cases spelled with
    | member before name after element =>
        cases element with
        | element before value after => exact ⟨_, value⟩
  induction entries generalizing text with
  | nil => exact List.forall_mem_nil _
  | cons entry others inductionHypothesis =>
      cases spelled with
      | lastMember first =>
          exact List.forall_mem_cons.mpr
            ⟨ofMember first, List.forall_mem_nil _⟩
      | members first later =>
          exact List.forall_mem_cons.mpr
            ⟨ofMember first, inductionHypothesis later⟩

theorem spelled_of_object
    {entries : List (List Piece × Tree)} {text : Bytes}
    (document : Document (.object entries) text) :
    ∀ entry ∈ entries, ∃ value, Spells (.value entry.2) value := by
  cases document with
  | element before object after =>
      cases object with
      | emptyObject space => exact List.forall_mem_nil _
      | object spelled => exact spelled_of_members spelled

/-- What an integer setting is in a text, with the default of an absent
one. -/
def Sets (entries : List (List Piece × Tree)) (key : String)
    (defaultValue value : Int) : Prop :=
  match entryOf entries key with
  | none => value = defaultValue
  | some entry => ∃ text, entry.2 = .number text ∧ WritesInteger text value

/-- Only a number is read as an integer. -/
theorem documentOf_integer
    {convert : Bytes → Option Json} {tree : Tree} {value : Int}
    (built : documentOf convert tree = some (.integer value)) :
    ∃ token, tree = .number token := by
  cases tree with
  | number token => exact ⟨token, rfl⟩
  | null => cases built
  | bool _ => cases built
  | string pieces =>
      rw [documentOf_string] at built
      obtain ⟨bytes, -, same⟩ := Option.map_eq_some_iff.mp built
      cases same
  | array trees =>
      rw [documentOf_array] at built
      obtain ⟨elements, -, same⟩ := Option.map_eq_some_iff.mp built
      cases same
  | object entries =>
      rw [documentOf_object] at built
      obtain ⟨members, -, same⟩ := Option.map_eq_some_iff.mp built
      cases same

/-- `GetInt` on what a value of a text is read as. -/
theorem documentOf_getInt_iff
    {Double : Type} (float : FloatArithmetic Double) {tree : Tree}
    {text : Bytes} (spelled : Spells (.value tree) text) {json : Json}
    (built : documentOf (numberOf float) tree = some json) (value : Int) :
    json.getInt = .ok value ↔
      ∃ token, tree = .number token ∧ WritesInteger token value := by
  have ofNumber :
      ∀ token, tree = .number token →
        (json.getInt = .ok value ↔ WritesInteger token value) := by
    rintro token rfl
    cases spelled with
    | number parts =>
        have accepts := numberOf_getInt_iff float parts value
        rw [documentOf] at built
        rw [built] at accepts
        simpa using accepts
  constructor
  · intro read
    obtain ⟨rfl, -⟩ := getInt_eq_ok.mp read
    obtain ⟨token, isNumber⟩ := documentOf_integer built
    exact ⟨token, isNumber, (ofNumber token isNumber).mp read⟩
  · rintro ⟨token, isNumber, written⟩
    exact (ofNumber token isNumber).mpr written

theorem getInt_iff_sets
    {Double : Type} (float : FloatArithmetic Double)
    {entries : List (List Piece × Tree)} {text : Bytes}
    (document : Document (.object entries) text) {doc : Json}
    (built : documentOf (numberOf float) (.object entries) = some doc)
    (key : String) (defaultValue value : Int) :
    getInt doc key defaultValue false = .ok value ↔
      Sets entries key defaultValue value := by
  rw [documentOf_object] at built
  obtain ⟨members, membersBuilt, rfl⟩ := Option.map_eq_some_iff.mp built
  have found := findMember_eq membersBuilt key
  have isMember : (Json.object members).member key =
      Json.findMember members key := rfl
  rw [getInt, getMember_of_isObject rfl, isMember, Sets]
  cases first : entryOf entries key with
  | none =>
      rw [first] at found
      have absent : Json.findMember members key = none := by
        simpa using found.symm
      rw [absent]
      exact ⟨fun same => by cases same; rfl, fun same => by rw [same]⟩
  | some entry =>
      rw [first] at found
      obtain ⟨json, present, valueBuilt⟩ :=
        Option.map_eq_some_iff.mp found.symm
      rw [present]
      obtain ⟨spelling, spelled⟩ :=
        spelled_of_object document entry (List.mem_of_find?_eq_some first)
      exact documentOf_getInt_iff float spelled valueBuilt.symm value

/-- Only an object is read as an object. -/
theorem documentOf_isObject
    {Double : Type} (float : FloatArithmetic Double) {tree : Tree}
    {doc : Json} (built : documentOf (numberOf float) tree = some doc)
    (isObject : doc.isObject) : ∃ entries, tree = .object entries := by
  obtain ⟨members, rfl⟩ := Json.isObject_iff.mp isObject
  cases tree with
  | object entries => exact ⟨entries, rfl⟩
  | null => cases built
  | bool _ => cases built
  | number token =>
      rw [documentOf] at built
      obtain ⟨event, rest, -, document⟩ := (numberOf_eq_some float).mp built
      cases event <;> cases document
  | string pieces =>
      rw [documentOf_string] at built
      obtain ⟨bytes, -, same⟩ := Option.map_eq_some_iff.mp built
      cases same
  | array trees =>
      rw [documentOf_array] at built
      obtain ⟨elements, -, same⟩ := Option.map_eq_some_iff.mp built
      cases same

end RapidJson

namespace ChannelConfig

open RapidJson

/-! ## The configuration -/

/-- The integers of a configuration are those of its document. -/
theorem integers_of_parse
    {config : ChannelConfig} {doc : Json} (parsed : parse {} doc = .ok config) :
    doc.isObject ∧
      getInt doc "BUFFER_SIZE" 8192 false = .ok config.bufferSize ∧
      ∃ level,
        getInt doc "LOG_LEVEL" 2 false = .ok level ∧
          config.logLevel = min (level % 256).toNat 2 := by
  rcases bind_eq_ok parsed with ⟨withSettings, settings, parsed⟩
  rcases bind_eq_ok parsed with ⟨withNodeInfo, nodeInfo, parsed⟩
  rcases bind_eq_ok parsed with ⟨withData, data, parsed⟩
  rcases bind_eq_ok parsed with ⟨withCompute, compute, parsed⟩
  rcases bind_eq_ok parsed with ⟨withResult, results, policy⟩
  have typed := completes_parseSettings_iff.mp ⟨withSettings, settings⟩
  have read := settings
  rcases bind_eq_ok read with ⟨_, -, read⟩
  rcases bind_eq_ok read with ⟨_, -, read⟩
  rcases bind_eq_ok read with ⟨level, readLevel, read⟩
  rcases bind_eq_ok read with ⟨size, readSize, read⟩
  rcases bind_eq_ok read with ⟨_, -, read⟩
  rcases bind_eq_ok read with ⟨_, -, read⟩
  rcases bind_eq_ok read with ⟨_, -, read⟩
  rcases bind_eq_ok read with ⟨_, -, read⟩
  cases read
  rcases parseNodeInfo_eq_ok nodeInfo with ⟨_, _, _, _, rfl, _⟩
  rcases parseData_eq_ok rfl rfl data with ⟨_, rfl, _⟩
  rcases parseCompute_eq_ok rfl rfl compute with ⟨_, _, rfl, _, _⟩
  rcases parseResult_eq_ok rfl rfl results with ⟨_, rfl, _⟩
  rcases parsePolicy_eq_ok policy with ⟨_, _, rfl⟩
  exact ⟨typed.isObject, readSize, level, readLevel, rfl⟩

/-- A configuration that `load` accepts has the buffer size that is written in
its text, and the log level, in eight bits and up to 2. -/
theorem load_integers
    {Double : Type} (float : FloatArithmetic Double) {files : Files}
    {configFile : Bytes} (encoded : Encoded (rawText files configFile))
    {passes : Nat} {nodeId : String} {config : ChannelConfig}
    (loaded :
      load (numberOf float) files passes nodeId configFile =
        some (.ok config)) :
    ∃ entries,
      Document (.object entries) (plainText files configFile) ∧
        Sets entries "BUFFER_SIZE" 8192 config.bufferSize ∧
        ∃ level,
          Sets entries "LOG_LEVEL" 2 level ∧
            config.logLevel = min (level % 256).toNat 2 := by
  obtain ⟨parsed, found, created⟩ := Option.map_eq_some_iff.mp loaded
  cases parsed with
  | none => cases created
  | some doc =>
      obtain ⟨-, tree, document, built⟩ :=
        (loadDocument_iff (numberOf float) encoded doc).mp ⟨passes, found⟩
      obtain ⟨config, parsed, same⟩ := bind_eq_ok created
      cases same
      obtain ⟨isObject, size, level, readLevel, limited⟩ :=
        integers_of_parse parsed
      obtain ⟨entries, rfl⟩ := documentOf_isObject float built isObject
      exact
        ⟨entries, document,
          (getInt_iff_sets float document built _ _ _).mp size, level,
          (getInt_iff_sets float document built _ _ _).mp readLevel, limited⟩

/-- A text with a buffer size of sixteen. -/
def sixteenText : List Char :=
  "\x7b\"BUFFER_SIZE\":16\x7d".toList

theorem load_integers_sixteen :
    ∃ entries,
      Document (.object entries)
          (plainText (fun _ => none)
            (sixteenText.flatMap String.utf8EncodeChar)) ∧
        Sets entries "BUFFER_SIZE" 8192 16 ∧
        ∃ level, Sets entries "LOG_LEVEL" 2 level ∧
          2 = min (level % 256).toNat 2 :=
  load_integers exactArithmetic ⟨sixteenText, rfl⟩
    (show
      load (numberOf exactArithmetic) (fun _ => none) 0 "p0"
          (sixteenText.flatMap String.utf8EncodeChar) =
        some (.ok { nodeId := "p0", bufferSize := 16, logLevel := 2 })
      from rfl)

end ChannelConfig

end ChannelSdk
