import ChannelSdk.Lib.CheckedMemory

/-!
# The streams of Ice

What `third_party/ice/include/Ice/OutputStream.h` and `InputStream.h` say about
the bytes of a call: integers, sizes, encapsulations and the calls that put
them together.  The functions that the headers only declare are parameters;
what is relied on is that strings and byte sequences are written and read as
their size followed by their bytes.

A size below 255 is one byte.  A larger one is the byte 255 and four bytes
more, which a reader also accepts for a small size.
-/

namespace ChannelSdk.Ice

open CheckedMemory CircularWindow

/-- Why a stream gives up.  A failed assertion ends the program. -/
inductive StreamError where
  | assertion
  | unmarshalOutOfBounds
  | encapsulation
  | unsupportedEncoding
  deriving DecidableEq, Repr

/-- A function that reads from the bytes that are left. -/
abbrev Reader (Value : Type) :=
  Bytes → Except StreamError (Value × Bytes)

/-! ## Integers and sizes -/

/-- `OutputStream::write(Int)`. -/
def writeInt (v : Int) : Bytes :=
  lowBytes 4 (v % 4294967296).toNat

/-- `OutputStream::writeSize`. -/
def writeSize (v : Int) : Except StreamError Bytes :=
  if v < 0 then .error .assertion
  else if v > 254 then .ok (255 :: writeInt v)
  else .ok [UInt8.ofNat v.toNat]

/-- `InputStream::read(Byte&)`. -/
def readByte : Reader UInt8
  | [] => .error .unmarshalOutOfBounds
  | v :: i => .ok (v, i)

/-- `InputStream::read(Int&)`. -/
def readInt : Reader Int
  | first :: second :: third :: fourth :: i =>
      .ok (signedOf [first, second, third, fourth], i)
  | _ => .error .unmarshalOutOfBounds

/-- `InputStream::readSize`. -/
def readSize (text : Bytes) : Except StreamError (Int × Bytes) := do
  let (byte, i) ← readByte text
  if byte = 255 then do
    let (v, i) ← readInt i
    if v < 0 then .error .unmarshalOutOfBounds else .ok (v, i)
  else .ok (byte.toNat, i)

/-- `InputStream::readBlob`. -/
def readBlob (sz : Int) (text : Bytes) :
    Except StreamError (Bytes × Bytes) :=
  if (text.length : Int) < sz then .error .unmarshalOutOfBounds
  else .ok (text.take sz.toNat, text.drop sz.toNat)

/-! ## Bytes behind their size -/

/-- How the encoding writes strings and byte sequences. -/
def writeSized (v : Bytes) : Except StreamError Bytes := do
  let head ← writeSize (toInt32 v.length)
  .ok (head ++ v)

/-- How the encoding reads strings and byte sequences. -/
def readSized (text : Bytes) : Except StreamError (Bytes × Bytes) := do
  let (sz, i) ← readSize text
  readBlob sz i

/-- The library behind the headers. -/
structure Library where
  writeConverted : Bytes → Except StreamError Bytes
  writeBytes : Bytes → Except StreamError Bytes
  readString : Reader Bytes
  readBytes : Reader Bytes
  skipOptionals : Int → Reader Unit

/-- The encoding without a string converter.  `skipOptionals` is given the
number of bytes that are left of the encapsulation. -/
structure Library.Documented (library : Library) : Prop where
  writeConverted : ∀ v, library.writeConverted v = writeSized v
  writeBytes : ∀ v, library.writeBytes v = writeSized v
  readString : ∀ text, library.readString text = readSized text
  readBytes : ∀ text, library.readBytes text = readSized text
  skipOptionals : ∀ left i, left ≤ 0 → library.skipOptionals left i = .ok ((), i)

/-- `OutputStream::write(const std::string&)`. -/
def Library.writeString (library : Library) (v : Bytes) :
    Except StreamError Bytes :=
  let sz := toInt32 v.length
  if 0 < sz then library.writeConverted (v.take sz.toNat)
  else writeSize sz

/-- `OutputStream::write(const std::vector<Byte>&)`. -/
def Library.writeVector (library : Library) (v : Bytes) :
    Except StreamError Bytes :=
  if v = [] then writeSize 0 else library.writeBytes v

/-! ## Encapsulations -/

/-- `Ice::EncodingVersion`. -/
structure EncodingVersion where
  major : UInt8
  minor : UInt8
  deriving DecidableEq, Repr

/-- `Encoding_1_0`. -/
def encoding10 : EncodingVersion := ⟨1, 0⟩

/-- `currentEncoding`. -/
def currentEncoding : EncodingVersion := ⟨1, 1⟩

def isSupported (version supported : EncodingVersion) : Bool :=
  version.major = supported.major && version.minor ≤ supported.minor

def checkSupportedEncoding (v : EncodingVersion) : Except StreamError Unit :=
  if isSupported v currentEncoding then .ok ()
  else .error .unsupportedEncoding

/-- `OutputStream::startEncapsulation` on a new stream. -/
def startWriting (encoding : EncodingVersion) : Except StreamError Bytes := do
  checkSupportedEncoding encoding
  .ok (writeInt 0 ++ [encoding.major, encoding.minor])

/-- `OutputStream::endEncapsulation` of the encapsulation that starts the
stream. -/
def endWriting (b : Bytes) : Bytes :=
  overwrite b 0 (writeInt (toInt32 b.length))

/-- The encapsulation that is being read. -/
structure Encaps where
  sz : Int
  encoding : EncodingVersion
  deriving DecidableEq, Repr

/-- `InputStream::startEncapsulation` on a new stream. -/
def startReading (b : Bytes) : Except StreamError (Encaps × Bytes) := do
  let (sz, i) ← readInt b
  if sz < 6 then .error .unmarshalOutOfBounds
  else if sz > b.length then .error .unmarshalOutOfBounds
  else do
    let (major, i) ← readByte i
    let (minor, i) ← readByte i
    checkSupportedEncoding ⟨major, minor⟩
    .ok (⟨sz, ⟨major, minor⟩⟩, i)

/-- `InputStream::endEncapsulation`, with `i` left of the stream. -/
def Library.endReading (library : Library) (encaps : Encaps) (b i : Bytes) :
    Except StreamError Unit :=
  let position (i : Bytes) : Int := b.length - i.length
  if encaps.encoding ≠ encoding10 then do
    let (_, i) ← library.skipOptionals (encaps.sz - position i) i
    if position i = encaps.sz then .ok () else .error .encapsulation
  else if position i = encaps.sz ∨ position i + 1 = encaps.sz then .ok ()
  else .error .encapsulation

/-! ## Sizes and the bytes behind them -/

/-- The bytes in which a size can be written. -/
def Sizes (size : Nat) (head : Bytes) : Prop :=
  size < 255 ∧ head = [UInt8.ofNat size] ∨
    ∃ word, word.length = 4 ∧ signedOf word = size ∧ head = 255 :: word

/-- Some bytes behind their size. -/
def Sized (v text : Bytes) : Prop :=
  ∃ head, Sizes v.length head ∧ text = head ++ v

theorem readInt_append
    {word : Bytes} (four : word.length = 4) (i : Bytes) :
    readInt (word ++ i) = .ok (signedOf word, i) := by
  match word, four with
  | [first, second, third, fourth], _ => rfl

theorem readInt_eq_ok
    {text i : Bytes} {v : Int} (read : readInt text = .ok (v, i)) :
    ∃ word, word.length = 4 ∧ text = word ++ i ∧ signedOf word = v := by
  match text, read with
  | first :: second :: third :: fourth :: rest, read =>
      obtain ⟨value, rfl⟩ := Prod.mk.inj (Except.ok.inj read)
      exact ⟨[first, second, third, fourth], rfl, rfl, value⟩

theorem readSize_short
    {byte : UInt8} (short : byte ≠ 255) (i : Bytes) :
    readSize (byte :: i) = .ok ((byte.toNat : Int), i) := by
  rw [readSize, readByte, ok_bind]
  exact if_neg short

theorem readSize_long
    {text i : Bytes} {v : Int} (read : readInt text = .ok (v, i))
    (nonneg : 0 ≤ v) : readSize (255 :: text) = .ok (v, i) := by
  rw [readSize, readByte, ok_bind]
  dsimp only
  rw [if_pos rfl, read, ok_bind]
  exact if_neg (Int.not_lt.mpr nonneg)

theorem readSize_sizes
    {size : Nat} {head : Bytes} (sizes : Sizes size head) (i : Bytes) :
    readSize (head ++ i) = .ok ((size : Int), i) := by
  obtain ⟨small, rfl⟩ | ⟨word, four, value, rfl⟩ := sizes
  · have value : (UInt8.ofNat size).toNat = size := by
      rw [UInt8.toNat_ofNat']
      omega
    have short : UInt8.ofNat size ≠ 255 := by
      intro same
      rw [same] at value
      have mark : (255 : UInt8).toNat = 255 := rfl
      omega
    rw [List.singleton_append, readSize_short short, value]
  · have read := readInt_append four i
    rw [value] at read
    exact readSize_long read (Int.natCast_nonneg size)

theorem readSize_eq_ok
    {text i : Bytes} {v : Int} (read : readSize text = .ok (v, i)) :
    ∃ size head, v = (size : Nat) ∧ text = head ++ i ∧ Sizes size head := by
  cases text with
  | nil => cases read
  | cons byte rest =>
      by_cases mark : byte = 255
      · subst mark
        rw [readSize, readByte, ok_bind] at read
        dsimp only at read
        rw [if_pos rfl] at read
        obtain ⟨⟨value, behind⟩, found, ends⟩ := bind_eq_ok read
        dsimp only at ends
        split at ends
        · cases ends
        · next nonneg =>
            cases ends
            obtain ⟨word, four, rfl, same⟩ := readInt_eq_ok found
            obtain ⟨size, rfl⟩ :=
              Int.eq_ofNat_of_zero_le (Int.not_lt.mp nonneg)
            exact
              ⟨size, 255 :: word, rfl, rfl, .inr ⟨word, four, same, rfl⟩⟩
      · rw [readSize_short mark] at read
        cases read
        have notMark : byte.toNat ≠ 255 := by
          intro same
          exact mark (UInt8.toNat_inj.mp same)
        have bound := byte.toNat_lt
        refine ⟨byte.toNat, [byte], rfl, rfl, .inl ⟨by omega, ?_⟩⟩
        rw [UInt8.ofNat_toNat]

theorem readSized_append
    {v taken : Bytes} (sized : Sized v taken) (i : Bytes) :
    readSized (taken ++ i) = .ok (v, i) := by
  obtain ⟨head, sizes, rfl⟩ := sized
  have enough : ¬ (((v ++ i).length : Int) < (v.length : Int)) := by
    rw [List.length_append]
    omega
  rw [readSized, List.append_assoc, readSize_sizes sizes, ok_bind]
  simp only [readBlob, if_neg enough, Int.toNat_natCast, List.take_left',
    List.drop_left']

/-- A field is read exactly when it stands at the front. -/
theorem readSized_iff {text v i : Bytes} :
    readSized text = .ok (v, i) ↔
      ∃ taken, Sized v taken ∧ text = taken ++ i := by
  constructor
  · intro read
    obtain ⟨⟨sz, behind⟩, found, blob⟩ := bind_eq_ok read
    obtain ⟨size, head, rfl, rfl, sizes⟩ := readSize_eq_ok found
    dsimp only [readBlob] at blob
    split at blob
    · cases blob
    · next enough =>
        cases blob
        have length : (behind.take size).length = size := by
          rw [List.length_take]
          omega
        refine
          ⟨head ++ behind.take size, ⟨head, length.symm ▸ sizes, rfl⟩, ?_⟩
        rw [List.append_assoc, Int.toNat_natCast, List.take_append_drop]
  · rintro ⟨taken, sized, rfl⟩
    exact readSized_append sized i

theorem writeInt_spec
    {value : Nat} (fits : value ≤ 2147483647) :
    (writeInt (toInt32 value)).length = 4 ∧
      signedOf (writeInt (toInt32 value)) = value := by
  have same : toInt32 value = value := toInt32_of_fits ⟨by omega, by omega⟩
  have whole : ((value : Int) % 4294967296).toNat = value := by omega
  rw [same, writeInt, whole]
  exact
    ⟨length_lowBytes 4 value, signedOf_lowBytes (Nat.lt_succ_of_le fits)⟩

theorem writeSize_sizes
    {size : Nat} (fits : size ≤ 2147483647) :
    ∃ head,
      writeSize (toInt32 size) = .ok head ∧ Sizes size head ∧
        head.length ≤ 5 := by
  obtain ⟨four, value⟩ := writeInt_spec fits
  have same : toInt32 size = size := toInt32_of_fits ⟨by omega, by omega⟩
  rw [same] at four value
  rw [same, writeSize, if_neg (Int.not_lt.mpr (Int.natCast_nonneg size))]
  by_cases large : (size : Int) > 254
  · rw [if_pos large]
    refine ⟨_, rfl, .inr ⟨_, four, value, rfl⟩, ?_⟩
    rw [List.length_cons]
    omega
  · rw [if_neg large, Int.toNat_natCast]
    exact ⟨_, rfl, .inl ⟨by omega, rfl⟩, by simp⟩

theorem writeSized_sized
    {v : Bytes} (fits : v.length ≤ 2147483647) :
    ∃ text,
      writeSized v = .ok text ∧ Sized v text ∧
        text.length ≤ v.length + 5 := by
  obtain ⟨head, written, sizes, short⟩ := writeSize_sizes fits
  refine ⟨head ++ v, ?_, ⟨head, sizes, rfl⟩, ?_⟩
  · rw [writeSized, written, ok_bind]
  · rw [List.length_append]
    omega

section Documented

variable {library : Library} (documented : library.Documented)

include documented

theorem writeString_eq
    {v : Bytes} (fits : v.length ≤ 2147483647) :
    library.writeString v = writeSized v := by
  have same : toInt32 v.length = v.length :=
    toInt32_of_fits ⟨by omega, by omega⟩
  rw [Library.writeString, same]
  by_cases nonempty : 0 < (v.length : Int)
  · rw [if_pos nonempty, Int.toNat_natCast, List.take_length,
      documented.writeConverted]
  · have nothing : v = [] := List.eq_nil_of_length_eq_zero (by omega)
    rw [if_neg nonempty, nothing]
    rfl

theorem writeVector_eq (v : Bytes) :
    library.writeVector v = writeSized v := by
  rw [Library.writeVector]
  split
  · next nothing =>
      rw [nothing]
      rfl
  · exact documented.writeBytes v

/-! ## Encapsulations end where their size says -/

theorem endReading_exact
    {encaps : Encaps} {b i : Bytes}
    (exactly : encaps.sz = (b.length : Int) - i.length) :
    library.endReading encaps b i = .ok () := by
  rw [Library.endReading]
  dsimp only
  split
  · rw [documented.skipOptionals _ _ (by omega), ok_bind]
    exact if_pos exactly.symm
  · exact if_pos (.inl exactly.symm)

end Documented

/-- `endEncapsulation` does not accept these bytes between the fields and the
end of their encapsulation: more than one of them in the encoding 1.0, and in
the later one any that `skipOptionals` does not skip. -/
def Library.Refuses (library : Library) (encoding : EncodingVersion)
    (rest : Bytes) : Prop :=
  if encoding = encoding10 then 2 ≤ rest.length
  else library.skipOptionals rest.length rest ≠ .ok ((), [])

/-- The end of an encapsulation that is the whole stream. -/
theorem endReading_whole_iff
    {library : Library} {encaps : Encaps} {b rest : Bytes}
    (whole : encaps.sz = b.length) :
    library.endReading encaps b rest = .ok () ↔
      ¬ library.Refuses encaps.encoding rest := by
  rw [Library.endReading, Library.Refuses]
  dsimp only
  by_cases first : encaps.encoding = encoding10
  · rw [if_neg (not_not.mpr first), if_pos first]
    constructor
    · intro ends
      split at ends
      · omega
      · cases ends
    · intro few
      exact if_pos (by omega)
  · rw [if_pos first, if_neg first, not_not]
    have left :
        encaps.sz - ((b.length : Int) - rest.length) = rest.length := by
      omega
    rw [left]
    cases skipped : library.skipOptionals rest.length rest with
    | error failure =>
        exact iff_of_false nofun nofun
    | ok result =>
        obtain ⟨⟨⟩, behind⟩ := result
        rw [ok_bind]
        dsimp only
        constructor
        · intro ends
          split at ends
          · next atEnd =>
              rw [List.eq_nil_of_length_eq_zero (by omega : behind.length = 0)]
          · cases ends
        · intro same
          cases same
          exact if_pos (by simp [whole])

/-- The six bytes in front of an encapsulation. -/
def Header (encaps : Encaps) (head : Bytes) : Prop :=
  ∃ word, word.length = 4 ∧ signedOf word = encaps.sz ∧
    head = word ++ [encaps.encoding.major, encaps.encoding.minor]

theorem Header.length {encaps : Encaps} {head : Bytes}
    (header : Header encaps head) : head.length = 6 := by
  obtain ⟨word, four, -, rfl⟩ := header
  rw [List.length_append, four]
  rfl

/-- What an encapsulation that is opened looks like. -/
structure Opens (encaps : Encaps) (b i : Bytes) : Prop where
  header : ∃ head, Header encaps head ∧ b = head ++ i
  least : 6 ≤ encaps.sz
  most : encaps.sz ≤ b.length
  supported : isSupported encaps.encoding currentEncoding = true

theorem Opens.length {encaps : Encaps} {b i : Bytes}
    (opens : Opens encaps b i) : b.length = 6 + i.length := by
  obtain ⟨head, header, rfl⟩ := opens.header
  rw [List.length_append, header.length]

theorem startReading_iff {encaps : Encaps} {b i : Bytes} :
    startReading b = .ok (encaps, i) ↔ Opens encaps b i := by
  constructor
  · intro read
    obtain ⟨⟨sz, behind⟩, found, opened⟩ := bind_eq_ok read
    obtain ⟨word, four, rfl, same⟩ := readInt_eq_ok found
    clear read
    dsimp only at opened
    split at opened
    · cases opened
    · split at opened
      · cases opened
      · next least most =>
          match behind, opened with
          | major :: minor :: rest, opened =>
              rw [readByte, ok_bind, readByte, ok_bind,
                checkSupportedEncoding] at opened
              split at opened
              · next supported =>
                  cases opened
                  exact
                    ⟨⟨_, ⟨word, four, same, rfl⟩, by simp⟩,
                      Int.not_lt.mp least, Int.not_lt.mp most, supported⟩
              · cases opened
  · rintro ⟨⟨head, ⟨word, four, value, rfl⟩, rfl⟩, least, most, supported⟩
    rw [startReading, List.append_assoc, readInt_append four, ok_bind, value]
    dsimp only
    rw [List.append_assoc] at most
    rw [if_neg (Int.not_lt.mpr least), if_neg (Int.not_lt.mpr most)]
    simp [readByte, checkSupportedEncoding, supported]

/-- A written encapsulation opens. -/
theorem opens_written
    {encoding : EncodingVersion}
    (supported : isSupported encoding currentEncoding = true)
    {fields : Bytes} (fits : 6 + fields.length ≤ 2147483647) :
    ∃ start,
      startWriting encoding = .ok start ∧
        Opens ⟨6 + fields.length, encoding⟩ (endWriting (start ++ fields))
          fields := by
  have checked : checkSupportedEncoding encoding = .ok () := if_pos supported
  refine ⟨writeInt 0 ++ [encoding.major, encoding.minor], ?_, ?_⟩
  · rw [startWriting, checked, ok_bind]
  · have length :
        (writeInt 0 ++ [encoding.major, encoding.minor] ++ fields).length =
          6 + fields.length := by
      simp [writeInt]
      omega
    obtain ⟨four, value⟩ := writeInt_spec fits
    have written :
        endWriting (writeInt 0 ++ [encoding.major, encoding.minor] ++ fields) =
          writeInt (toInt32 (6 + fields.length : Nat)) ++
            [encoding.major, encoding.minor] ++ fields := by
      rw [endWriting, length, overwrite, four]
      simp [writeInt]
    rw [written]
    refine ⟨⟨_, ⟨_, four, ?_, rfl⟩, rfl⟩, by dsimp only; omega, ?_, supported⟩
    · rw [value]
      push_cast
      rfl
    · simp only [List.length_append, four]
      push_cast
      simp

end ChannelSdk.Ice
