import ChannelSdk.ConfigText
import ChannelSdk.RapidJsonSoundness

/-!
# Which configurations are documents

`ChannelConfig::load` takes its text from a file or from its argument, drops
the newlines of a file and hands the rest to the reader as a C string.  A text
in UTF-8 becomes a document if and only if what is left of it is a text of the
grammar, with a document for its tree; a file must also come to its end.

Dropping newlines and cutting at a NUL take whole characters away, so a text in
UTF-8 stays one.
-/

namespace ChannelSdk

open CheckedMemory JsonGrammar

/-! ## Bytes of characters -/

namespace RapidJson

section Kept

variable {kept : UInt8 → Bool}
variable (keeps : ∀ byte, 128 ≤ byte.toNat → kept byte = true)

include keeps

/-- A choice of ASCII bytes keeps a character as a whole or not at all. -/
theorem utf8EncodeChar_kept (character : Char) :
    (∀ byte ∈ String.utf8EncodeChar character, kept byte = true) ∨
      ∃ byte,
        String.utf8EncodeChar character = [byte] ∧ kept byte = false := by
  by_cases small : character.toNat < 128
  · have spelling := utf8EncodeChar_ascii small
    cases decided : kept (ascii character) with
    | true =>
        left
        rw [spelling]
        exact List.forall_mem_singleton.mpr decided
    | false => exact .inr ⟨_, spelling, decided⟩
  · left
    intro byte member
    obtain same | large := utf8EncodeChar_byte member
    · exact keeps byte (by omega)
    · exact keeps byte large

theorem Encoded.filter {text : Bytes} (encoded : Encoded text) :
    Encoded (text.filter kept) := by
  obtain ⟨characters, rfl⟩ := encoded
  induction characters with
  | nil => exact ⟨[], rfl⟩
  | cons character others inductionHypothesis =>
      obtain ⟨chosen, spelled⟩ := inductionHypothesis
      rw [List.flatMap_cons, List.filter_append, spelled]
      obtain all | ⟨byte, spelling, dropped⟩ :=
        utf8EncodeChar_kept keeps character
      · rw [List.filter_eq_self.mpr all]
        exact ⟨character :: chosen, rfl⟩
      · rw [spelling, List.filter_singleton, dropped]
        exact ⟨chosen, rfl⟩

theorem Encoded.takeWhile {text : Bytes} (encoded : Encoded text) :
    Encoded (text.takeWhile kept) := by
  obtain ⟨characters, rfl⟩ := encoded
  induction characters with
  | nil => exact ⟨[], rfl⟩
  | cons character others inductionHypothesis =>
      obtain ⟨chosen, spelled⟩ := inductionHypothesis
      rw [List.flatMap_cons]
      obtain all | ⟨byte, spelling, dropped⟩ :=
        utf8EncodeChar_kept keeps character
      · rw [List.takeWhile_append_of_pos all, spelled]
        exact ⟨character :: chosen, rfl⟩
      · rw [spelling, List.singleton_append,
          List.takeWhile_cons_of_neg (by simp [dropped])]
        exact ⟨[], rfl⟩

end Kept

theorem Encoded.withoutNewlines {text : Bytes} (encoded : Encoded text) :
    Encoded (Reading.withoutNewlines text) := by
  refine Encoded.filter ?_ encoded
  intro byte large
  have different : byte ≠ Ifstream.newline := by
    rintro rfl
    exact absurd large (by decide)
  simpa using different

theorem Encoded.cText {text : Bytes} (encoded : Encoded text) :
    Encoded (cText text) := by
  refine Encoded.takeWhile ?_ encoded
  intro byte large
  have different : byte ≠ 0 := by
    rintro rfl
    exact absurd large (by decide)
  simpa using different

end RapidJson

namespace ChannelConfig

open RapidJson

/-! ## Files and texts -/

/-- The bytes behind the argument of `load`. -/
def rawText (files : Files) (configFile : Bytes) : Bytes :=
  match files (cText configFile) with
  | none => configFile
  | some contents => contents.bytes

/-- What the reader is to see of them. -/
def plainText (files : Files) (configFile : Bytes) : Bytes :=
  match files (cText configFile) with
  | none => cText configFile
  | some contents => cText (Reading.withoutNewlines contents.bytes)

theorem encoded_plainText
    {files : Files} {configFile : Bytes}
    (encoded : Encoded (rawText files configFile)) :
    Encoded (plainText files configFile) := by
  unfold rawText at encoded
  unfold plainText
  split at encoded
  · exact encoded.cText
  · exact encoded.withoutNewlines.cText

section Accepts

variable {files : Files} {configFile : Bytes}

/-- The passes over a file that ends make the text without its newlines. -/
theorem sourceText_eq
    {passes : Nat} {text : Bytes}
    (found : sourceText files passes configFile = some text) :
    cText text = plainText files configFile := by
  unfold plainText
  split
  · next notFile =>
      rw [sourceText, notFile] at found
      rw [Option.some.inj found]
  · next contents isFile =>
      have ends :=
        (sourceText_ends_iff configFile).mp ⟨passes, text, found⟩ contents
          isFile
      obtain ⟨result, ran, rebuilt⟩ :=
        Reading.run_start contents.bytes (Nat.lt_succ_self _)
      have again :
          sourceText files (contents.bytes.count Ifstream.newline + 1)
              configFile =
            some result.sjson := by
        have same :
            contents = { bytes := contents.bytes, ending := .endOfFile } := by
          rw [← ends]
        rw [sourceText, isFile]
        simp only
        rw [same, ran]
        rfl
      rw [sourceText_unique found again, rebuilt]

/-- `load` has a document for its argument if and only if the file ends, if
there is one, and the plain text is a text of the grammar with this
document. -/
theorem loadDocument_iff
    (convert : Bytes → Option Json)
    (encoded : Encoded (rawText files configFile)) (doc : Json) :
    (∃ passes,
        loadDocument convert files passes configFile = some (some doc)) ↔
      (∀ contents, files (cText configFile) = some contents →
          contents.ending = .endOfFile) ∧
        ∃ tree,
          Document tree (plainText files configFile) ∧
            documentOf convert tree = some doc := by
  rw [← sourceText_ends_iff,
    ← parse_eq_some_iff convert (encoded_plainText encoded)]
  simp only [loadDocument, Option.map_eq_some_iff]
  constructor
  · rintro ⟨passes, text, found, parsed⟩
    rw [sourceText_eq found] at parsed
    exact ⟨⟨passes, text, found⟩, parsed⟩
  · rintro ⟨⟨passes, text, found⟩, parsed⟩
    rw [← sourceText_eq found] at parsed
    exact ⟨passes, text, found, parsed⟩

end Accepts

theorem loadDocument_iff_three_lines :
    ∃ tree,
      Document tree (plainText threeLinesFile [ascii 'c']) ∧
        documentOf decimal tree = some (.array [.integer 1]) :=
  ((loadDocument_iff decimal ⟨"[\n1\n]\n".toList, by decide⟩
    (.array [.integer 1])).mp ⟨4, rfl⟩).2

end ChannelConfig

end ChannelSdk
