import ChannelSdk.Lib.CheckedMemory
import ChannelSdk.Lib.WhileLoop
import Mathlib.Data.List.TakeWhile

/-!
# Reading a configuration file

The loop of `ChannelConfig::load` that reads a file line by line, and
`get_file_contents` of `core/include/config.h`, which reads one byte by byte.
A file that opens delivers finitely many bytes and then either ends or fails
with a read error, at once in the case of a directory.  A stream keeps the
three state bits of `std::ifstream`; a failed read sets `badbit` and leaves
`eofbit` alone, and nothing is extracted from a stream that is not good.
Strings have no maximal size.
-/

namespace ChannelSdk

open CheckedMemory

/-- What a stream meets behind its last byte. -/
inductive Ending where
  | endOfFile
  | readError
  deriving DecidableEq, Repr

/-- What an opened file delivers. -/
structure FileContents where
  bytes : Bytes
  ending : Ending

/-- `std::ifstream`. -/
structure Ifstream where
  pending : Bytes
  ending : Ending
  eofbit : Bool
  failbit : Bool
  badbit : Bool
  deriving DecidableEq, Repr

namespace Ifstream

/-- A stream whose file has been opened. -/
def opened (contents : FileContents) : Ifstream where
  pending := contents.bytes
  ending := contents.ending
  eofbit := false
  failbit := false
  badbit := false

def good (ifile : Ifstream) : Bool :=
  !ifile.eofbit && !ifile.failbit && !ifile.badbit

/-- The stream behind a read that ran into the ending, with or without having
extracted something. -/
def ended (ifile : Ifstream) (extractedNothing : Bool) : Ifstream :=
  { ifile with
    pending := []
    eofbit := ifile.ending = .endOfFile
    badbit := ifile.ending = .readError
    failbit := extractedNothing }

/-- The byte at which `getline` stops. -/
def newline : UInt8 := 10

/-- `std::getline` into the string `s`.  It takes the bytes up to a newline,
which is extracted too and dropped. -/
def getline (ifile : Ifstream) (s : Bytes) : Bytes × Ifstream :=
  if ifile.good then
    let line := ifile.pending.takeWhile (· ≠ newline)
    match ifile.pending.dropWhile (· ≠ newline) with
    | _ :: rest => (line, { ifile with pending := rest })
    | [] => (line, ifile.ended line.isEmpty)
  else
    (s, { ifile with failbit := true })

/-- `get` of one byte. -/
def get (ifile : Ifstream) : Option UInt8 × Ifstream :=
  if ifile.good then
    match ifile.pending with
    | ch :: rest => (some ch, { ifile with pending := rest })
    | [] => (none, ifile.ended true)
  else
    (none, { ifile with failbit := true })

/-- What `getline` does to a good stream: it takes a line with its newline, or
it takes all that is left and runs into the ending. -/
theorem getline_cases {ifile : Ifstream} (good : ifile.good = true)
    (s : Bytes) :
    (∃ line rest,
      newline ∉ line ∧ ifile.pending = line ++ newline :: rest ∧
        ifile.getline s = (line, { ifile with pending := rest })) ∨
      newline ∉ ifile.pending ∧
        ifile.getline s =
          (ifile.pending, ifile.ended ifile.pending.isEmpty) := by
  have split :=
    List.takeWhile_append_dropWhile
      (p := (· ≠ newline)) (l := ifile.pending)
  have noNewline : newline ∉ ifile.pending.takeWhile (· ≠ newline) := by
    intro member
    have different := List.mem_takeWhile_imp member
    simp at different
  cases behind : ifile.pending.dropWhile (· ≠ newline) with
  | nil =>
      right
      rw [behind, List.append_nil] at split
      rw [split] at noNewline
      refine ⟨noNewline, ?_⟩
      rw [getline, if_pos good, behind, split]
  | cons first rest =>
      left
      have stops : first = newline := by
        have failed :=
          List.head?_dropWhile_not (· ≠ newline) ifile.pending
        rw [behind] at failed
        simpa using failed
      rw [behind, stops] at split
      refine
        ⟨ifile.pending.takeWhile (· ≠ newline), rest, noNewline,
          split.symm, ?_⟩
      rw [getline, if_pos good, behind]

end Ifstream

/-! ## The loop of `load` -/

/-- The variables of the loop. -/
structure Reading where
  ifile : Ifstream
  sjson : Bytes
  deriving DecidableEq, Repr

namespace Reading

open Ifstream

/-- The state in which the loop starts. -/
def start (contents : FileContents) : Reading where
  ifile := .opened contents
  sjson := []

/-- `while (!ifile.eof()) { string s; getline(ifile, s); sjson += s; }` -/
def readLoop : WhileLoop Reading where
  guard := fun reading => !reading.ifile.eofbit
  body := fun reading =>
    let (s, ifile) := reading.ifile.getline []
    { ifile, sjson := reading.sjson ++ s }

/-- The bytes of a text that the loop keeps. -/
def withoutNewlines (text : Bytes) : Bytes :=
  text.filter (· ≠ newline)

/-- The stream can still reach the end of its file, or has reached it. -/
structure Readable (reading : Reading) : Prop where
  ending : reading.ifile.ending = .endOfFile
  good : reading.ifile.eofbit = false → reading.ifile.good = true
  drained : reading.ifile.eofbit = true → reading.ifile.pending = []

/-- The stream can no longer reach the end of its file. -/
structure Stuck (reading : Reading) : Prop where
  notEof : reading.ifile.eofbit = false
  broken :
    reading.ifile.failbit = true ∨ reading.ifile.badbit = true ∨
      reading.ifile.ending = .readError

/-- The text that the loop has rebuilt, with what it will still append. -/
def text (reading : Reading) : Bytes :=
  reading.sjson ++ withoutNewlines reading.ifile.pending

/-- The number of passes that a readable stream is from its end: one for each
newline and one that meets the end. -/
def passesLeft (reading : Reading) : Nat :=
  if reading.ifile.eofbit then 0
  else reading.ifile.pending.count newline + 1

theorem withoutNewlines_eq_self
    {line : Bytes} (noNewline : newline ∉ line) :
    withoutNewlines line = line := by
  apply List.filter_eq_self.mpr
  intro byte member
  have different : byte ≠ newline := fun same => noNewline (same ▸ member)
  simpa using different

theorem withoutNewlines_line
    {line : Bytes} (noNewline : newline ∉ line) (rest : Bytes) :
    withoutNewlines (line ++ newline :: rest) =
      line ++ withoutNewlines rest := by
  have kept := withoutNewlines_eq_self noNewline
  unfold withoutNewlines at kept ⊢
  rw [List.filter_append, kept, List.filter_cons_of_neg (by simp)]

/-- A pass on a readable stream keeps the text and comes closer to the end. -/
theorem Readable.pass
    {reading : Reading} (readable : reading.Readable)
    (more : readLoop.guard reading = true) :
    (readLoop.body reading).Readable ∧
      (readLoop.body reading).text = reading.text ∧
      (readLoop.body reading).passesLeft < reading.passesLeft := by
  have notEof : reading.ifile.eofbit = false := by
    simpa [readLoop] using more
  have good := readable.good notEof
  rcases getline_cases good [] with
    ⟨line, rest, noNewline, pending, got⟩ | ⟨noNewline, got⟩
  · have next :
        readLoop.body reading =
          { ifile := { reading.ifile with pending := rest }
            sjson := reading.sjson ++ line } := by
      simp only [readLoop, got]
    rw [next]
    refine ⟨⟨readable.ending, fun _ => good, ?_⟩, ?_, ?_⟩
    · intro eof
      rw [notEof] at eof
      cases eof
    · have kept := withoutNewlines_line noNewline rest
      simp only [text, pending, kept, List.append_assoc]
    · have counted :
          reading.ifile.pending.count newline = rest.count newline + 1 := by
        rw [pending, List.count_append,
          List.count_eq_zero_of_not_mem noNewline, List.count_cons_self,
          Nat.zero_add]
      simp only [passesLeft, notEof, counted, Bool.false_eq_true, if_false]
      exact Nat.lt_succ_self _
  · have next :
        readLoop.body reading =
          { ifile := reading.ifile.ended reading.ifile.pending.isEmpty
            sjson := reading.sjson ++ reading.ifile.pending } := by
      simp only [readLoop, got]
    have eof :
        (reading.ifile.ended reading.ifile.pending.isEmpty).eofbit = true := by
      simp [ended, readable.ending]
    rw [next]
    refine ⟨⟨readable.ending, ?_, fun _ => rfl⟩, ?_, ?_⟩
    · intro notYet
      rw [eof] at notYet
      cases notYet
    · simp only [text, withoutNewlines_eq_self noNewline]
      simp [ended, withoutNewlines]
    · simp only [passesLeft, notEof, eof, Bool.false_eq_true, if_true,
        if_false]
      exact Nat.zero_lt_succ _

/-- A pass on a stuck stream leaves it stuck. -/
theorem Stuck.pass
    {reading : Reading} (stuck : reading.Stuck) :
    readLoop.guard reading = true ∧ (readLoop.body reading).Stuck := by
  have more : readLoop.guard reading = true := by
    simp [readLoop, stuck.notEof]
  refine ⟨more, ?_⟩
  cases good : reading.ifile.good with
  | false =>
      have refused :
          reading.ifile.getline [] =
            ([], { reading.ifile with failbit := true }) := by
        rw [getline, if_neg (by simp [good])]
      have next :
          readLoop.body reading =
            { reading with
              ifile := { reading.ifile with failbit := true } } := by
        simp only [readLoop, refused, List.append_nil]
      rw [next]
      exact ⟨stuck.notEof, .inl rfl⟩
  | true =>
      have unbroken := good
      simp only [Ifstream.good, Bool.and_eq_true, Bool.not_eq_true']
        at unbroken
      have failing : reading.ifile.ending = .readError := by
        rcases stuck.broken with failed | bad | failing
        · rw [unbroken.1.2] at failed
          cases failed
        · rw [unbroken.2] at bad
          cases bad
        · exact failing
      rcases getline_cases good [] with
        ⟨line, rest, -, -, got⟩ | ⟨-, got⟩
      · simp only [readLoop, got]
        exact ⟨stuck.notEof, .inr (.inr failing)⟩
      · simp only [readLoop, got]
        exact ⟨by simp [ended, failing], .inr (.inr failing)⟩

/-- Every readable stream is read to its end, and the loop has then dropped
the newlines and nothing else. -/
theorem Readable.run
    {reading : Reading} (readable : reading.Readable)
    {passes : Nat} (enough : reading.passesLeft ≤ passes) :
    ∃ result, readLoop.run passes reading = some result ∧
      result.sjson = reading.text := by
  let law := fun state : Reading =>
    state.Readable ∧ state.text = reading.text
  have keeps :
      ∀ state, law state → readLoop.guard state = true →
        law (readLoop.body state) := by
    intro state holds more
    have passed := holds.1.pass more
    exact ⟨passed.1, passed.2.1.trans holds.2⟩
  have lowers :
      ∀ state, law state → readLoop.guard state = true →
        (readLoop.body state).passesLeft < state.passesLeft := by
    intro state holds more
    exact (holds.1.pass more).2.2
  obtain ⟨result, ran⟩ :=
    WhileLoop.run_isSome_of_variant passesLeft keeps lowers
      ⟨readable, rfl⟩ enough
  obtain ⟨⟨atEnd, sameText⟩, finished⟩ :=
    WhileLoop.invariant_of_run keeps ⟨readable, rfl⟩ ran
  have eof : result.ifile.eofbit = true := by simpa [readLoop] using finished
  refine ⟨result, ran, ?_⟩
  rw [← sameText, text, atEnd.drained eof]
  exact (List.append_nil _).symm

/-- The loop ends from exactly the states that have met the end of the file or
are good and will meet it. -/
theorem readLoop_terminates_iff (reading : Reading) :
    readLoop.Terminates reading ↔
      reading.ifile.eofbit = true ∨
        reading.ifile.good = true ∧ reading.ifile.ending = .endOfFile := by
  cases eof : reading.ifile.eofbit with
  | true =>
      have finished : readLoop.guard reading = false := by simp [readLoop, eof]
      exact
        ⟨fun _ => .inl rfl,
          fun _ => ⟨reading, 0, WhileLoop.run_of_guard_false finished 0⟩⟩
  | false =>
      constructor
      · intro terminates
        by_contra none
        have stuck : reading.Stuck := by
          refine ⟨eof, ?_⟩
          by_contra unbroken
          simp only [not_or, Bool.not_eq_true] at unbroken
          apply none
          right
          refine
            ⟨by simp [Ifstream.good, eof, unbroken.1, unbroken.2.1], ?_⟩
          cases ending : reading.ifile.ending with
          | endOfFile => rfl
          | readError => exact absurd ending unbroken.2.2
        exact
          WhileLoop.not_terminates_of_recurrent
            (fun _ => Stuck.pass) stuck terminates
      · intro condition
        rcases condition with impossible | ⟨good, ending⟩
        · cases impossible
        · have readable : reading.Readable :=
            ⟨ending, fun _ => good, fun reached => by
              rw [eof] at reached
              cases reached⟩
          obtain ⟨result, ran, -⟩ := readable.run (Nat.le_refl _)
          exact ⟨result, _, ran⟩

/-- A stream that has just been opened is good. -/
theorem start_condition_iff (contents : FileContents) :
    ((start contents).ifile.eofbit = true ∨
        (start contents).ifile.good = true ∧
          (start contents).ifile.ending = .endOfFile) ↔
      contents.ending = .endOfFile := by
  simp [start, opened, Ifstream.good]

/-- Reading an opened file ends exactly when the file ends without a read
error. -/
theorem reading_terminates_iff (contents : FileContents) :
    readLoop.Terminates (start contents) ↔ contents.ending = .endOfFile := by
  rw [readLoop_terminates_iff]
  exact start_condition_iff contents

/-- A directory opens, and its first read fails. -/
def directory : FileContents where
  bytes := []
  ending := .readError

/-- The loop never ends on a directory. -/
theorem directory_is_read_forever :
    ¬ readLoop.Terminates (start directory) := by
  rw [readLoop_terminates_iff]
  decide

/-- What the loop makes of a file that ends. -/
theorem run_start
    (bytes : Bytes) {passes : Nat} (enough : bytes.count newline < passes) :
    ∃ result,
      readLoop.run passes (start { bytes, ending := .endOfFile }) =
          some result ∧
        result.sjson = withoutNewlines bytes := by
  have readable :
      (start { bytes, ending := .endOfFile }).Readable :=
    ⟨rfl, fun _ => rfl, fun reached => nomatch reached⟩
  exact readable.run enough

end Reading

/-! ## The loop of `get_file_contents` -/

/-- The variables of the loop when its guard has been evaluated: the byte that
`get` has read, unless it failed. -/
structure Copying where
  ifile : Ifstream
  ch : Option UInt8
  buf : Bytes
  deriving DecidableEq, Repr

namespace Copying

open Ifstream

/-- The next evaluation of the guard. -/
def advance (ifile : Ifstream) (buf : Bytes) : Copying where
  ifile := ifile.get.2
  ch := ifile.get.1
  buf := buf

def start (contents : FileContents) : Copying :=
  advance (.opened contents) []

/-- `while (buf && ifile.get(ch)) buf.put(ch);` -/
def copyLoop : WhileLoop Copying where
  guard := fun copying => copying.ch.isSome
  body := fun copying =>
    advance copying.ifile (copying.buf ++ copying.ch.toList)

/-- What has been copied and what has not make up the bytes of the file. -/
structure Copies (bytes : Bytes) (copying : Copying) : Prop where
  content :
    copying.buf ++ copying.ch.toList ++ copying.ifile.pending = bytes
  good : copying.ch.isSome = true → copying.ifile.good = true
  drained : copying.ch = none → copying.ifile.pending = []

theorem copies_advance
    {ifile : Ifstream} (good : ifile.good = true) (buf : Bytes) :
    Copies (buf ++ ifile.pending) (advance ifile buf) := by
  cases pending : ifile.pending with
  | nil =>
      have got : ifile.get = (none, ifile.ended true) := by
        rw [Ifstream.get, if_pos good, pending]
      rw [advance, got]
      exact
        ⟨List.append_nil _, fun present => (nomatch present), fun _ => rfl⟩
  | cons ch rest =>
      have got : ifile.get = (some ch, { ifile with pending := rest }) := by
        rw [Ifstream.get, if_pos good, pending]
      rw [advance, got]
      exact
        ⟨List.append_assoc buf [ch] rest, fun _ => good,
          fun absent => nomatch absent⟩

theorem Copies.pass
    {bytes : Bytes} {copying : Copying} (copies : Copies bytes copying)
    (more : copyLoop.guard copying = true) :
    Copies bytes (copyLoop.body copying) := by
  have advanced :=
    copies_advance (copies.good more) (copying.buf ++ copying.ch.toList)
  rw [copies.content] at advanced
  exact advanced

/-- The number of bytes that have not been put yet. -/
def bytesLeft (copying : Copying) : Nat :=
  copying.ch.toList.length + copying.ifile.pending.length

theorem Copies.bytesLeft_body_lt
    {bytes : Bytes} {copying : Copying} (copies : Copies bytes copying)
    (more : copyLoop.guard copying = true) :
    (copyLoop.body copying).bytesLeft < copying.bytesLeft := by
  have before := congrArg List.length copies.content
  have after := congrArg List.length (copies.pass more).content
  have put :
      (copyLoop.body copying).buf = copying.buf ++ copying.ch.toList := rfl
  obtain ⟨ch, present⟩ := Option.isSome_iff_exists.mp more
  simp only [List.length_append, put, present, Option.toList_some,
    List.length_singleton] at before after
  simp only [bytesLeft, present, Option.toList_some, List.length_singleton]
  omega

/-- The sibling of the loop of `load` ends on every file that opens, also
behind a read error, and has then copied all that could be read. -/
theorem copying_ends (contents : FileContents) :
    ∃ result, copyLoop.EndsIn (start contents) result ∧
      result.buf = contents.bytes := by
  have starts : Copies contents.bytes (start contents) :=
    @copies_advance (.opened contents) rfl []
  have keeps :
      ∀ copying, Copies contents.bytes copying →
        copyLoop.guard copying = true →
          Copies contents.bytes (copyLoop.body copying) :=
    fun _ copies more => copies.pass more
  obtain ⟨result, ran⟩ :=
    WhileLoop.run_isSome_of_variant bytesLeft keeps
      (fun _ copies more => copies.bytesLeft_body_lt more) starts
      (Nat.le_refl _)
  obtain ⟨copies, finished⟩ := WhileLoop.invariant_of_run keeps starts ran
  have failed : result.ch = none := by simpa [copyLoop] using finished
  refine ⟨result, ⟨_, ran⟩, ?_⟩
  have content := copies.content
  rw [copies.drained failed, failed, List.append_nil] at content
  exact (List.append_nil _).symm.trans content

end Copying

end ChannelSdk
