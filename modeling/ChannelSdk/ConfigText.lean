import ChannelSdk.ChannelConfig
import ChannelSdk.ConfigFile
import ChannelSdk.RapidJsonGrammar

/-!
# Loading from a file and from a text

`ChannelConfig::load` of `core/src/config.cc`.  Its argument is the name of a
file if a file of that name can be opened, and the JSON text itself otherwise.
Either way the text is parsed as a C string and the document is handed to the
parser of the configuration.

The text of a file arrives without its newlines.  In the grammar of JSON they
stand between tokens only, so the document is the same.
-/

namespace ChannelSdk

open CheckedMemory JsonGrammar

/-- The files that can be opened, by the C strings of their names. -/
abbrev Files := Bytes → Option FileContents

namespace ChannelConfig

section Load

variable (convert : Bytes → Option Json) (files : Files) (passes : Nat)

/-- The text that `load` parses, once the loop over a file has ended within
the passes. -/
def sourceText (configFile : Bytes) : Option Bytes :=
  match files (cText configFile) with
  | none => some configFile
  | some contents =>
      (Reading.readLoop.run passes (.start contents)).map Reading.sjson

/-- What `doc.Parse` makes of the text; a parse error leaves no document. -/
def loadDocument (configFile : Bytes) : Option (Option Json) :=
  (sourceText files passes configFile).map fun sjson =>
    RapidJson.parse convert (cText sjson)

/-- The constructor `ChannelConfig(node_id, config_json)`, which reports a
`load` that returns false. -/
def load (nodeId : String) (configFile : Bytes) :
    Option (Except LoadError ChannelConfig) :=
  (loadDocument convert files passes configFile).map fun
    | none => .error (.event .parseFile)
    | some doc => create nodeId doc

end Load

/-- A text of the grammar contains no NUL. -/
theorem cText_eq_self {tree : Tree} {text : Bytes}
    (document : Document tree text) : cText text = text := by
  apply List.takeWhile_eq_self_iff.mpr
  intro byte member
  have notNul : byte ≠ 0 := by
    rintro rfl
    rcases document.printed 0 member with space | visible
    · cases space
    · cases visible
  simpa using notNul

/-- Dropping the newlines leaves a text that spells the same. -/
theorem document_withoutNewlines {tree : Tree} {text : Bytes}
    (document : Document tree text) :
    Document tree (Reading.withoutNewlines text) := by
  apply Spells.filter _ document
  intro byte large
  have notNewline : byte ≠ Ifstream.newline := by
    rintro rfl
    exact absurd large (by decide)
  simpa using notNewline

section Texts

variable {files : Files} {text : Bytes}

theorem loadDocument_text
    (convert : Bytes → Option Json) {tree : Tree}
    (accepted : Document tree text) (notFile : files (cText text) = none)
    (passes : Nat) :
    loadDocument convert files passes text =
      some (RapidJson.documentOf convert tree) := by
  rw [loadDocument, sourceText, notFile]
  simp only [Option.map_some, cText_eq_self accepted,
    RapidJson.parse_eq_documentOf accepted]

theorem loadDocument_file
    (convert : Bytes → Option Json) {tree : Tree}
    (accepted : Document tree text) {name : Bytes}
    (isFile :
      files (cText name) = some { bytes := text, ending := .endOfFile })
    {passes : Nat} (enough : text.count Ifstream.newline < passes) :
    loadDocument convert files passes name =
      some (RapidJson.documentOf convert tree) := by
  obtain ⟨result, ran, rebuilt⟩ := Reading.run_start text enough
  have stripped := document_withoutNewlines accepted
  rw [loadDocument, sourceText, isFile]
  simp only [ran, Option.map_some, rebuilt, cText_eq_self stripped,
    RapidJson.parse_eq_documentOf stripped]

/-- The configuration is the same as well. -/
theorem load_file_eq_load_text
    (convert : Bytes → Option Json) {tree : Tree}
    (accepted : Document tree text) (notFile : files (cText text) = none)
    {name : Bytes}
    (isFile :
      files (cText name) = some { bytes := text, ending := .endOfFile })
    {passes : Nat} (enough : text.count Ifstream.newline < passes)
    (nodeId : String) :
    load convert files passes nodeId name =
      load convert files passes nodeId text := by
  rw [load, load, loadDocument_file convert accepted isFile enough,
    loadDocument_text convert accepted notFile]

/-- A file loads as the document of its contents, which is what the contents
load as when they are the argument. -/
theorem file_loads_like_text
    (convert : Bytes → Option Json) {tree : Tree}
    (accepted : Document tree text) (notFile : files (cText text) = none)
    {name : Bytes}
    (isFile :
      files (cText name) = some { bytes := text, ending := .endOfFile })
    {passes : Nat} (enough : text.count Ifstream.newline < passes) :
    loadDocument convert files passes name =
        some (RapidJson.documentOf convert tree) ∧
      loadDocument convert files passes text =
        some (RapidJson.documentOf convert tree) :=
  ⟨loadDocument_file convert accepted isFile enough,
    loadDocument_text convert accepted notFile passes⟩

end Texts

/-- A list of one number, over three lines. -/
def threeLines : Bytes :=
  [ascii '[', ascii '\n', ascii '1', ascii '\n', ascii ']', ascii '\n']

theorem threeLines_accepted :
    Document (.array [.number [ascii '1']]) threeLines := by
  have whole : Whole [ascii '1'] :=
    .inr
      ⟨ascii '1', [], rfl, by decide, by decide,
        fun _ member => nomatch member⟩
  have one : Number [] [ascii '1'] [] [] :=
    ⟨.inl rfl, whole, .inl rfl, .inl rfl⟩
  have lineEnd : Space [ascii '\n'] := space_nil.cons rfl
  have number := Spells.element lineEnd (.number one) lineEnd
  exact Spells.element space_nil (.array (.lastElement number)) lineEnd

/-- The value of a number that consists of digits. -/
def decimal (digits : Bytes) : Option Json :=
  some (.integer
    (digits.foldl (fun value digit => value * 10 + (digit.toNat - 48)) 0))

/-- A file system with one file. -/
def threeLinesFile : Files :=
  fun name =>
    if name = [ascii 'c'] then
      some { bytes := threeLines, ending := .endOfFile }
    else none

theorem file_loads_like_text_three_lines :
    loadDocument decimal threeLinesFile 4 [ascii 'c'] =
        some (some (.array [.integer 1])) ∧
      loadDocument decimal threeLinesFile 4 threeLines =
        some (some (.array [.integer 1])) :=
  file_loads_like_text decimal threeLines_accepted rfl rfl (by decide)

/-- A text that is no JSON can be a document when it comes from a file: two
numbers on two lines are one number. -/
example :
    let text := [ascii '1', ascii '\n', ascii '2']
    let files : Files := fun name =>
      if name = text then none
      else some { bytes := text, ending := .endOfFile }
    let convert : Bytes → Option Json := fun digits =>
      some (.integer digits.length)
    loadDocument convert files 2 [] = some (some (.integer 2)) ∧
      loadDocument convert files 2 text = some none :=
  ⟨rfl, rfl⟩

section Returns

variable {convert : Bytes → Option Json} {files : Files}

/-- The text is there within some number of passes unless the argument names a
file that fails with a read error. -/
theorem sourceText_ends_iff (configFile : Bytes) :
    (∃ passes text, sourceText files passes configFile = some text) ↔
      ∀ contents, files (cText configFile) = some contents →
        contents.ending = .endOfFile := by
  cases opened : files (cText configFile) with
  | none =>
      constructor
      · intro _ contents impossible
        cases impossible
      · intro _
        exact ⟨0, configFile, by rw [sourceText, opened]⟩
  | some contents =>
      have every :
          (∀ other, some contents = some other →
              other.ending = .endOfFile) ↔ contents.ending = .endOfFile := by
        constructor
        · intro holds
          exact holds contents rfl
        · rintro holds other same
          cases same
          exact holds
      rw [every, ← Reading.start_condition_iff,
        ← Reading.readLoop_terminates_iff]
      simp only [sourceText, opened, Option.map_eq_some_iff,
        WhileLoop.Terminates, WhileLoop.EndsIn]
      constructor
      · rintro ⟨passes, text, result, ran, -⟩
        exact ⟨result, passes, ran⟩
      · rintro ⟨result, passes, ran⟩
        exact ⟨passes, _, result, ran, rfl⟩

/-- The text does not depend on the number of passes. -/
theorem sourceText_unique
    {configFile first second : Bytes} {passes others : Nat}
    (foundFirst : sourceText files passes configFile = some first)
    (foundSecond : sourceText files others configFile = some second) :
    first = second := by
  unfold sourceText at foundFirst foundSecond
  split at foundFirst
  next notFile =>
    rw [notFile] at foundSecond
    exact Option.some.inj (foundFirst.symm.trans foundSecond)
  next contents isFile =>
    rw [isFile] at foundSecond
    rcases Option.map_eq_some_iff.mp foundFirst with ⟨reached, ran, rfl⟩
    rcases Option.map_eq_some_iff.mp foundSecond with ⟨reachedAgain, ranAgain, rfl⟩
    rw [WhileLoop.EndsIn.unique ⟨passes, ran⟩ ⟨others, ranAgain⟩]

/-- `load` ends within some number of passes unless its argument names a file
that fails with a read error. -/
theorem load_ends_iff (nodeId : String) (configFile : Bytes) :
    (∃ passes result,
        load convert files passes nodeId configFile = some result) ↔
      ∀ contents, files (cText configFile) = some contents →
        contents.ending = .endOfFile := by
  rw [← sourceText_ends_iff]
  simp only [load, loadDocument, Option.map_map, Option.map_eq_some_iff]
  constructor
  · rintro ⟨passes, -, text, found, -⟩
    exact ⟨passes, text, found⟩
  · rintro ⟨passes, text, found⟩
    exact ⟨passes, _, text, found, rfl⟩

/-- What `load` ends with does not depend on the number of passes. -/
theorem load_unique
    {nodeId : String} {configFile : Bytes} {passes others : Nat}
    {first second : Except LoadError ChannelConfig}
    (loadedFirst :
      load convert files passes nodeId configFile = some first)
    (loadedSecond :
      load convert files others nodeId configFile = some second) :
    first = second := by
  simp only [load, loadDocument, Option.map_map, Option.map_eq_some_iff]
    at loadedFirst loadedSecond
  rcases loadedFirst with ⟨text, found, rfl⟩
  rcases loadedSecond with ⟨other, foundOther, rfl⟩
  rw [sourceText_unique found foundOther]

end Returns

end ChannelConfig

end ChannelSdk
