import ChannelSdk.Event
import ChannelSdk.Lib.CheckedMemory
import Mathlib.Data.Rat.Defs

/-!
# JSON documents as the configuration parser reads them

The values of `third_party/rapidjson/include/rapidjson/document.h` and the
accessors that `core/src/config.cc` calls on them.  RapidJSON asserts that the
value has the type an accessor is for, that `operator[]` finds its member, and
that `GetInt` meets an integer of 32 bits; a call that violates this is an
error here.  `GetString` gives a C string, so what follows a NUL character is
not seen by the parser.  Numbers are kept exact: their rounding to `float` is
not modelled.
-/

namespace ChannelSdk

open CheckedMemory

/-- A parsed document.  The members of an object stand in document order and
may repeat a name. -/
inductive Json where
  | null
  | bool (value : Bool)
  | integer (value : Int)
  | decimal (value : Rat)
  | string (value : String)
  | array (elements : List Json)
  | object (members : List (String × Json))

/-- The accessors that assert the type of the value they are called on. -/
inductive Accessor where
  | hasMember
  | subscript
  | getString
  | getInt
  | getFloat
  | getBool
  deriving DecidableEq, Repr

/-- How a load ends when it does not complete. -/
inductive LoadError where
  | wrongType (accessor : Accessor)
  | noMember (key : String)
  | keyNotExist (key : String)
  | event (event : Event)
  deriving DecidableEq, Repr

/-- The part of a string that a C string shows. -/
def cString (text : String) : String :=
  String.ofList (text.toList.takeWhile fun character => character ≠ '\x00')

/-- A text that a C string shows whole. -/
def NulFree (text : String) : Prop :=
  '\x00' ∉ text.toList

instance (text : String) : Decidable (NulFree text) :=
  inferInstanceAs (Decidable ('\x00' ∉ text.toList))

namespace Json

def isString : Json → Bool
  | .string _ => true
  | _ => false

def isArray : Json → Bool
  | .array _ => true
  | _ => false

def isObject : Json → Bool
  | .object _ => true
  | _ => false

/-- `FindMember`: the first member of that name. -/
def findMember (members : List (String × Json)) (key : String) :
    Option Json :=
  (members.find? fun entry => entry.1 = key).map Prod.snd

/-- `HasMember`. -/
def hasMember (key : String) : Json → Except LoadError Bool
  | .object members => .ok (findMember members key).isSome
  | _ => .error (.wrongType .hasMember)

/-- `operator[]` with a member name. -/
def subscript (key : String) : Json → Except LoadError Json
  | .object members =>
      match findMember members key with
      | some value => .ok value
      | none => .error (.noMember key)
  | _ => .error (.wrongType .subscript)

/-- `GetString`, converted to a `std::string`. -/
def getString : Json → Except LoadError String
  | .string value => .ok (cString value)
  | _ => .error (.wrongType .getString)

/-- `GetInt`. -/
def getInt : Json → Except LoadError Int
  | .integer value =>
      if FitsInt32 value then .ok value else .error (.wrongType .getInt)
  | _ => .error (.wrongType .getInt)

/-- `GetFloat`. -/
def getFloat : Json → Except LoadError Rat
  | .integer value => .ok value
  | .decimal value => .ok value
  | _ => .error (.wrongType .getFloat)

/-- `GetBool`. -/
def getBool : Json → Except LoadError Bool
  | .bool value => .ok value
  | _ => .error (.wrongType .getBool)

/-- The elements of an array; the parser asks for them after `IsArray`. -/
def elements : Json → List Json
  | .array values => values
  | _ => []

/-- The members of an object; the parser asks for them after `IsObject`. -/
def members : Json → List (String × Json)
  | .object entries => entries
  | _ => []

/-- Read a member that must have a type to be considered, as under
`doc.HasMember(key) && doc[key].IsArray()`; without it the value stays. -/
def readIf {Value : Type} (accepts : Json → Bool) (doc : Json) (key : String)
    (unchanged : Value) (read : Json → Except LoadError Value) :
    Except LoadError Value := do
  if ← doc.hasMember key then
    let value ← doc.subscript key
    if accepts value then read value else return unchanged
  else
    return unchanged

theorem readIf_eq_ok
    {Value : Type} {accepts : Json → Bool} {doc : Json} {key : String}
    {unchanged result : Value} {read : Json → Except LoadError Value}
    (computed : readIf accepts doc key unchanged read = .ok result) :
    result = unchanged ∨ ∃ value, read value = .ok result := by
  rcases bind_eq_ok computed with ⟨present, -, computed⟩
  split at computed
  · rcases bind_eq_ok computed with ⟨value, -, computed⟩
    split at computed
    · exact .inr ⟨value, computed⟩
    · cases computed
      exact .inl rfl
  · cases computed
    exact .inl rfl

end Json

/-- The common body of `GetString`, `GetInt`, `GetFloat` and `GetBool` of
`config.cc`. -/
def getMember {Value : Type} (read : Json → Except LoadError Value)
    (doc : Json) (key : String) (defaultValue : Value) (mustExist : Bool) :
    Except LoadError Value := do
  if ← doc.hasMember key then
    read (← doc.subscript key)
  else if mustExist then
    throw (.keyNotExist key)
  else
    return defaultValue

/-- `GetString` of `config.cc`. -/
def getString (doc : Json) (key : String) (defaultValue : String)
    (mustExist : Bool) : Except LoadError String :=
  getMember Json.getString doc key defaultValue mustExist

/-- `GetInt` of `config.cc`. -/
def getInt (doc : Json) (key : String) (defaultValue : Int)
    (mustExist : Bool) : Except LoadError Int :=
  getMember Json.getInt doc key defaultValue mustExist

/-- `GetFloat` of `config.cc`. -/
def getFloat (doc : Json) (key : String) (defaultValue : Rat)
    (mustExist : Bool) : Except LoadError Rat :=
  getMember Json.getFloat doc key defaultValue mustExist

/-- `GetBool` of `config.cc`. -/
def getBool (doc : Json) (key : String) (defaultValue mustExist : Bool) :
    Except LoadError Bool :=
  getMember Json.getBool doc key defaultValue mustExist

end ChannelSdk
