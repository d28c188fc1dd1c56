import ChannelSdk.AsyncServant
import ChannelSdk.IceStreams
import ChannelSdk.RapidJsonReader

/-!
# The bytes of a call

The parameters of `send` as bytes: `SyncClient::send` of
`core/src/sync_client.cc` marshals them, `IoChannelI::ice_invoke` of
`core/src/IoChannelI.cc` unmarshals them by hand, and in the build with static
calls the generated code of `core/src/io_channel_ice.cpp` does both.

The dynamic call marshals the `DataStruct`, whose message id comes first; the
static call marshals the parameters of the operation, whose node id comes
first.  The dynamic servant writes to the connection before it looks for the
end of the encapsulation.
-/

namespace ChannelSdk.Ice

open CheckedMemory

/-- `DataStruct` with the bytes of its strings. -/
structure SendData where
  msgid : Bytes
  nodeid : Bytes
  data : Bytes
  deriving DecidableEq, Repr

namespace SendData

def dataStruct (v : SendData) : DataStruct :=
  ⟨ofBytes v.msgid, ofBytes v.nodeid, v.data⟩

/-- The two names exchanged. -/
def swapped (v : SendData) : SendData :=
  ⟨v.nodeid, v.msgid, v.data⟩

def size (v : SendData) : Nat :=
  v.msgid.length + v.nodeid.length + v.data.length

end SendData

/-! ## Marshalling -/

section Marshalling

variable (library : Library)

/-- `StreamWriter<DataStruct>::write`. -/
def writeDataStruct (v : SendData) : Except StreamError Bytes := do
  let msgid ← library.writeString v.msgid
  let nodeid ← library.writeString v.nodeid
  let data ← library.writeVector v.data
  .ok (msgid ++ (nodeid ++ data))

/-- `StreamReader<DataStruct>::read`. -/
def readDataStruct (i : Bytes) : Except StreamError (SendData × Bytes) := do
  let (msgid, i) ← library.readString i
  let (nodeid, i) ← library.readString i
  let (data, i) ← library.readBytes i
  .ok (⟨msgid, nodeid, data⟩, i)

/-- The parameters as the generated proxy writes them. -/
def writeParams (v : SendData) : Except StreamError Bytes := do
  let nodeid ← library.writeString v.nodeid
  let msgid ← library.writeString v.msgid
  let data ← library.writeVector v.data
  .ok (nodeid ++ (msgid ++ data))

/-- The parameters as `_iceD_send` reads them. -/
def readParams (i : Bytes) : Except StreamError (SendData × Bytes) := do
  let (nodeid, i) ← library.readString i
  let (msgid, i) ← library.readString i
  let (data, i) ← library.readBytes i
  .ok (⟨msgid, nodeid, data⟩, i)

/-- What is written between the start and the end of an encapsulation. -/
def encapsulated (encoding : EncodingVersion)
    (written : Except StreamError Bytes) : Except StreamError Bytes := do
  let b ← startWriting encoding
  let fields ← written
  .ok (endWriting (b ++ fields))

/-- `inParams` of the dynamic call in `SyncClient::send`. -/
def dynamicInParams (encoding : EncodingVersion) (v : SendData) :
    Except StreamError Bytes :=
  encapsulated encoding (writeDataStruct library v)

/-- The parameters of the static call. -/
def staticInParams (encoding : EncodingVersion) (v : SendData) :
    Except StreamError Bytes :=
  encapsulated encoding (writeParams library v)

/-! ## Servants -/

/-- `IoChannelI::ice_invoke` on the bytes of a call, with the connections it
leaves behind whether or not it throws. -/
def iceInvokeBytes (clientConnMap : MapClientConn) (operation : String)
    (inParams : Bytes) : MapClientConn × Except DispatchError Bool :=
  if operation = "send" then
    match startReading inParams with
    | .error _ => (clientConnMap, .error .marshal)
    | .ok (encaps, i) =>
        match readDataStruct library i with
        | .error _ => (clientConnMap, .error .marshal)
        | .ok (recvData, i) =>
            let written :=
              match clientConnMap (ofBytes recvData.nodeid) with
              | some connection =>
                  Function.update clientConnMap (ofBytes recvData.nodeid)
                    (some
                      (connection.write (ofBytes recvData.msgid)
                        recvData.data).2)
              | none => clientConnMap
            match library.endReading encaps inParams i with
            | .ok _ => (written, .ok true)
            | .error _ => (written, .error .marshal)
  else if operation = "ping" then (clientConnMap, .ok true)
  else (clientConnMap, .error (.operationNotExist operation))

/-- `_iceD_send` on the bytes of a call. -/
def iceDSend {Callback : Type} (cb : Callback)
    (clientConnMap : MapClientConn) (inParams : Bytes) :
    MapClientConn × Except DispatchError (Completion Callback) :=
  let read : Except StreamError SendData := do
    let (encaps, i) ← startReading inParams
    let (v, i) ← readParams library i
    library.endReading encaps inParams i
    .ok v
  match read with
  | .error _ => (clientConnMap, .error .marshal)
  | .ok v =>
      let sent :=
        sendAsync clientConnMap
          ⟨cb, ofBytes v.nodeid, ofBytes v.msgid, v.data⟩
      (sent.1, .ok sent.2)

end Marshalling

/-! ## Fields -/

/-- The three fields of a call, in the order of the dynamic one. -/
def Fields (v : SendData) (fields : Bytes) : Prop :=
  ∃ msgid nodeid data,
    Sized v.msgid msgid ∧ Sized v.nodeid nodeid ∧ Sized v.data data ∧
      fields = msgid ++ (nodeid ++ data)

/-- The static servant reads the names in the other order. -/
theorem readParams_eq (library : Library) (i : Bytes) :
    readParams library i =
      (readDataStruct library i).map fun read => (read.1.swapped, read.2) := by
  simp only [readParams, readDataStruct]
  cases library.readString i with
  | error failure => rfl
  | ok pair =>
      rw [ok_bind, ok_bind]
      cases library.readString pair.2 with
      | error failure => rfl
      | ok other =>
          rw [ok_bind, ok_bind]
          cases library.readBytes other.2 <;> rfl

section Fields

variable {library : Library} (documented : library.Documented)

include documented

theorem readDataStruct_iff {v : SendData} {text i : Bytes} :
    readDataStruct library text = .ok (v, i) ↔
      ∃ fields, Fields v fields ∧ text = fields ++ i := by
  simp only [readDataStruct, documented.readString, documented.readBytes]
  constructor
  · intro read
    obtain ⟨⟨msgid, afterMsgid⟩, first, readNodeid⟩ := bind_eq_ok read
    obtain ⟨⟨nodeid, afterNodeid⟩, second, readData⟩ := bind_eq_ok readNodeid
    obtain ⟨⟨data, last⟩, third, same⟩ := bind_eq_ok readData
    cases same
    obtain ⟨takenMsgid, sizedMsgid, rfl⟩ := readSized_iff.mp first
    obtain ⟨takenNodeid, sizedNodeid, rfl⟩ := readSized_iff.mp second
    obtain ⟨takenData, sizedData, rfl⟩ := readSized_iff.mp third
    refine ⟨_, ⟨_, _, _, sizedMsgid, sizedNodeid, sizedData, rfl⟩, ?_⟩
    simp only [List.append_assoc]
  · rintro ⟨fields,
      ⟨msgid, nodeid, data, sizedMsgid, sizedNodeid, sizedData, rfl⟩, rfl⟩
    rw [List.append_assoc, List.append_assoc, readSized_append sizedMsgid,
      ok_bind, readSized_append sizedNodeid, ok_bind,
      readSized_append sizedData, ok_bind]

theorem writeDataStruct_fields
    {v : SendData} (fits : v.size ≤ 2147483647) :
    ∃ fields,
      writeDataStruct library v = .ok fields ∧ Fields v fields ∧
        fields.length ≤ v.size + 15 := by
  unfold SendData.size at fits ⊢
  have fitsMsgid : v.msgid.length ≤ 2147483647 := by omega
  have fitsNodeid : v.nodeid.length ≤ 2147483647 := by omega
  have fitsData : v.data.length ≤ 2147483647 := by omega
  obtain ⟨msgid, wroteMsgid, sizedMsgid, shortMsgid⟩ :=
    writeSized_sized fitsMsgid
  obtain ⟨nodeid, wroteNodeid, sizedNodeid, shortNodeid⟩ :=
    writeSized_sized fitsNodeid
  obtain ⟨data, wroteData, sizedData, shortData⟩ :=
    writeSized_sized fitsData
  refine
    ⟨msgid ++ (nodeid ++ data), ?_,
      ⟨_, _, _, sizedMsgid, sizedNodeid, sizedData, rfl⟩, ?_⟩
  · rw [writeDataStruct, writeString_eq documented fitsMsgid, wroteMsgid,
      ok_bind, writeString_eq documented fitsNodeid, wroteNodeid, ok_bind,
      writeVector_eq documented, wroteData, ok_bind]
  · rw [List.length_append, List.length_append]
    omega

end Fields

/-! ## Dispatch -/

section Dispatch

variable {library : Library} (documented : library.Documented)
variable (clientConnMap : MapClientConn)

/-- What the servant writes before it ends the encapsulation. -/
theorem written_eq_afterSend (v : SendData) :
    (match clientConnMap (ofBytes v.nodeid) with
      | some connection =>
          Function.update clientConnMap (ofBytes v.nodeid)
            (some (connection.write (ofBytes v.msgid) v.data).2)
      | none => clientConnMap) =
      afterSend clientConnMap v.dataStruct := by
  cases found : clientConnMap (ofBytes v.nodeid) with
  | none => rw [afterSend, iceInvoke_send_of_unknown found]
  | some connection =>
      rw [afterSend, iceInvoke_send_of_known found]
      rfl

theorem sendAsync_eq_afterSend
    {Callback : Type} (request : SendRequest Callback) :
    sendAsync clientConnMap request =
      (afterSend clientConnMap request.dataStruct,
        .iceResponse request.cb 0) := by
  rw [sendAsync]
  cases found : clientConnMap request.nodeid with
  | none => rw [afterSend, iceInvoke_send_of_unknown found]
  | some connection =>
      rw [afterSend, iceInvoke_send_of_known found]
      rfl

include documented

/-- The dynamic servant delivers what stands behind the header of the
encapsulation, and then looks for its end. -/
theorem iceInvokeBytes_of_fields
    {encaps : Encaps} {inParams i fields rest : Bytes} {v : SendData}
    (opens : Opens encaps inParams i) (spelled : Fields v fields)
    (divided : i = fields ++ rest) :
    iceInvokeBytes library clientConnMap "send" inParams =
      (afterSend clientConnMap v.dataStruct,
        match library.endReading encaps inParams rest with
        | .ok _ => .ok true
        | .error _ => .error .marshal) := by
  have opened := startReading_iff.mpr opens
  have read :=
    (readDataStruct_iff documented).mpr ⟨fields, spelled, divided⟩
  rw [iceInvokeBytes, if_pos rfl, opened]
  dsimp only
  rw [read]
  dsimp only
  rw [written_eq_afterSend]
  cases library.endReading encaps inParams rest <;> rfl

theorem iceInvokeBytes_of_no_fields
    {inParams : Bytes}
    (unreadable : ∀ encaps i v fields rest, Opens encaps inParams i →
      Fields v fields → i ≠ fields ++ rest) :
    iceInvokeBytes library clientConnMap "send" inParams =
      (clientConnMap, .error .marshal) := by
  rw [iceInvokeBytes, if_pos rfl]
  cases opened : startReading inParams with
  | error failure => rfl
  | ok pair =>
      obtain ⟨encaps, i⟩ := pair
      dsimp only
      cases read : readDataStruct library i with
      | error failure => rfl
      | ok pair =>
          obtain ⟨v, rest⟩ := pair
          obtain ⟨fields, spelled, divided⟩ :=
            (readDataStruct_iff documented).mp read
          exact
            absurd divided
              (unreadable encaps i v fields rest (startReading_iff.mp opened)
                spelled)

/-- The static servant reads the same bytes as the fields of the dynamic call
with the names exchanged. -/
theorem iceDSend_of_fields
    {Callback : Type} (cb : Callback)
    {encaps : Encaps} {inParams i fields rest : Bytes} {v : SendData}
    (opens : Opens encaps inParams i) (spelled : Fields v.swapped fields)
    (divided : i = fields ++ rest) :
    iceDSend library cb clientConnMap inParams =
      match library.endReading encaps inParams rest with
      | .ok _ =>
          (afterSend clientConnMap v.dataStruct, .ok (.iceResponse cb 0))
      | .error _ => (clientConnMap, .error .marshal) := by
  have read :=
    (readDataStruct_iff documented).mpr ⟨fields, spelled, divided⟩
  have readStatic : readParams library i = .ok (v, rest) := by
    rw [readParams_eq, read]
    rfl
  rw [iceDSend, startReading_iff.mpr opens]
  simp only [ok_bind, readStatic]
  cases library.endReading encaps inParams rest with
  | error failure => rfl
  | ok ended =>
      simp only [ok_bind]
      rw [sendAsync_eq_afterSend]
      rfl

end Dispatch

/-! ## What arrives of a call -/

section Calls

variable {library : Library} (documented : library.Documented)

include documented

/-- The bytes that one side makes of the fields open as an encapsulation of
these fields and nothing else. -/
theorem exists_encapsulated
    {encoding : EncodingVersion}
    (supported : isSupported encoding currentEncoding = true)
    {v : SendData} (fits : v.size + 21 ≤ 2147483647) :
    ∃ inParams fields encaps,
      encapsulated encoding (writeDataStruct library v) = .ok inParams ∧
        Fields v fields ∧ Opens encaps inParams (fields ++ []) ∧
          library.endReading encaps inParams [] = .ok () := by
  obtain ⟨fields, written, spelled, short⟩ :=
    writeDataStruct_fields documented (by omega : v.size ≤ 2147483647)
  obtain ⟨start, started, opens⟩ :=
    opens_written supported (by omega : 6 + fields.length ≤ 2147483647)
  have length := opens.length
  refine
    ⟨endWriting (start ++ fields), fields, ⟨6 + fields.length, encoding⟩, ?_,
      spelled, ?_, ?_⟩
  · rw [encapsulated, started, ok_bind, written, ok_bind]
  · rw [List.append_nil]
    exact opens
  · refine endReading_exact documented ?_
    rw [length, List.length_nil]
    push_cast
    omega

end Calls

/-- The encoding in the library without a string converter, on parameters
without optional ones. -/
def plainLibrary : Library where
  writeConverted := writeSized
  writeBytes := writeSized
  readString := readSized
  readBytes := readSized
  skipOptionals := fun _ i => .ok ((), i)

theorem plainLibrary_documented : plainLibrary.Documented where
  writeConverted := fun _ => rfl
  writeBytes := fun _ => rfl
  readString := fun _ => rfl
  readBytes := fun _ => rfl
  skipOptionals := fun _ _ _ => rfl

/-- A call arrives as it was made, in the dynamic build and in the static one.
The bytes of its parameters are dispatched like the parameters themselves, in
both supported encodings and whatever the lengths, up to the largest
encapsulation. -/
theorem marshalled_send_arrives
    {library : Library} (documented : library.Documented)
    {encoding : EncodingVersion}
    (supported : isSupported encoding currentEncoding = true)
    {v : SendData} (fits : v.size + 21 ≤ 2147483647)
    (clientConnMap : MapClientConn) {Callback : Type} (cb : Callback) :
    (∃ inParams,
      dynamicInParams library encoding v = .ok inParams ∧
        iceInvokeBytes library clientConnMap "send" inParams =
          (afterSend clientConnMap v.dataStruct, .ok true)) ∧
    ∃ inParams,
      staticInParams library encoding v = .ok inParams ∧
        iceDSend library cb clientConnMap inParams =
          (afterSend clientConnMap v.dataStruct,
            .ok (.iceResponse cb 0)) := by
  constructor
  · obtain ⟨inParams, fields, encaps, made, spelled, opens, ends⟩ :=
      exists_encapsulated documented supported fits
    refine ⟨inParams, made, ?_⟩
    rw [iceInvokeBytes_of_fields documented clientConnMap opens spelled rfl,
      ends]
  · have fitsSwapped : v.swapped.size + 21 ≤ 2147483647 := by
      unfold SendData.size SendData.swapped at *
      dsimp only
      omega
    obtain ⟨inParams, fields, encaps, made, spelled, opens, ends⟩ :=
      exists_encapsulated documented supported fitsSwapped
    refine ⟨inParams, made, ?_⟩
    rw [iceDSend_of_fields documented clientConnMap cb opens spelled rfl, ends]

/-- One byte for the message id `m` from the node `a`. -/
def oneByte : SendData :=
  ⟨[109], [97], [7]⟩

/-- A servant that knows the node `a`. -/
def knowsA : MapClientConn :=
  fun nodeid => if nodeid = "a" then some (.create "a") else none

theorem marshalled_send_arrives_one_byte :
    ∃ inParams,
      dynamicInParams plainLibrary currentEncoding oneByte = .ok inParams ∧
        iceInvokeBytes plainLibrary knowsA "send" inParams =
          (afterSend knowsA oneByte.dataStruct, .ok true) :=
  (marshalled_send_arrives plainLibrary_documented rfl
    (by decide : oneByte.size + 21 ≤ 2147483647) knowsA ()).1

/-- A servant of the dynamic build takes the node id of a static call for its
message id and the other way round. -/
theorem static_call_at_dynamic_servant
    {library : Library} (documented : library.Documented)
    {encoding : EncodingVersion}
    (supported : isSupported encoding currentEncoding = true)
    {v : SendData} (fits : v.size + 21 ≤ 2147483647)
    (clientConnMap : MapClientConn) :
    ∃ inParams,
      staticInParams library encoding v = .ok inParams ∧
        iceInvokeBytes library clientConnMap "send" inParams =
          (afterSend clientConnMap v.swapped.dataStruct, .ok true) ∧
        ∀ nodeid msgid,
          (nodeid, msgid) ≠ (ofBytes v.msgid, ofBytes v.nodeid) →
            (iceInvokeBytes library clientConnMap "send" inParams).1.queued
                nodeid msgid =
              clientConnMap.queued nodeid msgid := by
  have fitsSwapped : v.swapped.size + 21 ≤ 2147483647 := by
    unfold SendData.size SendData.swapped at *
    dsimp only
    omega
  obtain ⟨inParams, fields, encaps, made, spelled, opens, ends⟩ :=
    exists_encapsulated documented supported fitsSwapped
  have dispatched :
      iceInvokeBytes library clientConnMap "send" inParams =
        (afterSend clientConnMap v.swapped.dataStruct, .ok true) := by
    rw [iceInvokeBytes_of_fields documented clientConnMap opens spelled rfl,
      ends]
  refine ⟨inParams, made, dispatched, ?_⟩
  intro nodeid msgid other
  rw [dispatched, queued_afterSend, if_neg]
  rintro ⟨-, rfl, rfl⟩
  exact other rfl

theorem static_call_at_dynamic_servant_one_byte :
    ∃ inParams,
      staticInParams plainLibrary currentEncoding oneByte = .ok inParams ∧
        (iceInvokeBytes plainLibrary knowsA "send" inParams).2 = .ok true ∧
        (iceInvokeBytes plainLibrary knowsA "send" inParams).1.queued "a" "m" =
          [] := by
  have supported : isSupported currentEncoding currentEncoding = true := rfl
  obtain ⟨inParams, made, dispatched, others⟩ :=
    static_call_at_dynamic_servant plainLibrary_documented supported
      (by decide : oneByte.size + 21 ≤ 2147483647) knowsA
  refine ⟨inParams, made, by rw [dispatched], ?_⟩
  rw [others "a" "m" (by decide)]
  rfl

/-- A call with bytes between its fields and the end of its encapsulation,
which is all that a servant is given.  Where `endEncapsulation` does not accept
them, both servants answer with an exception, but the dynamic one has delivered
the call by then: a client that repeats it delivers it once more.  Otherwise
both deliver it and answer. -/
theorem leftover_call_delivered
    {library : Library} (documented : library.Documented)
    {encaps : Encaps} {inParams i fields rest : Bytes} {v : SendData}
    (opens : Opens encaps inParams i) (whole : encaps.sz = inParams.length)
    (spelled : Fields v fields) (divided : i = fields ++ rest)
    (clientConnMap : MapClientConn) {Callback : Type} (cb : Callback) :
    (library.Refuses encaps.encoding rest →
      iceInvokeBytes library clientConnMap "send" inParams =
          (afterSend clientConnMap v.dataStruct, .error .marshal) ∧
        iceDSend library cb clientConnMap inParams =
          (clientConnMap, .error .marshal)) ∧
    (¬ library.Refuses encaps.encoding rest →
      iceInvokeBytes library clientConnMap "send" inParams =
          (afterSend clientConnMap v.dataStruct, .ok true) ∧
        iceDSend library cb clientConnMap inParams =
          (afterSend clientConnMap v.swapped.dataStruct,
            .ok (.iceResponse cb 0))) := by
  have dynamic :=
    iceInvokeBytes_of_fields documented clientConnMap opens spelled divided
  have spelledStatic : Fields v.swapped.swapped fields := spelled
  have static :=
    iceDSend_of_fields documented clientConnMap cb opens spelledStatic divided
  have accepts :
      library.endReading encaps inParams rest = .ok () ↔
        ¬ library.Refuses encaps.encoding rest := endReading_whole_iff whole
  cases ends : library.endReading encaps inParams rest with
  | ok ended =>
      rw [ends] at dynamic static
      have accepted := accepts.mp ends
      exact ⟨fun refused => absurd refused accepted, fun _ => ⟨dynamic, static⟩⟩
  | error failure =>
      rw [ends] at dynamic static
      have refused : library.Refuses encaps.encoding rest := by
        by_contra accepted
        rw [accepts.mpr accepted] at ends
        cases ends
      exact ⟨fun _ => ⟨dynamic, static⟩, fun accepted => absurd refused accepted⟩

/-- The byte from `a` in the encoding 1.0, with two bytes behind it. -/
def leftover : Bytes :=
  [14, 0, 0, 0, 1, 0, 1, 109, 1, 97, 1, 7, 0, 0]

theorem leftover_opens :
    Opens ⟨14, encoding10⟩ leftover [1, 109, 1, 97, 1, 7, 0, 0] where
  header := ⟨[14, 0, 0, 0, 1, 0], ⟨[14, 0, 0, 0], rfl, by decide, rfl⟩, rfl⟩
  least := by decide
  most := by decide
  supported := rfl

theorem oneByte_fields : Fields oneByte [1, 109, 1, 97, 1, 7] := by
  have short (byte : UInt8) : Sized [byte] [1, byte] :=
    ⟨[1], .inl ⟨(by decide : 1 < 255), rfl⟩, rfl⟩
  exact ⟨_, _, _, short 109, short 97, short 7, rfl⟩

theorem leftover_call_delivered_two_bytes :
    iceInvokeBytes plainLibrary knowsA "send" leftover =
        (afterSend knowsA oneByte.dataStruct, .error .marshal) ∧
      iceDSend plainLibrary () knowsA leftover = (knowsA, .error .marshal) := by
  have refused : plainLibrary.Refuses encoding10 [0, 0] := by
    rw [Library.Refuses, if_pos rfl]
    decide
  exact
    (leftover_call_delivered plainLibrary_documented leftover_opens rfl
      oneByte_fields rfl knowsA ()).1 refused

/-! ## Runs over arbitrary bytes -/

/-- What a call delivers at the dynamic servant. -/
def delivery (library : Library) : String × Bytes → Option SendData
  | (operation, inParams) =>
      if operation = "send" then
        match startReading inParams with
        | .error _ => none
        | .ok (_, i) =>
            match readDataStruct library i with
            | .error _ => none
            | .ok (v, _) => some v
      else none

/-- Calls that the dynamic servant dispatches one after the other. -/
def serve (library : Library) (clientConnMap : MapClientConn) :
    List (String × Bytes) →
      MapClientConn × List (Except DispatchError Bool)
  | [] => (clientConnMap, [])
  | call :: calls =>
      let served := iceInvokeBytes library clientConnMap call.1 call.2
      let later := serve library served.1 calls
      (later.1, served.2 :: later.2)

/-- The data of a delivery to a channel. -/
def SendData.dataFor (nodeid msgid : String) (v : SendData) : Option Bytes :=
  if ofBytes v.nodeid = nodeid ∧ ofBytes v.msgid = msgid then some v.data
  else none

section Runs

variable {library : Library} (documented : library.Documented)

include documented

theorem delivery_send_iff {inParams : Bytes} {v : SendData} :
    delivery library ("send", inParams) = some v ↔
      ∃ encaps i fields rest,
        Opens encaps inParams i ∧ Fields v fields ∧ i = fields ++ rest := by
  constructor
  · intro delivers
    rw [delivery, if_pos rfl] at delivers
    split at delivers
    · cases delivers
    · next encaps i opened =>
        split at delivers
        · cases delivers
        · next found rest read =>
            cases delivers
            obtain ⟨fields, spelled, divided⟩ :=
              (readDataStruct_iff documented).mp read
            exact
              ⟨encaps, i, fields, rest, startReading_iff.mp opened, spelled,
                divided⟩
  · rintro ⟨encaps, i, fields, rest, opens, spelled, divided⟩
    have read :=
      (readDataStruct_iff documented).mpr ⟨fields, spelled, divided⟩
    rw [delivery, if_pos rfl, startReading_iff.mpr opens]
    dsimp only
    rw [read]

/-- One call: what it delivers is written, and an answer of `true` to a `send`
means that it has delivered something. -/
theorem iceInvokeBytes_step
    (clientConnMap : MapClientConn) (call : String × Bytes) :
    (iceInvokeBytes library clientConnMap call.1 call.2).1 =
        (match delivery library call with
          | some v => afterSend clientConnMap v.dataStruct
          | none => clientConnMap) ∧
      (call.1 = "send" →
        (iceInvokeBytes library clientConnMap call.1 call.2).2 = .ok true →
          (delivery library call).isSome) := by
  obtain ⟨operation, inParams⟩ := call
  by_cases isSend : operation = "send"
  · subst isSend
    cases delivers : delivery library ("send", inParams) with
    | some v =>
        obtain ⟨encaps, i, fields, rest, opens, spelled, divided⟩ :=
          (delivery_send_iff documented).mp delivers
        rw [iceInvokeBytes_of_fields documented clientConnMap opens spelled
          divided]
        exact ⟨rfl, fun _ _ => rfl⟩
    | none =>
        have refused :
            iceInvokeBytes library clientConnMap "send" inParams =
              (clientConnMap, .error .marshal) := by
          refine iceInvokeBytes_of_no_fields documented clientConnMap ?_
          intro encaps i v fields rest opens spelled divided
          have found :=
            (delivery_send_iff documented).mpr
              ⟨encaps, i, fields, rest, opens, spelled, divided⟩
          rw [delivers] at found
          cases found
        rw [refused]
        exact ⟨rfl, fun _ accepted => nomatch accepted⟩
  · have nothing : delivery library (operation, inParams) = none :=
      if_neg isSend
    rw [nothing]
    refine ⟨?_, fun same => absurd same isSend⟩
    rw [iceInvokeBytes, if_neg isSend]
    split <;> rfl

omit documented in
theorem queued_afterSend_dataFor
    {clientConnMap : MapClientConn} {nodeid : String}
    (registered : (clientConnMap nodeid).isSome) (msgid : String)
    (v : SendData) :
    (afterSend clientConnMap v.dataStruct).queued nodeid msgid =
      clientConnMap.queued nodeid msgid ++
        (v.dataFor nodeid msgid).toList := by
  rw [queued_afterSend, SendData.dataFor]
  by_cases names : ofBytes v.nodeid = nodeid ∧ ofBytes v.msgid = msgid
  · rw [if_pos ⟨registered, names⟩, if_pos names]
    rfl
  · rw [if_neg fun appended => names appended.2, if_neg names]
    exact (List.append_nil _).symm

theorem serve_queued
    (calls : List (String × Bytes)) {clientConnMap : MapClientConn}
    {nodeid : String} (registered : (clientConnMap nodeid).isSome)
    (msgid : String) :
    (serve library clientConnMap calls).1.queued nodeid msgid =
      clientConnMap.queued nodeid msgid ++
        (calls.filterMap (delivery library)).filterMap
          (SendData.dataFor nodeid msgid) := by
  induction calls generalizing clientConnMap with
  | nil => exact (List.append_nil _).symm
  | cons call calls inductionHypothesis =>
      have step := (iceInvokeBytes_step documented clientConnMap call).1
      rw [serve]
      dsimp only
      rw [step]
      cases delivers : delivery library call with
      | none =>
          rw [List.filterMap_cons_none delivers]
          exact inductionHypothesis registered
      | some v =>
          have stays :
              (afterSend clientConnMap v.dataStruct nodeid).isSome := by
            rw [isSome_afterSend]
            exact registered
          dsimp only
          rw [inductionHypothesis stays, queued_afterSend_dataFor registered,
            List.filterMap_cons_some delivers, List.append_assoc]
          cases dataFor : v.dataFor nodeid msgid with
          | none => rw [List.filterMap_cons_none dataFor]; rfl
          | some data => rw [List.filterMap_cons_some dataFor]; rfl

theorem serve_answers (calls : List (String × Bytes))
    (clientConnMap : MapClientConn) :
    List.Forall₂
      (fun call answer =>
        call.1 = "send" → answer = .ok true →
          (delivery library call).isSome)
      calls (serve library clientConnMap calls).2 := by
  induction calls generalizing clientConnMap with
  | nil => exact .nil
  | cons call calls inductionHypothesis =>
      exact
        .cons (iceInvokeBytes_step documented clientConnMap call).2
          (inductionHypothesis _)

end Runs

/-- What the dynamic servant makes of any sequence of calls with any bytes.
The queue of a registered node and message id grows by the data of the calls
of `send` for it whose fields can be read behind an open encapsulation, in
their order, and a call of `send` that is answered with `true` is one of them.
Nothing else arrives in a queue. -/
theorem served_bytes
    {library : Library} (documented : library.Documented)
    (clientConnMap : MapClientConn) (calls : List (String × Bytes)) :
    (∀ nodeid msgid, (clientConnMap nodeid).isSome →
      (serve library clientConnMap calls).1.queued nodeid msgid =
        clientConnMap.queued nodeid msgid ++
          (calls.filterMap (delivery library)).filterMap
            (SendData.dataFor nodeid msgid)) ∧
    List.Forall₂
      (fun call answer =>
        call.1 = "send" → answer = .ok true →
          (delivery library call).isSome)
      calls (serve library clientConnMap calls).2 ∧
    ∀ inParams v,
      delivery library ("send", inParams) = some v ↔
        ∃ encaps i fields rest,
          Opens encaps inParams i ∧ Fields v fields ∧ i = fields ++ rest :=
  ⟨fun _ msgid registered =>
      serve_queued documented calls registered msgid,
    serve_answers documented calls clientConnMap,
    fun _ _ => delivery_send_iff documented⟩

/-- A call that is repeated because of the exception is there twice. -/
theorem served_bytes_repeated :
    (serve plainLibrary knowsA
        [("send", leftover), ("ping", []), ("send", leftover)]).1.queued "a" "m" =
      [[7], [7]] :=
  (served_bytes plainLibrary_documented knowsA
    [("send", leftover), ("ping", []), ("send", leftover)]).1 "a" "m" rfl

end ChannelSdk.Ice
