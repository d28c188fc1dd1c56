import ChannelSdk.ClientConnection

/-!
# The servant `IoChannelI`

`core/src/IoChannelI.cc` in the build with dynamic calls and the synchronous
server.  The servant finds the connection of the sending node in the map that
`ViaNetIO` filled before it started the server, and writes the message to it.
A sender that is not in the map is ignored: the invocation succeeds all the
same.

The parameters of an invocation are given in decoded form; `none` stands for
bytes that are no encapsulated `DataStruct`.
-/

namespace ChannelSdk

open CheckedMemory

/-- `DataStruct` of `ice/io_channel_ice.ice`. -/
structure DataStruct where
  msgid : String
  nodeid : String
  data : Bytes
  deriving DecidableEq, Repr

/-- `MapClientConn`: the connection of every registered client node. -/
abbrev MapClientConn := String → Option ClientConnection

/-- What an invocation throws on the server side. -/
inductive DispatchError where
  | marshal
  | operationNotExist (operation : String)
  deriving DecidableEq, Repr

namespace MapClientConn

/-- The messages queued for a sender and a message id. -/
def queued (clientConnMap : MapClientConn) (nodeid msgid : String) :
    List Bytes :=
  match clientConnMap nodeid with
  | some connection => connection.queue msgid
  | none => []

theorem queued_of_known
    {clientConnMap : MapClientConn} {nodeid : String}
    {connection : ClientConnection}
    (known : clientConnMap nodeid = some connection) (msgid : String) :
    clientConnMap.queued nodeid msgid = connection.queue msgid := by
  rw [queued, known]

end MapClientConn

/-- `IoChannelI::ice_invoke`, with the connections it leaves behind. -/
def iceInvoke (clientConnMap : MapClientConn) (operation : String)
    (inParams : Option DataStruct) :
    Except DispatchError (Bool × MapClientConn) :=
  if operation = "send" then
    match inParams with
    | some recvData =>
        match clientConnMap recvData.nodeid with
        | some connection =>
            .ok (true,
              Function.update clientConnMap recvData.nodeid
                (some (connection.write recvData.msgid recvData.data).2))
        | none => .ok (true, clientConnMap)
    | none => .error .marshal
  else if operation = "ping" then
    .ok (true, clientConnMap)
  else
    .error (.operationNotExist operation)

/-- A sent message of a registered node is written to its connection. -/
theorem iceInvoke_send_of_known
    {clientConnMap : MapClientConn} {recvData : DataStruct}
    {connection : ClientConnection}
    (known : clientConnMap recvData.nodeid = some connection) :
    iceInvoke clientConnMap "send" (some recvData) =
      .ok (true,
        Function.update clientConnMap recvData.nodeid
          (some (connection.write recvData.msgid recvData.data).2)) := by
  simp [iceInvoke, known]

/-- A sent message of an unregistered node is dropped and reported as a
success. -/
theorem iceInvoke_send_of_unknown
    {clientConnMap : MapClientConn} {recvData : DataStruct}
    (unknown : clientConnMap recvData.nodeid = none) :
    iceInvoke clientConnMap "send" (some recvData) =
      .ok (true, clientConnMap) := by
  simp [iceInvoke, unknown]

/-- The map of connections after a dispatched `send`. -/
def afterSend (clientConnMap : MapClientConn) (recvData : DataStruct) :
    MapClientConn :=
  match iceInvoke clientConnMap "send" (some recvData) with
  | .ok (_, updated) => updated
  | .error _ => clientConnMap

theorem isSome_afterSend
    (clientConnMap : MapClientConn) (recvData : DataStruct) (nodeid : String) :
    (afterSend clientConnMap recvData nodeid).isSome =
      (clientConnMap nodeid).isSome := by
  rcases found : clientConnMap recvData.nodeid with _ | connection
  · rw [afterSend, iceInvoke_send_of_unknown found]
  · rw [afterSend, iceInvoke_send_of_known found]
    by_cases same : nodeid = recvData.nodeid
    · simp [same, found]
    · simp [Function.update_of_ne same]

/-- A dispatched `send` appends its message to the queue of its sender and
message id, if the sender is registered, and touches no other queue. -/
theorem queued_afterSend
    (clientConnMap : MapClientConn) (recvData : DataStruct)
    (nodeid msgid : String) :
    (afterSend clientConnMap recvData).queued nodeid msgid =
      if (clientConnMap nodeid).isSome ∧ recvData.nodeid = nodeid ∧
          recvData.msgid = msgid then
        clientConnMap.queued nodeid msgid ++ [recvData.data]
      else clientConnMap.queued nodeid msgid := by
  rcases found : clientConnMap recvData.nodeid with _ | connection
  · rw [afterSend, iceInvoke_send_of_unknown found, if_neg]
    intro appended
    rcases appended with ⟨registered, rfl, -⟩
    simp [found] at registered
  · rw [afterSend, iceInvoke_send_of_known found]
    by_cases sameNode : nodeid = recvData.nodeid
    · subst nodeid
      by_cases sameMsgid : msgid = recvData.msgid
      · subst msgid
        simp [MapClientConn.queued, found, ClientConnection.queue_write_self]
      · simp [MapClientConn.queued, found, Ne.symm sameMsgid,
          ClientConnection.queue_write_of_ne _ _ sameMsgid]
    · simp [MapClientConn.queued, Function.update_of_ne sameNode,
        Ne.symm sameNode]

end ChannelSdk
