import Mathlib.Logic.Basic

/-!
# Events

The failures that the SDK reports with `HANDLE_EXCEPTION_EVENT` of
`core/include/const.h`, with the nodes that their messages name.
-/

namespace ChannelSdk

inductive Event where
  | parseFile
  | noFindNid (nodeid : String)
  | noPublicIp (nodeid : String)
  | noGlacier2 (nodeid : String)
  | noIcegrid (nodeid : String)
  | invalidCert (nodeid : String)
  | sendDataTimeout (selfNodeid remoteNodeid : String) (milliseconds : Nat)
  | neitherClientServer (nodeid : String)
  deriving DecidableEq, Repr

end ChannelSdk
