import ChannelSdk.NodeLookup

/-!
# Server endpoints and client proxies

What the constructors of `core/src/base_server.cc`, `core/src/sync_server.cc`
and `core/src/base_client.cc` derive from a node's description before they
hand it to Ice: the identity of the servant, and either the address of a
direct connection or the names for the indirect one, through IceGrid on the
server side and Glacier2 on the client side.  The certificate properties of
the secure protocol are passed through to Ice unchanged and are left out.
-/

namespace ChannelSdk

/-- `FilterIllChar`: the illegal characters become underscores, and the result
is assigned from a C string. -/
def filterIllChar (source : String) : String :=
  cString (String.ofList (source.toList.map fun character =>
    if character = ':' ∨ character = '@' ∨ character = '/' then '_'
    else character))

/-- The servant id of a node in a task. -/
def servantId (taskId nodeId : String) : String :=
  filterIllChar ("IoChannel_" ++ taskId ++ "_" ++ nodeId)

/-- The adapter id of a node in a task. -/
def servantAdapterId (taskId nodeId : String) : String :=
  filterIllChar ("ChannelAdapter_" ++ taskId ++ "_" ++ nodeId)

/-- The host and port of an address, if it has a colon. -/
def splitAddress (address : String) : Option (String × String) :=
  match address.toList.span fun character => character ≠ ':' with
  | (host, _ :: port) => some (String.ofList host, String.ofList port)
  | (_, []) => none

/-- The protocol for a certificate path of the root. -/
def protocolFor (caCertPath : String) : String :=
  if caCertPath = "" then "tcp" else "ssl"

/-- A plug-in that is not fully configured. -/
def IcePlugCfg.isIncomplete (plugin : IcePlugCfg) : Bool :=
  plugin.appName = "" ∨ plugin.ip = "" ∨ plugin.port = ""

inductive ServerRoute where
  | direct (protocol ip port : String)
  | iceGrid (protocol publicIp : String) (locator : IcePlugCfg)
      (adapterId : String)
  deriving DecidableEq, Repr

structure ServerEndpoint where
  identity : String
  route : ServerRoute
  deriving DecidableEq, Repr

/-- The constructors of `BaseServer` and `SyncServer`. -/
def createServer (serverInfo : NodeInfo) (taskId : String) :
    Except Event ServerEndpoint :=
  let protocol := protocolFor serverInfo.caCertPath
  let identity := servantId taskId serverInfo.id
  match splitAddress serverInfo.address with
  | some (ip, port) => .ok ⟨identity, .direct protocol ip port⟩
  | none =>
      if serverInfo.iceGridInfo.isIncomplete then
        .error (.noIcegrid serverInfo.id)
      else if serverInfo.publicIp = "" then
        .error (.noPublicIp serverInfo.id)
      else
        .ok ⟨identity,
          .iceGrid protocol serverInfo.publicIp serverInfo.iceGridInfo
            (servantAdapterId taskId serverInfo.id)⟩

inductive ClientRoute where
  | direct (protocol ip port : String)
  | glacier2 (protocol : String) (router : IcePlugCfg) (adapterId : String)
  deriving DecidableEq, Repr

structure ClientProxy where
  identity : String
  route : ClientRoute
  deriving DecidableEq, Repr

/-- The secure protocol needs both certificates. -/
def ViaInfo.lacksCertificate (viaInfo : ViaInfo) : Bool :=
  viaInfo.caCertPath ≠ "" ∧
    (viaInfo.serverCertPath = "" ∨ viaInfo.clientCertPath = "")

/-- The constructor of `BaseClient`. -/
def createClient (viaInfo : ViaInfo) (taskId : String) :
    Except Event ClientProxy :=
  let protocol := protocolFor viaInfo.caCertPath
  let identity := servantId taskId viaInfo.id
  match splitAddress viaInfo.viaAddress with
  | none =>
      if viaInfo.glacier2Info.isIncomplete then
        .error (.noGlacier2 viaInfo.id)
      else if viaInfo.lacksCertificate then
        .error (.invalidCert viaInfo.id)
      else
        .ok ⟨identity,
          .glacier2 protocol viaInfo.glacier2Info
            (servantAdapterId taskId viaInfo.id)⟩
  | some (ip, port) =>
      if viaInfo.lacksCertificate then
        .error (.invalidCert viaInfo.id)
      else
        .ok ⟨identity, .direct protocol ip port⟩

end ChannelSdk
