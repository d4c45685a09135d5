import RemoteProxy.Library.JsonRpcClient

namespace RemoteProxy

namespace TunnelProxyRemoteConnection

inductive State where
  | StateConnecting | StateHostLookup | StateConnected | StateInitializing | StateRegister
  | StateRemoteConnected | StateDiconnecting | StateDisconnected
  deriving DecidableEq, Repr

inductive FinishedSlot where
  | onHelloFinished | onClientRegistrationFinished
  deriving DecidableEq, Repr

/-- What the connection does to its socket and what it emits; `jsonReceived` is data that goes to the
JSON client. -/
inductive Output where
  | connectServer (connection : Nat) (serverUrl : QUrl)
  | disconnectServer (connection : Nat)
  | sendData (data : QByteArray)
  | stateChanged (state : State)
  | remoteConnectedChanged (remoteConnected : Bool)
  | jsonReceived (data : QByteArray)
  | dataReady (data : QByteArray)
  deriving DecidableEq, Repr

end TunnelProxyRemoteConnection

/-- `m_connection` and `m_jsonClient` are created and given up together: `m_jsonClient` stands for
the client of the connection while there is one. -/
structure TunnelProxyRemoteConnection where
  m_clientUuid : QUuid
  m_clientName : String
  m_serverUuid : QUuid
  m_remoteProxyServer : String
  m_remoteProxyServerName : String
  m_remoteProxyServerVersion : String
  m_remoteProxyApiVersion : String
  m_serverUrl : QUrl
  m_state : TunnelProxyRemoteConnection.State
  m_connection : Option Nat
  m_jsonClient : JsonRpcClient
  finishedSlot : Nat → TunnelProxyRemoteConnection.FinishedSlot
  connections : Nat
  output : List TunnelProxyRemoteConnection.Output

namespace TunnelProxyRemoteConnection

open JsonRpcClient

def new (clientUuid : QUuid) (clientName : String) : TunnelProxyRemoteConnection where
  m_clientUuid := clientUuid
  m_clientName := clientName
  m_serverUuid := QUuid.null
  m_remoteProxyServer := ""
  m_remoteProxyServerName := ""
  m_remoteProxyServerVersion := ""
  m_remoteProxyApiVersion := ""
  m_serverUrl := ⟨"",false⟩
  m_state := .StateDisconnected
  m_connection := none
  m_jsonClient := .new
  finishedSlot := fun _ => .onHelloFinished
  connections := 0
  output := []

variable (env : Qt)

def emit (s : TunnelProxyRemoteConnection) (o : Output) : TunnelProxyRemoteConnection :=
  { s with output := s.output ++ [o] }

def setState (s : TunnelProxyRemoteConnection) (state : State) : TunnelProxyRemoteConnection :=
  if s.m_state = state then s
  else
    let remoteConnected := decide (s.m_state = .StateRemoteConnected)
    let s := { s with m_state := state }.emit (.stateChanged state)
    let stillRemoteConnected := decide (s.m_state = .StateRemoteConnected)
    if remoteConnected ≠ stillRemoteConnected then
      s.emit (.remoteConnectedChanged stillRemoteConnected)
    else s

def request (s : TunnelProxyRemoteConnection) (call : JsonRpcClient → Called)
    (slot : FinishedSlot) : TunnelProxyRemoteConnection :=
  let r := call s.m_jsonClient
  { s.emit (.sendData r.data) with
    m_jsonClient := r.client
    finishedSlot := Function.update s.finishedSlot r.reply slot }

def disconnectServer (s : TunnelProxyRemoteConnection) : TunnelProxyRemoteConnection :=
  match s.m_connection with
  | some connection => s.emit (.disconnectServer connection)
  | none => s

section Slots

def setRemoteProxy (s : TunnelProxyRemoteConnection) (responseParams : QVariantMap) :
    TunnelProxyRemoteConnection :=
  { s with
    m_remoteProxyServer := env.toString (responseParams.value "server")
    m_remoteProxyServerName := env.toString (responseParams.value "name")
    m_remoteProxyServerVersion := env.toString (responseParams.value "version")
    m_remoteProxyApiVersion := env.toString (responseParams.value "apiVersion") }

def onHelloFinished (s : TunnelProxyRemoteConnection) (reply : Nat) :
    TunnelProxyRemoteConnection :=
  let response := (s.m_jsonClient.reply reply).m_response
  if env.toString (response.value "status") ≠ "success" then s.disconnectServer
  else
    let s := s.setRemoteProxy env (response.value "params").toMap
    (s.setState .StateRegister).request
      (callRegisterClient env s.m_clientUuid s.m_clientName s.m_serverUuid)
      .onClientRegistrationFinished

def onClientRegistrationFinished (s : TunnelProxyRemoteConnection) (reply : Nat) :
    TunnelProxyRemoteConnection :=
  let response := (s.m_jsonClient.reply reply).m_response
  if env.toString (response.value "status") ≠ "success" then s.disconnectServer
  else
    let responseParams := (response.value "params").toMap
    if env.toString (responseParams.value "tunnelProxyError") ≠ "TunnelProxyErrorNoError" then
      s.disconnectServer
    else s.setState .StateRemoteConnected

/-- The slots of the replies of `m_jsonClient`, whose own signals are not connected. -/
def slot (signal : Signal) (s : TunnelProxyRemoteConnection) : TunnelProxyRemoteConnection :=
  match signal with
  | .finished reply =>
    match s.finishedSlot reply with
    | .onHelloFinished => s.onHelloFinished env reply
    | .onClientRegistrationFinished => s.onClientRegistrationFinished env reply
  | .tunnelEstablished _ _ => s
  | .tunnelProxyClientConnected _ _ _ _ => s
  | .tunnelProxyClientDisonnected _ => s

def owner : Owner TunnelProxyRemoteConnection where
  client := m_jsonClient
  setClient s c := { s with m_jsonClient := c }
  slot := slot env

end Slots

def jsonData (s : TunnelProxyRemoteConnection) (data : QByteArray) : TunnelProxyRemoteConnection :=
  JsonRpcClient.processData env (owner env) (s.emit (.jsonReceived data)) data

def onConnectionDataAvailable (s : TunnelProxyRemoteConnection) (data : QByteArray) :
    TunnelProxyRemoteConnection :=
  if s.m_state ≠ .StateRemoteConnected then s.jsonData env data
  else s.emit (.dataReady data)

def cleanUp (s : TunnelProxyRemoteConnection) : TunnelProxyRemoteConnection :=
  { s with
    m_connection := none
    m_remoteProxyServer := ""
    m_remoteProxyServerName := ""
    m_remoteProxyServerVersion := ""
    m_remoteProxyApiVersion := "" }.setState .StateDisconnected

def connectServer (s : TunnelProxyRemoteConnection) (url : QUrl) (serverUuid : QUuid) :
    TunnelProxyRemoteConnection :=
  let s := { s with m_serverUrl := url, m_serverUuid := serverUuid }.cleanUp
  let s := { s with
    m_connection := some s.connections
    connections := s.connections + 1
    m_jsonClient := .new }
  s.emit (.connectServer (s.connections - 1) url)

def sendData (s : TunnelProxyRemoteConnection) (data : QByteArray) :
    TunnelProxyRemoteConnection × Bool :=
  if s.m_state = .StateRemoteConnected then (s.emit (.sendData data),true) else (s,false)

def onConnectionChanged (s : TunnelProxyRemoteConnection) (connected : Bool) :
    TunnelProxyRemoteConnection :=
  if connected then
    ((s.setState .StateConnected).setState .StateInitializing).request (callHello env)
      .onHelloFinished
  else (s.setState .StateDisconnected).cleanUp

def onConnectionStateChanged (s : TunnelProxyRemoteConnection) (state : SocketState) :
    TunnelProxyRemoteConnection :=
  match state with
  | .UnconnectedState => s.setState .StateDisconnected
  | .HostLookupState => s.setState .StateHostLookup
  | .ConnectingState => s.setState .StateConnecting
  | .ConnectedState => s.setState .StateConnected
  | .ClosingState => s.setState .StateDiconnecting
  | .BoundState => s
  | .ListeningState => s

end TunnelProxyRemoteConnection

end RemoteProxy
