import RemoteProxy.Foundation.Delimited
import RemoteProxy.Library.JsonRpcClient
import RemoteProxy.Library.TunnelProxySocket

namespace RemoteProxy

namespace TunnelProxySocketServer

inductive State where
  | StateConnecting | StateHostLookup | StateConnected | StateInitializing | StateRegister
  | StateRunning | StateDiconnecting | StateDisconnected
  deriving DecidableEq, Repr

inductive Error where
  | ErrorNoError | ErrorConnectionError | ErrorInvalidAddress | ErrorNotConnected
  | ErrorNotRegistered
  deriving DecidableEq, Repr

inductive FinishedSlot where
  | onHelloFinished | onServerRegistrationFinished | disconnectFinished | pingFinished
  deriving DecidableEq, Repr

/-- What the server does to its connection and what it emits; `frameReceived` is the traffic that it
logs, and `jsonReceived` a frame's payload that goes to the JSON client. -/
inductive Output where
  | connectServer (connection : Nat) (serverUrl : QUrl)
  | disconnectServer
  | sendData (data : QByteArray)
  | stateChanged (state : State)
  | runningChanged (running : Bool)
  | serverErrorOccurred (error : Error)
  | clientConnected (socket : TunnelProxySocket)
  | clientDisconnected (socket : TunnelProxySocket)
  | jsonReceived (data : QByteArray)
  | frameReceived (frame : SlipDataProcessor.Frame)
  | dataReceived (socket : TunnelProxySocket) (data : QByteArray)

end TunnelProxySocketServer

/-- `m_connection` and `m_jsonClient` are created and given up together: `m_jsonClient` stands for
the client of the connection while there is one. -/
structure TunnelProxySocketServer where
  m_serverUuid : QUuid
  m_serverName : String
  m_remoteProxyServer : String
  m_remoteProxyServerName : String
  m_remoteProxyServerVersion : String
  m_remoteProxyApiVersion : String
  m_running : Bool
  m_serverUrl : QUrl
  m_serverError : TunnelProxySocketServer.Error
  m_state : TunnelProxySocketServer.State
  m_reconnectTimer : QTimer
  m_keepAliveTimer : QTimer
  m_enabled : Bool
  m_connection : Option Nat
  m_jsonClient : JsonRpcClient
  m_tunnelProxySockets : QHash UInt16 TunnelProxySocket
  m_dataBuffer : QByteArray
  finishedSlot : Nat → TunnelProxySocketServer.FinishedSlot
  connections : Nat
  now : Nat
  output : List TunnelProxySocketServer.Output

namespace TunnelProxySocketServer

open JsonRpcClient

def new (serverUuid : QUuid) (serverName : String) : TunnelProxySocketServer where
  m_serverUuid := serverUuid
  m_serverName := serverName
  m_remoteProxyServer := ""
  m_remoteProxyServerName := ""
  m_remoteProxyServerVersion := ""
  m_remoteProxyApiVersion := ""
  m_running := false
  m_serverUrl := ⟨"",false⟩
  m_serverError := .ErrorNoError
  m_state := .StateDisconnected
  m_reconnectTimer := ⟨5000,false,none⟩
  m_keepAliveTimer := ⟨30000,false,none⟩
  m_enabled := false
  m_connection := none
  m_jsonClient := .new
  m_tunnelProxySockets := ∅
  m_dataBuffer := []
  finishedSlot := fun _ => .onHelloFinished
  connections := 0
  now := 0
  output := []

variable (env : Qt)

def emit (s : TunnelProxySocketServer) (o : Output) : TunnelProxySocketServer :=
  { s with output := s.output ++ [o] }

def setRunning (s : TunnelProxySocketServer) (running : Bool) : TunnelProxySocketServer :=
  if s.m_running = running then s
  else
    let s := { s with m_running := running }.emit (.runningChanged running)
    { s with m_keepAliveTimer :=
      if running then s.m_keepAliveTimer.start s.now else s.m_keepAliveTimer.stop }

def reconnectIfDown (s : TunnelProxySocketServer) : TunnelProxySocketServer :=
  if s.m_state = .StateDisconnected ∧ s.m_enabled then
    { s with
      m_reconnectTimer := s.m_reconnectTimer.start s.now
      m_keepAliveTimer := s.m_keepAliveTimer.stop }
  else s

def setState (s : TunnelProxySocketServer) (state : State) : TunnelProxySocketServer :=
  if s.m_state = state then s
  else
    (({ s with m_state := state }.emit (.stateChanged state)).setRunning
      (state = State.StateRunning)).reconnectIfDown

def setServerError (s : TunnelProxySocketServer) (error : Error) : TunnelProxySocketServer :=
  if s.m_serverError = error then s
  else { s with m_serverError := error }.emit (.serverErrorOccurred error)

def request (s : TunnelProxySocketServer) (call : JsonRpcClient → Called) (slot : FinishedSlot) :
    TunnelProxySocketServer :=
  let r := call s.m_jsonClient
  { s.emit (.sendData r.data) with
    m_jsonClient := r.client
    finishedSlot := Function.update s.finishedSlot r.reply slot }

section Slots

def refuse (s : TunnelProxySocketServer) : TunnelProxySocketServer :=
  (s.emit .disconnectServer).setServerError .ErrorConnectionError

def setRemoteProxy (s : TunnelProxySocketServer) (responseParams : QVariantMap) :
    TunnelProxySocketServer :=
  { s with
    m_remoteProxyServer := env.toString (responseParams.value "server")
    m_remoteProxyServerName := env.toString (responseParams.value "name")
    m_remoteProxyServerVersion := env.toString (responseParams.value "version")
    m_remoteProxyApiVersion := env.toString (responseParams.value "apiVersion") }

def onHelloFinished (s : TunnelProxySocketServer) (reply : Nat) : TunnelProxySocketServer :=
  let response := (s.m_jsonClient.reply reply).m_response
  if env.toString (response.value "status") ≠ "success" then s.refuse
  else
    let s := s.setRemoteProxy env (response.value "params").toMap
    (s.setState .StateRegister).request (callRegisterServer env s.m_serverUuid s.m_serverName)
      .onServerRegistrationFinished

def onServerRegistrationFinished (s : TunnelProxySocketServer) (reply : Nat) :
    TunnelProxySocketServer :=
  let response := (s.m_jsonClient.reply reply).m_response
  if env.toString (response.value "status") ≠ "success" then s.refuse
  else
    let responseParams := (response.value "params").toMap
    if env.toString (responseParams.value "tunnelProxyError") ≠ "TunnelProxyErrorNoError" then
      s.refuse
    else { s.setState .StateRunning with m_serverError := .ErrorNoError }

def onTunnelProxyClientConnected (s : TunnelProxySocketServer) (clientName : String)
    (clientUuid : QUuid) (clientPeerAddress : String) (socketAddress : UInt16) :
    TunnelProxySocketServer :=
  let tunnelProxySocket :=
    TunnelProxySocket.new clientName clientUuid clientPeerAddress socketAddress
  { s with m_tunnelProxySockets :=
      s.m_tunnelProxySockets.insert socketAddress tunnelProxySocket }.emit
    (.clientConnected tunnelProxySocket)

def onTunnelProxyClientDisconnected (s : TunnelProxySocketServer) (socketAddress : UInt16) :
    TunnelProxySocketServer :=
  match s.m_tunnelProxySockets.value socketAddress with
  | none => s
  | some tunnelProxySocket =>
    { s with m_tunnelProxySockets := s.m_tunnelProxySockets.remove socketAddress }.emit
      (.clientDisconnected tunnelProxySocket.setDisconnected)

/-- The slots of `m_jsonClient` and of its replies; the replies to a ping and to a disconnect
request are only logged. -/
def slot (signal : Signal) (s : TunnelProxySocketServer) : TunnelProxySocketServer :=
  match signal with
  | .finished reply =>
    match s.finishedSlot reply with
    | .onHelloFinished => s.onHelloFinished env reply
    | .onServerRegistrationFinished => s.onServerRegistrationFinished env reply
    | .disconnectFinished => s
    | .pingFinished => s
  | .tunnelEstablished _ _ => s
  | .tunnelProxyClientConnected clientName clientUuid clientPeerAddress socketAddress =>
    s.onTunnelProxyClientConnected clientName clientUuid clientPeerAddress socketAddress
  | .tunnelProxyClientDisonnected socketAddress => s.onTunnelProxyClientDisconnected socketAddress

def owner : Owner TunnelProxySocketServer where
  client := m_jsonClient
  setClient s c := { s with m_jsonClient := c }
  slot := slot env

end Slots

def jsonData (s : TunnelProxySocketServer) (data : QByteArray) : TunnelProxySocketServer :=
  JsonRpcClient.processData env (owner env) s data

def processFrame (s : TunnelProxySocketServer) (frame : SlipDataProcessor.Frame) :
    TunnelProxySocketServer :=
  let s := s.emit (.frameReceived frame)
  if frame.socketAddress = 0x0000 then (s.emit (.jsonReceived frame.data)).jsonData env frame.data
  else
    match s.m_tunnelProxySockets.value frame.socketAddress with
    | none => s
    | some tunnelProxySocket => s.emit (.dataReceived tunnelProxySocket frame.data)

def closeFrame (m_dataBuffer : QByteArray) (s : TunnelProxySocketServer) :
    QByteArray × TunnelProxySocketServer :=
  let frameData := SlipDataProcessor.deserializeData m_dataBuffer
  if QByteArray.isNull frameData then ([],s)
  else ([],s.processFrame env (SlipDataProcessor.parseFrame frameData))

def slipData (s : TunnelProxySocketServer) (data : QByteArray) : TunnelProxySocketServer :=
  let r := Delimited.run SlipDataProcessor.ProtocolByteEnd (closeFrame env) (s.m_dataBuffer,s) data
  { r.2 with m_dataBuffer := r.1 }

def onConnectionDataAvailable (s : TunnelProxySocketServer) (data : QByteArray) :
    TunnelProxySocketServer :=
  let s := { s with m_keepAliveTimer := s.m_keepAliveTimer.start s.now }
  if s.m_state ≠ .StateRunning then { s.jsonData env data with m_dataBuffer := [] }
  else s.slipData env data

def cleanUp (s : TunnelProxySocketServer) : TunnelProxySocketServer :=
  let s := s.m_tunnelProxySockets.keys.foldl onTunnelProxyClientDisconnected s
  { s with
    m_connection := none
    m_remoteProxyServer := ""
    m_remoteProxyServerName := ""
    m_remoteProxyServerVersion := ""
    m_remoteProxyApiVersion := "" }.setState .StateDisconnected

def startServer (s : TunnelProxySocketServer) (serverUrl : QUrl) : TunnelProxySocketServer :=
  if !serverUrl.isValid || serverUrl.toString.isEmpty then s
  else
    let s := { s with m_serverUrl := serverUrl }.cleanUp
    let s := { s with
      m_connection := some s.connections
      connections := s.connections + 1
      m_jsonClient := .new }
    { s.emit (.connectServer (s.connections - 1) serverUrl) with m_enabled := true }

def stopServer (s : TunnelProxySocketServer) : TunnelProxySocketServer :=
  let s := { s with m_enabled := false, m_reconnectTimer := s.m_reconnectTimer.stop }
  if s.m_connection.isSome then s.emit .disconnectServer else s

def onConnectionChanged (s : TunnelProxySocketServer) (connected : Bool) :
    TunnelProxySocketServer :=
  if connected then
    let s := { s.setState .StateConnected with m_serverError := .ErrorNoError }
    (s.setState .StateInitializing).request (callHello env) .onHelloFinished
  else ((s.setState .StateDisconnected).setServerError .ErrorNotConnected).cleanUp

def onConnectionStateChanged (s : TunnelProxySocketServer) (state : SocketState) :
    TunnelProxySocketServer :=
  match state with
  | .UnconnectedState => s.setState .StateDisconnected
  | .HostLookupState => s.setState .StateHostLookup
  | .ConnectingState => s.setState .StateConnecting
  | .ConnectedState =>
    let s := s.setState .StateConnected
    { s with m_reconnectTimer := s.m_reconnectTimer.stop }
  | .ClosingState => s.setState .StateDiconnecting
  | .BoundState => s
  | .ListeningState => s

def requestSocketDisconnect (s : TunnelProxySocketServer) (socketAddress : UInt16) :
    TunnelProxySocketServer :=
  s.request (callDisconnectClient env socketAddress) .disconnectFinished

def writeData (s : TunnelProxySocketServer) (socket : TunnelProxySocket) (data : QByteArray) :
    TunnelProxySocketServer :=
  s.emit (.sendData (socket.writeData data))

def keepAliveTimeout (s : TunnelProxySocketServer) : TunnelProxySocketServer :=
  if s.m_keepAliveTimer.due s.now then
    let s := { s with m_keepAliveTimer := s.m_keepAliveTimer.timeout s.now }
    if s.m_state = .StateRunning then s.request (callPing env (s.now / 1000)) .pingFinished
    else { s with m_keepAliveTimer := s.m_keepAliveTimer.stop }
  else s

end TunnelProxySocketServer

end RemoteProxy
