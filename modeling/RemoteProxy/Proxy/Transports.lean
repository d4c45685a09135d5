import RemoteProxy.Library.WebSocket
import RemoteProxy.Proxy.Statistics

namespace RemoteProxy

abbrev Socket := Nat

inductive Signal where
  | clientConnected (clientId : QUuid) (address : String)
  | clientDisconnected (clientId : QUuid)
  | dataAvailable (clientId : QUuid) (data : QByteArray)

/-- `openedAt` is when the connection came in, and `closed` whether `close` has been called. -/
structure SslClient where
  peerAddress : String
  isEncrypted : Bool
  closed : Bool
  m_timer : QTimer
  openedAt : Nat

instance : Inhabited SslClient := ⟨⟨"",false,false,⟨5000,true,none⟩,0⟩⟩

namespace SslClient

def new (address : String) (now : Nat) : SslClient where
  peerAddress := address
  isEncrypted := false
  closed := false
  m_timer := ⟨5000,true,none⟩
  openedAt := now

def startWaitingForEncrypted (c : SslClient) (now : Nat) : SslClient :=
  { c with m_timer := c.m_timer.start now }

def encrypted (c : SslClient) : SslClient :=
  { c with isEncrypted := true, m_timer := c.m_timer.stop }

def close (c : SslClient) : SslClient := { c with closed := true }

def timeout (c : SslClient) (now : Nat) : SslClient :=
  if c.m_timer.due now then { c with m_timer := c.m_timer.timeout now }.close else c

end SslClient

structure SslServer where
  m_sslEnabled : Bool
  m_clients : List Socket
  socket : Socket → SslClient

namespace SslServer

def setSocket (s : SslServer) (socket : Socket) (c : SslClient) : SslServer :=
  { s with socket := Function.update s.socket socket c }

def incomingConnection (s : SslServer) (now : Nat) (socket : Socket) (address : String) :
    SslServer :=
  let sslSocket := SslClient.new address now
  let sslSocket := if s.m_sslEnabled then sslSocket.startWaitingForEncrypted now else sslSocket
  { s.setSocket socket sslSocket with m_clients := s.m_clients ++ [socket] }

def removeAll (s : SslServer) (socket : Socket) : SslServer :=
  { s with m_clients := s.m_clients.filter (· != socket) }

def tellsDisconnected (qt6 : Bool) (s : SslServer) (socket : Socket) : Bool :=
  if s.m_sslEnabled then qt6 || (s.socket socket).isEncrypted else true

def tellsData (s : SslServer) (socket : Socket) : Bool :=
  !(s.m_sslEnabled && !(s.socket socket).isEncrypted)

end SslServer

structure TcpSocketServer where
  m_clientList : QHash QUuid Socket
  m_server : SslServer

namespace TcpSocketServer

def connectionsCount (s : TcpSocketServer) : Nat := s.m_clientList.count

def onSocketConnected (s : TcpSocketServer) (createUuid : QUuid) (client : Socket) :
    TcpSocketServer × List Signal :=
  ({ s with m_clientList := s.m_clientList.insert createUuid client },
    [.clientConnected createUuid (s.m_server.socket client).peerAddress])

def onSocketDisconnected (s : TcpSocketServer) (client : Socket) :
    TcpSocketServer × List Signal :=
  let clientId := s.m_clientList.key client
  if clientId.isNull then (s,[])
  else ({ s with m_clientList := s.m_clientList.remove clientId },[.clientDisconnected clientId])

def onDataAvailable (s : TcpSocketServer) (client : Socket) (data : QByteArray) :
    List Signal :=
  let clientId := s.m_clientList.key client
  if clientId.isNull then [] else [.dataAvailable clientId data]

def disconnected (qt6 : Bool) (s : TcpSocketServer) (socket : Socket) :
    TcpSocketServer × List Signal :=
  let r := if s.m_server.tellsDisconnected qt6 socket then s.onSocketDisconnected socket else (s,[])
  ({ r.1 with m_server := r.1.m_server.removeAll socket },r.2)

def killClientConnection (s : TcpSocketServer) (clientId : QUuid) :
    TcpSocketServer × Option Socket :=
  match s.m_clientList.value clientId with
  | none => (s,none)
  | some client =>
    ({ s with m_server := s.m_server.setSocket client (s.m_server.socket client).close },some client)

inductive Event where
  | incomingConnection (socket : Socket) (address : String)
  | encrypted (socket : Socket)
  | readyRead (socket : Socket) (data : QByteArray)
  | disconnected (socket : Socket)
  | timeout (socket : Socket)
  | errorOccurred (socket : Socket)

def Event.socket : Event → Socket
  | .incomingConnection socket _ => socket
  | .encrypted socket => socket
  | .readyRead socket _ => socket
  | .disconnected socket => socket
  | .timeout socket => socket
  | .errorOccurred socket => socket

def step (qt6 : Bool) (now : Nat) (createUuid : QUuid) (s : TcpSocketServer) :
    Event → TcpSocketServer × List Signal
  | .incomingConnection socket address =>
    let s := { s with m_server := s.m_server.incomingConnection now socket address }
    if s.m_server.m_sslEnabled then (s,[]) else s.onSocketConnected createUuid socket
  | .encrypted socket =>
    let s := { s with
      m_server := s.m_server.setSocket socket (s.m_server.socket socket).encrypted }
    s.onSocketConnected createUuid socket
  | .readyRead socket data =>
    (s,if s.m_server.tellsData socket then s.onDataAvailable socket data else [])
  | .disconnected socket => s.disconnected qt6 socket
  | .timeout socket =>
    ({ s with
        m_server := s.m_server.setSocket socket ((s.m_server.socket socket).timeout now) },[])
  | .errorOccurred socket =>
    ({ s with m_server := s.m_server.setSocket socket (s.m_server.socket socket).close },[])

/-- Each connection is an object of its own, and is encrypted once, where that is asked for. -/
def Possible (s : TcpSocketServer) : Event → Prop
  | .incomingConnection socket _ => socket ∉ s.m_server.m_clients
  | .encrypted socket => socket ∈ s.m_server.m_clients ∧ s.m_server.m_sslEnabled = true ∧
      (s.m_server.socket socket).isEncrypted = false
  | _ => True

instance decidablePossible (s : TcpSocketServer) : (event : Event) → Decidable (s.Possible event)
  | .incomingConnection socket _ => inferInstanceAs (Decidable (socket ∉ s.m_server.m_clients))
  | .encrypted _ => inferInstanceAs (Decidable (_ ∧ _ ∧ _))
  | .readyRead _ _ => inferInstanceAs (Decidable True)
  | .disconnected _ => inferInstanceAs (Decidable True)
  | .timeout _ => inferInstanceAs (Decidable True)
  | .errorOccurred _ => inferInstanceAs (Decidable True)

end TcpSocketServer

namespace WebSocketServer

def connectionsCount (s : WebSocketServer) : Nat := s.m_clientList.count

def Version13 : Nat := 13

/-- `client` is what `nextPendingConnection` returns: its socket, its version and its address. -/
def onClientConnected (s : WebSocketServer) (createUuid : QUuid)
    (client : Option (Socket × Nat × String)) : WebSocketServer × List Signal :=
  match client with
  | none => (s,[])
  | some (client,version,address) =>
    if version ≠ Version13 then (s,[])
    else ({ s with m_clientList := s.m_clientList.insert createUuid client },
      [.clientConnected createUuid address])

def onClientDisconnected (s : WebSocketServer) (client : Socket) :
    WebSocketServer × List Signal :=
  let clientId := s.m_clientList.key client
  ({ s with m_clientList := s.m_clientList.remove clientId },[.clientDisconnected clientId])

def killClientConnection (s : WebSocketServer) (clientId : QUuid) : Option Socket :=
  s.m_clientList.value clientId

inductive Event where
  | newConnection (client : Option (Socket × Nat × String))
  | textMessageReceived (client : Socket) (message : List Char)
  | binaryMessageReceived (client : Socket) (data : QByteArray)
  | disconnected (client : Socket)
  | error (client : Socket)

def step (createUuid : QUuid) (s : WebSocketServer) : Event → WebSocketServer × List Signal
  | .newConnection client => s.onClientConnected createUuid client
  | .textMessageReceived client message =>
    (s,[.dataAvailable (s.onTextMessageReceived client message).1
      (s.onTextMessageReceived client message).2])
  | .binaryMessageReceived _ _ => (s,[])
  | .disconnected client => s.onClientDisconnected client
  | .error _ => (s,[])

def Possible (s : WebSocketServer) : Event → Prop
  | .newConnection (some (client,_,_)) => client ∉ s.m_clientList.values
  | .disconnected client => client ∈ s.m_clientList.values
  | _ => True

instance decidablePossible (s : WebSocketServer) : (event : Event) → Decidable (s.Possible event)
  | .newConnection none => inferInstanceAs (Decidable True)
  | .newConnection (some (client,_,_)) =>
    inferInstanceAs (Decidable (client ∉ s.m_clientList.values))
  | .textMessageReceived _ _ => inferInstanceAs (Decidable True)
  | .binaryMessageReceived _ _ => inferInstanceAs (Decidable True)
  | .disconnected client => inferInstanceAs (Decidable (client ∈ s.m_clientList.values))
  | .error _ => inferInstanceAs (Decidable True)

end WebSocketServer

/-- `captured` is the id that the slot of a socket's `readyRead` was given. -/
structure UnixSocketServer where
  m_clientList : QHash QUuid Socket
  captured : Socket → QUuid

namespace UnixSocketServer

def connectionsCount (s : UnixSocketServer) : Nat := s.m_clientList.count

def onClientConnected (s : UnixSocketServer) (createUuid : QUuid) (client : Socket) :
    UnixSocketServer × List Signal :=
  ({ s with
      m_clientList := s.m_clientList.insert createUuid client
      captured := Function.update s.captured client createUuid },
    [.clientConnected createUuid "127.0.0.1"])

def disconnected (s : UnixSocketServer) (client : Socket) : UnixSocketServer × List Signal :=
  let clientId := s.m_clientList.key client
  ({ s with m_clientList := s.m_clientList.remove clientId },
    if s.m_clientList.contains clientId then [.clientDisconnected clientId] else [])

def killClientConnection (s : UnixSocketServer) (clientId : QUuid) : Option Socket :=
  s.m_clientList.value clientId

inductive Event where
  | newConnection (client : Socket)
  | readyRead (client : Socket) (data : QByteArray)
  | disconnected (client : Socket)

def step (createUuid : QUuid) (s : UnixSocketServer) : Event → UnixSocketServer × List Signal
  | .newConnection client => s.onClientConnected createUuid client
  | .readyRead client data => (s,[.dataAvailable (s.captured client) data])
  | .disconnected client => s.disconnected client

def Possible (s : UnixSocketServer) : Event → Prop
  | .newConnection client => client ∉ s.m_clientList.values
  | _ => True

instance decidablePossible (s : UnixSocketServer) : (event : Event) → Decidable (s.Possible event)
  | .newConnection client => inferInstanceAs (Decidable (client ∉ s.m_clientList.values))
  | .readyRead _ _ => inferInstanceAs (Decidable True)
  | .disconnected _ => inferInstanceAs (Decidable True)

end UnixSocketServer

end RemoteProxy
