import RemoteProxy.Foundation.Runs
import RemoteProxy.Library.FrameStream
import RemoteProxy.Library.ProxyConnection

namespace RemoteProxy.TunnelProxySocketServer

open JsonRpcClient ProxyConnection SlipDataProcessor

/-- A server with all connection objects it has made; `handled` lists the signals of its JSON client
with the state that each of them found, and `crashed` tells of the use of a null `m_connection` or
`m_jsonClient`. -/
structure Host where
  server : TunnelProxySocketServer
  m_connectionType : ConnectionType
  connection : Nat → ProxyConnection
  handled : List (JsonRpcClient.Signal × TunnelProxySocketServer)
  crashed : Bool

namespace Host

def new (serverUuid : QUuid) (serverName : String) (connectionType : ConnectionType) : Host where
  server := .new serverUuid serverName
  m_connectionType := connectionType
  connection := fun _ => ⟨false,false⟩
  handled := []
  crashed := false

def lift (w : Host) (f : TunnelProxySocketServer → TunnelProxySocketServer) : Host :=
  { w with server := f w.server }

def crash (w : Host) : Host := { w with crashed := true }

variable (env : Qt)

def onSignal (w : Host) : ProxyConnection.Signal → Host
  | .connectedChanged connected =>
    if connected && w.server.m_connection.isNone then w.crash
    else w.lift (·.onConnectionChanged env connected)
  | .stateChanged state => w.lift (·.onConnectionStateChanged state)

def onSocketSignal (connection : Nat) (w : Host) (x : SocketSignal) : Host :=
  let r := (w.connection connection).onSocketSignal x
  r.2.foldl (onSignal env) { w with connection := Function.update w.connection connection r.1 }

def deliver (connection : Nat) (w : Host) (signals : List SocketSignal) : Host :=
  signals.foldl (onSocketSignal env connection) w

section Slots

variable (closing : List SocketSignal)

/-- `m_connection->disconnectServer()`; `closing` is what the socket reports before it returns. -/
def disconnectServer (w : Host) : Host :=
  match w.server.m_connection with
  | none => w.crash
  | some connection => deliver env connection (w.lift (·.emit .disconnectServer)) closing

def refuse (w : Host) : Host :=
  (disconnectServer env closing w).lift (·.setServerError .ErrorConnectionError)

def onHelloFinished (w : Host) (reply : Nat) : Host :=
  let response := (w.server.m_jsonClient.reply reply).m_response
  if env.toString (response.value "status") ≠ "success" then refuse env closing w
  else w.lift (TunnelProxySocketServer.onHelloFinished env · reply)

def onServerRegistrationFinished (w : Host) (reply : Nat) : Host :=
  let response := (w.server.m_jsonClient.reply reply).m_response
  if env.toString (response.value "status") ≠ "success" then refuse env closing w
  else
    let responseParams := (response.value "params").toMap
    if env.toString (responseParams.value "tunnelProxyError") ≠ "TunnelProxyErrorNoError" then
      refuse env closing w
    else w.lift (TunnelProxySocketServer.onServerRegistrationFinished env · reply)

def slot (signal : JsonRpcClient.Signal) (w : Host) : Host :=
  match signal with
  | .finished reply =>
    match w.server.finishedSlot reply with
    | .onHelloFinished => onHelloFinished env closing w reply
    | .onServerRegistrationFinished => onServerRegistrationFinished env closing w reply
    | .disconnectFinished => w
    | .pingFinished => w
  | signal => w.lift (TunnelProxySocketServer.slot env signal)

def note (w : Host) (signal : JsonRpcClient.Signal) : Host :=
  { w with handled := w.handled ++ [(signal,w.server)] }

def owner : Owner Host where
  client w := w.server.m_jsonClient
  setClient w c := w.lift fun s => { s with m_jsonClient := c }
  slot signal w := slot env closing signal (w.note signal)

def jsonData (w : Host) (data : QByteArray) : Host :=
  if w.server.m_connection.isNone then w.crash
  else JsonRpcClient.processData env (owner env closing) w data

def processFrame (w : Host) (frame : Frame) : Host :=
  let w := w.lift (·.emit (.frameReceived frame))
  if frame.socketAddress = 0x0000 then
    jsonData env closing (w.lift (·.emit (.jsonReceived frame.data))) frame.data
  else
    match w.server.m_tunnelProxySockets.value frame.socketAddress with
    | none => w
    | some tunnelProxySocket => w.lift (·.emit (.dataReceived tunnelProxySocket frame.data))

def closeFrame (m_dataBuffer : QByteArray) (w : Host) : QByteArray × Host :=
  let frameData := deserializeData m_dataBuffer
  if QByteArray.isNull frameData then ([],w)
  else ([],processFrame env closing w (parseFrame frameData))

def setDataBuffer (w : Host) (m_dataBuffer : QByteArray) : Host :=
  w.lift fun s => { s with m_dataBuffer := m_dataBuffer }

def slipData (w : Host) (data : QByteArray) : Host :=
  let r := Delimited.run ProtocolByteEnd (closeFrame env closing) (w.server.m_dataBuffer,w) data
  r.2.setDataBuffer r.1

def restartKeepAlive (w : Host) : Host :=
  w.lift fun s => { s with m_keepAliveTimer := s.m_keepAliveTimer.start s.now }

def onConnectionDataAvailable (w : Host) (data : QByteArray) : Host :=
  let w := w.restartKeepAlive
  if w.server.m_state ≠ .StateRunning then (jsonData env closing w data).setDataBuffer []
  else slipData env closing w data

end Slots

def openConnection (w : Host) (serverUrl : QUrl) : Host :=
  { w with
    server := { w.server.startServer serverUrl with m_enabled := w.server.m_enabled }
    connection := Function.update w.connection w.server.connections
      (connecting w.m_connectionType serverUrl) }

/-- `startServer` up to the return of `connectServer`, within which the socket may report states. -/
def connectServer (w : Host) (serverUrl : QUrl) (during : List SocketState) : Host :=
  deliver env w.server.connections (w.openConnection serverUrl) (during.map .stateChanged)

def startServer (w : Host) (serverUrl : QUrl) (during : List SocketState) : Host :=
  if !serverUrl.isValid || serverUrl.toString.isEmpty then w
  else (connectServer env w serverUrl during).lift fun s => { s with m_enabled := true }

def stopServer (w : Host) (closing : List SocketSignal) : Host :=
  let w := w.lift fun s =>
    { s with m_enabled := false, m_reconnectTimer := s.m_reconnectTimer.stop }
  if w.server.m_connection.isSome then disconnectServer env closing w else w

def reconnectTimeout (w : Host) (during : List SocketState) : Host :=
  if w.server.m_reconnectTimer.due w.server.now then
    let w := w.lift fun s => { s with m_reconnectTimer := s.m_reconnectTimer.timeout s.now }
    if !w.server.m_enabled then
      w.lift fun s => { s with m_reconnectTimer := s.m_reconnectTimer.stop }
    else if w.server.m_state = .StateDisconnected then
      startServer env w w.server.m_serverUrl during
    else w
  else w

def keepAliveTimeout (w : Host) : Host :=
  if w.server.m_keepAliveTimer.due w.server.now && w.server.m_state = .StateRunning &&
      w.server.m_connection.isNone then w.crash
  else w.lift (·.keepAliveTimeout env)

def requestSocketDisconnect (w : Host) (socketAddress : UInt16) : Host :=
  if w.server.m_connection.isNone then w.crash
  else w.lift (·.requestSocketDisconnect env socketAddress)

def writeData (w : Host) (socketAddress : UInt16) (data : QByteArray) : Host :=
  match w.server.m_tunnelProxySockets.value socketAddress with
  | none => w
  | some socket => w.lift (·.writeData socket data)

/-- What the application, the timers and the sockets of the connections do; a socket may report
several changes at once. -/
inductive Event where
  | startServer (serverUrl : QUrl) (during : List SocketState)
  | stopServer (closing : List SocketSignal)
  | reconnectTimeout (during : List SocketState)
  | keepAliveTimeout
  | requestSocketDisconnect (socketAddress : UInt16)
  | writeData (socketAddress : UInt16) (data : QByteArray)
  | socket (connection : Nat) (signals : List SocketSignal)
  | dataReceived (connection : Nat) (data : QByteArray) (closing : List SocketSignal)
  | elapse (ms : Nat)

def step (w : Host) : Event → Host
  | .startServer serverUrl during => startServer env w serverUrl during
  | .stopServer closing => stopServer env w closing
  | .reconnectTimeout during => reconnectTimeout env w during
  | .keepAliveTimeout => keepAliveTimeout env w
  | .requestSocketDisconnect socketAddress => requestSocketDisconnect env w socketAddress
  | .writeData socketAddress data => writeData w socketAddress data
  | .socket connection signals => deliver env connection w signals
  | .dataReceived _ data closing => onConnectionDataAvailable env closing w data
  | .elapse ms => w.lift fun s => { s with now := s.now + ms }

abbrev run : Host → List Event → Host := Runs.run (step env)

def Current (w : Host) : Event → Prop
  | .socket connection _ => w.server.m_connection = some connection
  | .dataReceived connection _ _ => w.server.m_connection = some connection
  | _ => True

instance (w : Host) : DecidablePred (Current w)
  | .socket connection _ => inferInstanceAs (Decidable (w.server.m_connection = some connection))
  | .dataReceived connection _ _ =>
    inferInstanceAs (Decidable (w.server.m_connection = some connection))
  | .startServer _ _ => inferInstanceAs (Decidable True)
  | .stopServer _ => inferInstanceAs (Decidable True)
  | .reconnectTimeout _ => inferInstanceAs (Decidable True)
  | .keepAliveTimeout => inferInstanceAs (Decidable True)
  | .requestSocketDisconnect _ => inferInstanceAs (Decidable True)
  | .writeData _ _ => inferInstanceAs (Decidable True)
  | .elapse _ => inferInstanceAs (Decidable True)

theorem dataAvailable_json {env : Qt} {closing : List SocketSignal} {w : Host}
    (h : w.server.m_state ≠ .StateRunning) (data : QByteArray) :
    onConnectionDataAvailable env closing w data =
      (jsonData env closing w.restartKeepAlive data).setDataBuffer [] := if_pos h

theorem dataAvailable_slip {env : Qt} {closing : List SocketSignal} {w : Host}
    (h : w.server.m_state = .StateRunning) (data : QByteArray) :
    onConnectionDataAvailable env closing w data =
      slipData env closing w.restartKeepAlive data := if_neg (not_not.mpr h)

section Connections

variable {env : Qt}

theorem onSignal_connection (w : Host) (x : ProxyConnection.Signal) :
    (onSignal env w x).connection = w.connection := by
  cases x with
  | connectedChanged connected =>
    simp only [onSignal]
    split
    · rfl
    · rfl
  | stateChanged state => rfl

theorem signals_connection (signals : List ProxyConnection.Signal) (w : Host) :
    (signals.foldl (onSignal env) w).connection = w.connection := by
  induction signals generalizing w with
  | nil => rfl
  | cons x signals ih => exact (ih _).trans (onSignal_connection w x)

theorem onSocketSignal_connection (w : Host) (connection : Nat) (x : SocketSignal) :
    (onSocketSignal env connection w x).connection =
      Function.update w.connection connection ((w.connection connection).onSocketSignal x).1 :=
  signals_connection _ _

theorem openConnection_connection (w : Host) (serverUrl : QUrl) :
    (w.openConnection serverUrl).connection w.server.connections =
      connecting w.m_connectionType serverUrl := Function.update_self _ _ _

end Connections

section Rules

variable {env : Qt} {P : TunnelProxySocketServer → Prop} {closing : List SocketSignal} {w : Host}

/-- What a server preserves whatever its connections report and when. -/
structure Reported (env : Qt) (P : TunnelProxySocketServer → Prop) : Prop where
  disconnecting : ∀ s, P s → P (s.emit .disconnectServer)
  changed : ∀ s connected, P s → P (s.onConnectionChanged env connected)
  stateChanged : ∀ s state, P s → P (s.onConnectionStateChanged state)

structure Preserved (env : Qt) (P : TunnelProxySocketServer → Prop) : Prop extends
    Reported env P where
  serverError : ∀ s error, P s → P (s.setServerError error)
  slot : ∀ s signal, P s → P (TunnelProxySocketServer.slot env signal s)
  jsonClient : ∀ s c, P s → P { s with m_jsonClient := c }

structure Received (env : Qt) (P : TunnelProxySocketServer → Prop) : Prop extends
    Preserved env P where
  output : ∀ s o, P s → P (s.emit o)
  dataBuffer : ∀ s b, P s → P { s with m_dataBuffer := b }
  keepAlive : ∀ s t, P s → P { s with m_keepAliveTimer := t }

structure Called (env : Qt) (P : TunnelProxySocketServer → Prop) : Prop extends
    Reported env P where
  started : ∀ s serverUrl, P s → P { s.startServer serverUrl with m_enabled := s.m_enabled }
  enabled : ∀ s b, P s → P { s with m_enabled := b }
  reconnectTimer : ∀ s t, P s → P { s with m_reconnectTimer := t }
  keepAliveTimeout : ∀ s, P s → P (s.keepAliveTimeout env)
  requestSocketDisconnect : ∀ s socketAddress, P s → P (s.requestSocketDisconnect env socketAddress)
  writeData : ∀ s socket data, P s → P (s.writeData socket data)
  elapse : ∀ s ms, P s → P { s with now := s.now + ms }

namespace Reported

theorem onSignal (h : Reported env P) (hw : P w.server) (x : ProxyConnection.Signal) :
    P (onSignal env w x).server := by
  cases x with
  | connectedChanged connected =>
    simp only [Host.onSignal]
    split
    · exact hw
    · exact h.changed _ _ hw
  | stateChanged state => exact h.stateChanged _ _ hw

theorem onSocketSignal (h : Reported env P) (hw : P w.server) (connection : Nat)
    (x : SocketSignal) : P (onSocketSignal env connection w x).server := by
  have hfold : ∀ (signals : List ProxyConnection.Signal) (w : Host), P w.server →
      P (signals.foldl (Host.onSignal env) w).server := by
    intro signals
    induction signals with
    | nil => exact fun w hw => hw
    | cons x signals ih => exact fun w hw => ih _ (h.onSignal hw x)
  exact hfold _ _ hw

theorem deliver (h : Reported env P) (hw : P w.server) (connection : Nat)
    (signals : List SocketSignal) : P (deliver env connection w signals).server := by
  induction signals generalizing w with
  | nil => exact hw
  | cons x signals ih => exact ih (h.onSocketSignal hw connection x)

theorem disconnectServer (h : Reported env P) (hw : P w.server) :
    P (disconnectServer env closing w).server := by
  rw [Host.disconnectServer]
  split
  · exact hw
  · exact h.deliver (w := w.lift (·.emit .disconnectServer)) (h.disconnecting _ hw) _ _

end Reported

namespace Preserved

theorem refuse (h : Preserved env P) (hw : P w.server) : P (refuse env closing w).server :=
  h.serverError _ _ (h.disconnectServer hw)

theorem hostSlot (h : Preserved env P) (hw : P w.server) (signal : JsonRpcClient.Signal) :
    P (Host.slot env closing signal w).server := by
  cases signal with
  | finished reply =>
    have hslot := h.slot w.server (.finished reply) hw
    simp only [TunnelProxySocketServer.slot] at hslot
    simp only [Host.slot]
    cases hf : w.server.finishedSlot reply with
    | onHelloFinished =>
      rw [hf] at hslot
      simp only [Host.onHelloFinished]
      split
      · exact h.refuse hw
      · exact hslot
    | onServerRegistrationFinished =>
      rw [hf] at hslot
      simp only [Host.onServerRegistrationFinished]
      split
      · exact h.refuse hw
      · split
        · exact h.refuse hw
        · exact hslot
    | disconnectFinished => exact hw
    | pingFinished => exact hw
  | tunnelEstablished clientName clientUuid =>
    exact h.slot w.server (.tunnelEstablished clientName clientUuid) hw
  | tunnelProxyClientConnected clientName clientUuid clientPeerAddress socketAddress =>
    exact h.slot w.server
      (.tunnelProxyClientConnected clientName clientUuid clientPeerAddress socketAddress) hw
  | tunnelProxyClientDisonnected socketAddress =>
    exact h.slot w.server (.tunnelProxyClientDisonnected socketAddress) hw

theorem handle (h : Preserved env P) (hw : P w.server) (packet : QByteArray) :
    P (JsonRpcClient.handle env (owner env closing) packet w).server := by
  simp only [JsonRpcClient.handle]
  split
  · exact h.jsonClient _ _ hw
  · next signal _ =>
    exact h.hostSlot (w := ((owner env closing).setClient w
      (processDataPacket env w.server.m_jsonClient packet).1).note signal) (h.jsonClient _ _ hw) _

theorem jsonData (h : Preserved env P) (hw : P w.server) (data : QByteArray) :
    P (jsonData env closing w data).server := by
  rw [Host.jsonData]
  split
  · exact hw
  · exact JsonRpcClient.processData_preserves (P := fun w : Host => P w.server)
      (fun packet w hw => h.handle hw packet) (fun w b hw => h.jsonClient _ _ hw) hw data

end Preserved

namespace Received

theorem processFrame (h : Received env P) (hw : P w.server) (frame : Frame) :
    P (processFrame env closing w frame).server := by
  have hlogged : P (w.lift (·.emit (.frameReceived frame))).server := h.output _ _ hw
  simp only [Host.processFrame]
  split
  · exact h.jsonData (w := (w.lift (·.emit (.frameReceived frame))).lift
      (·.emit (.jsonReceived frame.data))) (h.output _ _ hlogged) _
  · split
    · exact hlogged
    · exact h.output _ _ hlogged

theorem closeFrame (h : Received env P) (buf : QByteArray) (hw : P w.server) :
    P (closeFrame env closing buf w).2.server := by
  simp only [Host.closeFrame]
  split
  · exact hw
  · exact h.processFrame hw _

theorem slipData (h : Received env P) (hw : P w.server) (data : QByteArray) :
    P (slipData env closing w data).server :=
  h.dataBuffer _ _ (Delimited.run_preserves (P := fun w : Host => P w.server) _ _
    (fun buf _ hw => h.closeFrame buf hw) _ hw data)

theorem received (h : Received env P) (hw : P w.server) (data : QByteArray) :
    P (onConnectionDataAvailable env closing w data).server := by
  have hkeep : P w.restartKeepAlive.server := h.keepAlive _ _ hw
  simp only [onConnectionDataAvailable]
  split
  · exact h.dataBuffer _ _ (h.jsonData hkeep data)
  · exact h.slipData hkeep data

end Received

namespace Called

theorem connectServer (h : Called env P) (hw : P w.server) (serverUrl : QUrl)
    (during : List SocketState) : P (connectServer env w serverUrl during).server :=
  h.deliver (w := w.openConnection serverUrl) (h.started _ _ hw) _ _

theorem startServer (h : Called env P) (hw : P w.server) (serverUrl : QUrl)
    (during : List SocketState) : P (startServer env w serverUrl during).server := by
  rw [Host.startServer]
  split
  · exact hw
  · exact h.enabled _ _ (h.connectServer hw serverUrl during)

theorem reconnectTimeout (h : Called env P) (hw : P w.server) (during : List SocketState) :
    P (reconnectTimeout env w during).server := by
  have hticked : P (w.lift fun s =>
      { s with m_reconnectTimer := s.m_reconnectTimer.timeout s.now }).server :=
    h.reconnectTimer _ _ hw
  simp only [Host.reconnectTimeout]
  split
  · generalize (w.lift fun s =>
      { s with m_reconnectTimer := s.m_reconnectTimer.timeout s.now }) = v at hticked ⊢
    split
    · exact h.reconnectTimer _ _ hticked
    · split
      · exact h.startServer hticked _ during
      · exact hticked
  · exact hw

theorem step (h : Called env P) (hw : P w.server) {event : Event}
    (hevent : ∀ connection data closing, event ≠ .dataReceived connection data closing) :
    P (step env w event).server := by
  cases event with
  | startServer serverUrl during => exact h.startServer hw serverUrl during
  | stopServer closing =>
    have hstopped : P (w.lift fun s =>
        { s with m_enabled := false, m_reconnectTimer := s.m_reconnectTimer.stop }).server :=
      h.reconnectTimer _ _ (h.enabled _ false hw)
    simp only [Host.step,Host.stopServer]
    split
    · exact h.disconnectServer hstopped
    · exact hstopped
  | reconnectTimeout during => exact h.reconnectTimeout hw during
  | keepAliveTimeout =>
    simp only [Host.step,Host.keepAliveTimeout]
    split
    · exact hw
    · exact h.keepAliveTimeout _ hw
  | requestSocketDisconnect socketAddress =>
    simp only [Host.step,Host.requestSocketDisconnect]
    split
    · exact hw
    · exact h.requestSocketDisconnect _ _ hw
  | writeData socketAddress data =>
    simp only [Host.step,Host.writeData]
    split
    · exact hw
    · exact h.writeData _ _ _ hw
  | socket connection signals => exact h.deliver hw connection signals
  | dataReceived connection data closing => exact absurd rfl (hevent connection data closing)
  | elapse ms => exact h.elapse _ _ hw

end Called

end Rules

end Host

end RemoteProxy.TunnelProxySocketServer
