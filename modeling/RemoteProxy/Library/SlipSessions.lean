import RemoteProxy.Library.ServerHost
import RemoteProxy.Library.ServerSwitch

namespace RemoteProxy.TunnelProxySocketServer

open JsonRpcClient ProxyConnection SlipDataProcessor

variable {env : Qt} {s : TunnelProxySocketServer}

/-- The frames of a stream: what lies between its END bytes, but for what does not decode. -/
def decodable (stream : QByteArray) : List Frame :=
  (Delimited.segments ProtocolByteEnd stream).flatMap fun segment =>
    let frameData := deserializeData segment
    if QByteArray.isNull frameData then [] else [parseFrame frameData]

theorem reassemble_decodable (stream : QByteArray) :
    (reassemble [] stream).2 = decodable stream := by
  have hcollect : ∀ (buf : QByteArray) (frames : List Frame), collect buf frames =
      ([],frames ++ if QByteArray.isNull (deserializeData buf) then []
        else [parseFrame (deserializeData buf)]) := by
    intro buf frames
    simp only [collect]
    split
    · rw [List.append_nil]
    · rfl
  exact Delimited.run_segments hcollect List.not_mem_nil [] stream

section Reports

abbrev SocketTable := UInt16 → Option TunnelProxySocket

/-- The sockets as of a further report: those of the clients announced and not gone. -/
def tableAfter (sockets : SocketTable) : Output → SocketTable
  | .clientConnected socket => Function.update sockets socket.m_socketAddress (some socket)
  | .clientDisconnected socket => Function.update sockets socket.m_socketAddress none
  | _ => sockets

/-- Where the data of a frame go: to the JSON client, to the socket of its address, or nowhere. -/
def delivered (sockets : SocketTable) (frame : Frame) : List Output :=
  if frame.socketAddress = 0x0000 then [.jsonReceived frame.data]
  else (sockets frame.socketAddress).toList.map (.dataReceived · frame.data)

/-- The reports tell of these frames, once each and in order, with the data of each delivered at
once, and of no data besides. -/
inductive Reports : SocketTable → List Output → List Frame → Prop where
  | nil {sockets : SocketTable} : Reports sockets [] []
  | other {sockets : SocketTable} {o : Output} {new : List Output} {frames : List Frame} :
      o.isTraffic = false → Reports (tableAfter sockets o) new frames →
      Reports sockets (o :: new) frames
  | frame {sockets : SocketTable} {frame : Frame} {new : List Output} {frames : List Frame} :
      Reports sockets new frames →
      Reports sockets (.frameReceived frame :: (delivered sockets frame ++ new)) (frame :: frames)

theorem tableAfter_delivered (sockets : SocketTable) (frame : Frame) (new : List Output) :
    (.frameReceived frame :: (delivered sockets frame ++ new)).foldl tableAfter sockets =
      new.foldl tableAfter sockets := by
  have hnone : (delivered sockets frame).foldl tableAfter sockets = sockets := by
    rw [delivered]
    split
    · rfl
    · cases sockets frame.socketAddress with
      | none => rfl
      | some socket => rfl
  rw [List.foldl_cons,List.foldl_append]
  exact congrArg (List.foldl tableAfter · new) hnone

theorem Reports.append {sockets : SocketTable} {new more : List Output} {frames later : List Frame}
    (h : Reports sockets new frames) (hmore : Reports (new.foldl tableAfter sockets) more later) :
    Reports sockets (new ++ more) (frames ++ later) := by
  induction h with
  | nil => exact hmore
  | other ho _ ih => exact .other ho (ih hmore)
  | @frame sockets frame new frames _ ih =>
    rw [tableAfter_delivered] at hmore
    rw [List.cons_append,List.cons_append,List.append_assoc]
    exact .frame (ih hmore)

def socketTable (s : TunnelProxySocketServer) : SocketTable := s.m_tunnelProxySockets.value

def Handles (s t : TunnelProxySocketServer) (frames : List Frame) : Prop :=
  ∃ new, t.output = s.output ++ new ∧ Reports s.socketTable new frames ∧
    new.foldl tableAfter s.socketTable = t.socketTable

variable {t u : TunnelProxySocketServer} {frames later : List Frame}

theorem Handles.refl (s : TunnelProxySocketServer) : Handles s s [] :=
  ⟨[],(List.append_nil _).symm,.nil,rfl⟩

theorem Handles.trans (h : Handles s t frames) (h' : Handles t u later) :
    Handles s u (frames ++ later) := by
  obtain ⟨new,hout,hreports,htable⟩ := h
  obtain ⟨more,hout',hreports',htable'⟩ := h'
  refine ⟨new ++ more,by rw [hout',hout,List.append_assoc],hreports.append (htable ▸ hreports'),?_⟩
  rw [List.foldl_append,htable,htable']

theorem Handles.single {o : Output} (ho : o.isTraffic = false) (hout : t.output = s.output ++ [o])
    (htable : t.socketTable = tableAfter s.socketTable o) : Handles s t [] :=
  ⟨[o],hout,.other ho .nil,htable.symm⟩

theorem Handles.frame {frame : Frame}
    (hout : t.output = s.output ++ .frameReceived frame :: delivered s.socketTable frame)
    (hsockets : t.m_tunnelProxySockets = s.m_tunnelProxySockets) : Handles s t [frame] := by
  have htable : t.socketTable = s.socketTable := by rw [socketTable,hsockets,socketTable]
  have hreports : Reports s.socketTable (.frameReceived frame :: (delivered s.socketTable frame ++ []))
      [frame] := .frame .nil
  refine ⟨.frameReceived frame :: (delivered s.socketTable frame ++ []),?_,hreports,?_⟩
  · rw [List.append_nil]
    exact hout
  · rw [tableAfter_delivered]
    exact htable.symm

end Reports

section Untouched

def Keyed (s : TunnelProxySocketServer) : Prop :=
  ∀ a socket, s.socketTable a = some socket → socket.m_socketAddress = a

structure Untouched (base s : TunnelProxySocketServer) : Prop where
  keyed : Keyed s
  handles : Handles base s []
  dataBuffer : s.m_dataBuffer = base.m_dataBuffer

variable {base t : TunnelProxySocketServer}

theorem Untouched.refl (h : Keyed s) : Untouched s s := ⟨h,.refl s,rfl⟩

theorem Untouched.congr (h : Untouched base s) (hbuffer : t.m_dataBuffer = s.m_dataBuffer)
    (hout : t.output = s.output) (hsockets : t.m_tunnelProxySockets = s.m_tunnelProxySockets) :
    Untouched base t := by
  have htable : t.socketTable = s.socketTable := by rw [socketTable,hsockets,socketTable]
  have hsilent : Handles s t [] := ⟨[],hout.trans (List.append_nil _).symm,.nil,htable.symm⟩
  refine ⟨?_,h.handles.trans hsilent,hbuffer.trans h.dataBuffer⟩
  rw [Keyed,htable]
  exact h.keyed

theorem Untouched.silent (h : Untouched base s) {o : Output}
    (ho : o.isTraffic = false) (htable : tableAfter s.socketTable o = s.socketTable)
    (hbuffer : t.m_dataBuffer = s.m_dataBuffer) (houtput : t.output = s.output ++ [o])
    (hsockets : t.m_tunnelProxySockets = s.m_tunnelProxySockets) : Untouched base t := by
  have hsame : t.socketTable = s.socketTable := by rw [socketTable,hsockets,socketTable]
  refine ⟨?_,h.handles.trans (.single ho houtput (hsame.trans htable.symm)),
    hbuffer.trans h.dataBuffer⟩
  rw [Keyed,hsame]
  exact h.keyed

theorem Untouched.restated (h : Untouched base s) (hrestated : Restated s t) :
    Untouched base t := by
  obtain ⟨told,hout,htold⟩ := hrestated.told
  have hsame : t.socketTable = s.socketTable := by rw [socketTable,hrestated.sockets,socketTable]
  have hstatus : ∀ (told : List Output), (∀ o ∈ told, Output.isStatus o = true) →
      ∀ sockets, Reports sockets told [] ∧ told.foldl tableAfter sockets = sockets := by
    intro told
    induction told with
    | nil => exact fun _ sockets => ⟨.nil,rfl⟩
    | cons o told ih =>
      intro htold sockets
      have ho := htold o List.mem_cons_self
      have hnone : o.isTraffic = false ∧ tableAfter sockets o = sockets := by
        cases o with
        | frameReceived => cases ho
        | jsonReceived => cases ho
        | dataReceived => cases ho
        | clientConnected => cases ho
        | clientDisconnected => cases ho
        | _ => exact ⟨rfl,rfl⟩
      have hrest := ih (fun x hx => htold x (List.mem_cons_of_mem o hx)) sockets
      rw [List.foldl_cons,hnone.2]
      exact ⟨.other hnone.1 (hnone.2.symm ▸ hrest.1),hrest.2⟩
  obtain ⟨hreports,htable⟩ := hstatus told htold s.socketTable
  refine ⟨?_,h.handles.trans ⟨told,hout,hreports,htable.trans hsame.symm⟩,
    hrestated.dataBuffer.trans h.dataBuffer⟩
  rw [Keyed,hsame]
  exact h.keyed

theorem Untouched.clientConnected (h : Untouched base s) (clientName : String) (clientUuid : QUuid)
    (clientPeerAddress : String) (socketAddress : UInt16) :
    Untouched base (s.onTunnelProxyClientConnected clientName clientUuid clientPeerAddress
      socketAddress) := by
  have htable : (s.onTunnelProxyClientConnected clientName clientUuid clientPeerAddress
      socketAddress).socketTable = Function.update s.socketTable socketAddress
        (some (.new clientName clientUuid clientPeerAddress socketAddress)) := by
    funext a
    rw [Function.update_apply]
    exact QHash.value_insert _ _ _ _
  refine ⟨?_,h.handles.trans (.single (o := .clientConnected (.new clientName clientUuid
    clientPeerAddress socketAddress)) rfl rfl htable),h.dataBuffer⟩
  intro a socket hs
  rw [htable,Function.update_apply] at hs
  split at hs
  · next ha =>
    obtain rfl := Option.some.inj hs
    exact ha.symm
  · exact h.keyed a socket hs

theorem Untouched.clientDisconnected (h : Untouched base s) (socketAddress : UInt16) :
    Untouched base (s.onTunnelProxyClientDisconnected socketAddress) := by
  rw [onTunnelProxyClientDisconnected]
  split
  · exact h
  · next tunnelProxySocket hsocket =>
    have haddress : tunnelProxySocket.m_socketAddress = socketAddress :=
      h.keyed socketAddress tunnelProxySocket hsocket
    generalize ht : ({ s with m_tunnelProxySockets :=
      s.m_tunnelProxySockets.remove socketAddress }.emit
        (.clientDisconnected tunnelProxySocket.setDisconnected)) = t
    have htable : t.socketTable = Function.update s.socketTable socketAddress none := by
      subst ht
      funext a
      rw [Function.update_apply]
      exact QHash.value_remove _ _ _
    have hafter : tableAfter s.socketTable (.clientDisconnected tunnelProxySocket.setDisconnected) =
        Function.update s.socketTable socketAddress none := haddress ▸ rfl
    refine ⟨?_,h.handles.trans (.single (o := .clientDisconnected
      tunnelProxySocket.setDisconnected) rfl (ht ▸ rfl) (htable.trans hafter.symm)),
      ht ▸ h.dataBuffer⟩
    intro a socket hs
    rw [htable,Function.update_apply] at hs
    split at hs
    · cases hs
    · exact h.keyed a socket hs

theorem Untouched.cleanUp (h : Untouched base s) : Untouched base s.cleanUp := by
  have hsockets : ∀ (addresses : List UInt16) (s : TunnelProxySocketServer),
      Untouched base s →
        Untouched base (addresses.foldl onTunnelProxyClientDisconnected s) := by
    intro addresses
    induction addresses with
    | nil => exact fun s h => h
    | cons socketAddress addresses ih => exact fun s h => ih _ (h.clientDisconnected socketAddress)
  have hgone := hsockets s.m_tunnelProxySockets.keys s h
  exact Untouched.restated (s := { s.m_tunnelProxySockets.keys.foldl
    onTunnelProxyClientDisconnected s with m_connection := none })
    (hgone.congr rfl rfl rfl) (cleanUp_restated s)

theorem untouched_preserved (env : Qt) (base : TunnelProxySocketServer) :
    Host.Preserved env (Untouched base) where
  disconnecting s h := h.silent (o := .disconnectServer) rfl rfl rfl rfl rfl
  changed s connected h := by
    cases connected with
    | true => exact h.restated (connected_restated env s)
    | false =>
      exact ((h.restated (setState_restated s _)).restated (setServerError_restated _ _)).cleanUp
  stateChanged s state h := h.restated (stateChanged_restated s state)
  serverError s error h := h.restated (setServerError_restated s error)
  slot s signal h := by
    cases signal with
    | finished reply => exact h.restated (finished_restated env s reply)
    | tunnelEstablished => exact h
    | tunnelProxyClientConnected clientName clientUuid clientPeerAddress socketAddress =>
      exact h.clientConnected clientName clientUuid clientPeerAddress socketAddress
    | tunnelProxyClientDisonnected socketAddress => exact h.clientDisconnected socketAddress
  jsonClient s c h := h.congr rfl rfl rfl

theorem untouched_called (env : Qt) (base : TunnelProxySocketServer) :
    Host.Called env (Untouched base) where
  toReported := (untouched_preserved env base).toReported
  started s serverUrl h := by
    rw [startServer]
    split
    · exact h.congr rfl rfl rfl
    · have hclean : Untouched base { s with m_serverUrl := serverUrl }.cleanUp :=
        Untouched.cleanUp (h.congr rfl rfl rfl)
      exact hclean.silent (o := .connectServer
        { s with m_serverUrl := serverUrl }.cleanUp.connections serverUrl) rfl rfl rfl rfl rfl
  enabled s b h := h.congr rfl rfl rfl
  reconnectTimer s t h := h.congr rfl rfl rfl
  keepAliveTimeout s h := h.restated (keepAliveTimeout_restated env s)
  requestSocketDisconnect s socketAddress h := h.restated (request_restated s _ _)
  writeData s socket data h :=
    h.silent (o := .sendData (socket.writeData data)) rfl rfl rfl rfl rfl
  elapse s ms h := h.congr rfl rfl rfl

end Untouched

namespace Host

variable {w : Host} {closing : List SocketSignal}

theorem called_down (env : Qt) : Called env fun s => s.m_state ≠ .StateRunning where
  disconnecting s h := h
  changed s connected h := by
    cases connected with
    | true =>
      have hstate : (s.onConnectionChanged env true).m_state = .StateInitializing :=
        setState_m_state _ _
      rw [hstate]
      decide
    | false =>
      have hstate : (s.onConnectionChanged env false).m_state = .StateDisconnected :=
        setState_m_state _ _
      rw [hstate]
      decide
  stateChanged s state h := by
    cases state with
    | BoundState => exact h
    | ListeningState => exact h
    | _ =>
      simp only [onConnectionStateChanged,setState_m_state]
      decide
  started s serverUrl h := by
    rw [TunnelProxySocketServer.startServer]
    split
    · exact h
    · have hstate : ({ s with m_serverUrl := serverUrl }.cleanUp).m_state = .StateDisconnected :=
        setState_m_state _ _
      exact hstate ▸ by decide
  enabled s b h := h
  reconnectTimer s t h := h
  keepAliveTimeout s h := by
    rw [TunnelProxySocketServer.keepAliveTimeout]
    split
    · rw [if_neg h]
      exact h
    · exact h
  requestSocketDisconnect s socketAddress h := h
  writeData s socket data h := h
  elapse s ms h := h

variable (env closing) in
theorem processFrame_handles (hkeyed : Keyed w.server) (frame : Frame) :
    Keyed (processFrame env closing w frame).server ∧
      Handles w.server (processFrame env closing w frame).server [frame] ∧
      (processFrame env closing w frame).server.m_dataBuffer = w.server.m_dataBuffer := by
  simp only [processFrame]
  split
  · next hzero =>
    generalize hv : (w.lift (·.emit (.frameReceived frame))).lift
      (·.emit (.jsonReceived frame.data)) = v
    have hframe : Handles w.server v.server [frame] := by
      refine .frame ?_ (hv ▸ rfl)
      rw [delivered,if_pos hzero,← hv]
      exact List.append_assoc _ _ _
    have hjson : Untouched v.server (jsonData env closing v frame.data).server :=
      (untouched_preserved env _).jsonData (.refl (hv ▸ hkeyed)) frame.data
    exact ⟨hjson.keyed,hframe.trans hjson.handles,hjson.dataBuffer.trans (hv ▸ rfl)⟩
  · next hzero =>
    split
    · next hnone =>
      have hsocket : w.server.socketTable frame.socketAddress = none := hnone
      refine ⟨hkeyed,.frame ?_ rfl,rfl⟩
      rw [delivered,if_neg hzero,hsocket]
      rfl
    · next tunnelProxySocket hsome =>
      have hsocket : w.server.socketTable frame.socketAddress = some tunnelProxySocket := hsome
      refine ⟨hkeyed,.frame ?_ rfl,rfl⟩
      rw [delivered,if_neg hzero,hsocket]
      exact List.append_assoc _ _ _

theorem slipData_handles (hkeyed : Keyed w.server) (data : QByteArray) :
    Keyed (slipData env closing w data).server ∧
      Handles w.server (slipData env closing w data).server
        (reassemble w.server.m_dataBuffer data).2 ∧
      (slipData env closing w data).server.m_dataBuffer =
        (reassemble w.server.m_dataBuffer data).1 := by
  have hfold : ∀ (frames : List Frame) (w : Host), Keyed w.server →
      Keyed (frames.foldl (processFrame env closing) w).server ∧
        Handles w.server (frames.foldl (processFrame env closing) w).server frames := by
    intro frames
    induction frames with
    | nil => exact fun w hw => ⟨hw,.refl _⟩
    | cons frame frames ih =>
      intro w hw
      obtain ⟨hnext,hone,-⟩ := processFrame_handles env closing hw frame
      obtain ⟨hlast,hrest⟩ := ih _ hnext
      exact ⟨hlast,hone.trans hrest⟩
  have hclose : ∀ (buf : QByteArray) (w : Host), closeFrame env closing buf w =
      ((collect buf []).1,(collect buf []).2.foldl (processFrame env closing) w) := by
    intro buf w
    simp only [closeFrame,collect]
    split
    · rfl
    · rfl
  have hrun := Delimited.run_fold ProtocolByteEnd collect_accumulate hclose
    w.server.m_dataBuffer w data
  simp only [slipData,hrun]
  obtain ⟨hlast,hall⟩ := hfold (reassemble w.server.m_dataBuffer data).2 w hkeyed
  exact ⟨hlast,hall,rfl⟩

def Event.data : Event → QByteArray
  | .dataReceived _ data _ => data
  | _ => []

def arrived (events : List Event) : QByteArray := events.flatMap Event.data

theorem step_running (env : Qt) (hkeyed : Keyed w.server)
    (hrunning : w.server.m_state = .StateRunning) (event : Event) :
    Keyed (step env w event).server ∧
      Handles w.server (step env w event).server
        (reassemble w.server.m_dataBuffer event.data).2 ∧
      (step env w event).server.m_dataBuffer =
        (reassemble w.server.m_dataBuffer event.data).1 := by
  by_cases hevent : ∃ connection data closing, event = .dataReceived connection data closing
  · obtain ⟨connection,data,closing,rfl⟩ := hevent
    rw [step,dataAvailable_slip hrunning]
    exact slipData_handles (w := w.restartKeepAlive) hkeyed data
  · have hne : ∀ connection data closing, event ≠ .dataReceived connection data closing :=
      fun connection data closing he => hevent ⟨connection,data,closing,he⟩
    have hkept := (untouched_called env w.server).step (w := w) (.refl hkeyed) hne
    have hdata : event.data = [] := by
      cases event with
      | dataReceived connection data closing => exact absurd rfl (hne connection data closing)
      | _ => rfl
    rw [hdata]
    exact ⟨hkept.keyed,hkept.handles,hkept.dataBuffer⟩

theorem run_running {session : List Event} (hkeyed : Keyed w.server)
    (hrunning : Runs.Always (step env) (fun w => w.server.m_state = .StateRunning) w session) :
    Handles w.server (run env w session).server
      (reassemble w.server.m_dataBuffer (arrived session)).2 := by
  induction session generalizing w with
  | nil => exact .refl _
  | cons event session ih =>
    obtain ⟨hnext,hone,hbuffer⟩ := step_running env hkeyed hrunning.1 event
    have hrest := ih hnext hrunning.2
    rw [hbuffer] at hrest
    rw [arrived,List.flatMap_cons,reassemble_append]
    exact hone.trans hrest

theorem step_keyed (env : Qt) (hkeyed : Keyed w.server) (event : Event) :
    Keyed (step env w event).server := by
  by_cases hrunning : w.server.m_state = .StateRunning
  · exact (step_running env hkeyed hrunning event).1
  · by_cases hevent : ∃ connection data closing, event = .dataReceived connection data closing
    · obtain ⟨connection,data,closing,rfl⟩ := hevent
      rw [step,dataAvailable_json hrunning]
      exact ((untouched_preserved env w.restartKeepAlive.server).jsonData
        (.refl hkeyed) data).keyed
    · refine ((untouched_called env w.server).step (.refl hkeyed)
        fun connection data closing he => ?_).keyed
      exact hevent ⟨connection,data,closing,he⟩

theorem run_keyed (env : Qt) (hkeyed : Keyed w.server) (events : List Event) :
    Keyed (run env w events).server := by
  induction events generalizing w with
  | nil => exact hkeyed
  | cons event events ih => exact ih (step_keyed env hkeyed event)

theorem entering_dataBuffer (hdown : w.server.m_state ≠ .StateRunning) {event : Event}
    (hrunning : (step env w event).server.m_state = .StateRunning) :
    (step env w event).server.m_dataBuffer = [] := by
  by_cases hevent : ∃ connection data closing, event = .dataReceived connection data closing
  · obtain ⟨connection,data,closing,rfl⟩ := hevent
    rw [step,dataAvailable_json hdown]
    rfl
  · refine absurd hrunning ((called_down env).step hdown fun connection data closing he => ?_)
    exact hevent ⟨connection,data,closing,he⟩

theorem entered_reassembled (hkeyed : Keyed w.server) (hdown : w.server.m_state ≠ .StateRunning)
    {entering : Event} {session : List Event}
    (hrunning : Runs.Always (step env) (fun w => w.server.m_state = .StateRunning)
      (step env w entering) session) :
    Handles (step env w entering).server (run env (step env w entering) session).server
      (decodable (arrived session)) := by
  have hframes := run_running (step_keyed env hkeyed entering) hrunning
  rw [entering_dataBuffer hdown hrunning.first] at hframes
  rw [← reassemble_decodable]
  exact hframes

/-- From where a server begins to run, and as long as it runs, the frames that it handles are those
of the bytes that arrive, whatever has been left over from before. -/
theorem session_reassembled (env : Qt) (serverUuid : QUuid) (serverName : String)
    (connectionType : ConnectionType) (before : List Event) (entering : Event)
    (session : List Event)
    (hdown : (run env (new serverUuid serverName connectionType) before).server.m_state ≠
      .StateRunning)
    (hrunning : Runs.Always (step env) (fun w => w.server.m_state = .StateRunning)
      (run env (new serverUuid serverName connectionType) (before ++ [entering])) session) :
    Handles (run env (new serverUuid serverName connectionType) (before ++ [entering])).server
      (run env (new serverUuid serverName connectionType)
        (before ++ entering :: session)).server (decodable (arrived session)) := by
  have hentered : run env (new serverUuid serverName connectionType) (before ++ [entering]) =
      step env (run env (new serverUuid serverName connectionType) before) entering :=
    Runs.run_append _ _ _
  have hwhole : run env (new serverUuid serverName connectionType) (before ++ entering :: session) =
      run env (step env (run env (new serverUuid serverName connectionType) before) entering)
        session :=
    Runs.run_append _ _ _
  have hkeyed : Keyed (run env (new serverUuid serverName connectionType) before).server :=
    run_keyed env (fun a socket h => by cases h) before
  rw [hentered] at hrunning ⊢
  rw [hwhole]
  exact entered_reassembled hkeyed hdown hrunning

def registeringRun (connection : Nat) : List Event :=
  [.startServer ⟨"tcp://127.0.0.1:2213",true⟩ [.HostLookupState,.ConnectingState],
    .socket connection [.stateChanged .ConnectedState],
    .dataReceived connection (JsonPackets.stream [helloLine.object]) []]

def registered (connection : Nat) : Event :=
  .dataReceived connection (JsonPackets.stream [registerLine.object]) []

/-- A session that breaks off within a frame, and the next one up to its last response. -/
def brokenOff : List Event :=
  registeringRun 0 ++ [registered 0,.dataReceived 0 ((encoded [⟨7,[0x42]⟩]).take 3) [],
    .socket 0 [.stateChanged .UnconnectedState,.disconnected]] ++ registeringRun 1

def sampleSession : List Event :=
  [.dataReceived 1 ((encoded [⟨1,[0x41]⟩]).take 2) [],
    .dataReceived 1 ((encoded [⟨1,[0x41]⟩]).drop 2) []]

theorem session_reassembled_sample :
    let env := Qt.onDocuments [helloResponse,registerServerResponse]
    let w := new ⟨1⟩ "server" .ConnectionTypeTcpSocket
    Handles (run env w (brokenOff ++ [registered 1])).server
      (run env w (brokenOff ++ registered 1 :: sampleSession)).server
      (decodable (arrived sampleSession)) :=
  session_reassembled (Qt.onDocuments [helloResponse,registerServerResponse]) ⟨1⟩ "server"
    .ConnectionTypeTcpSocket brokenOff (registered 1) sampleSession (by decide +kernel)
    (by decide +kernel)

end Host

end RemoteProxy.TunnelProxySocketServer
