import RemoteProxy.Foundation.Runs
import RemoteProxy.Library.ServerSession

namespace RemoteProxy.TunnelProxySocketServer

open JsonRpcClient SlipDataProcessor

/-- A server with what all its connections and their JSON clients have ever been wired to; `crashed`
tells of the use of a null `m_connection` or `m_jsonClient`. -/
structure Wired where
  server : TunnelProxySocketServer
  crashed : Bool

namespace Wired

inductive Emission where
  | connectedChanged (connected : Bool)
  | stateChanged (state : SocketState)
  | dataReceived (data : QByteArray)
  | finished (slot : FinishedSlot) (response : QVariantMap)
  | tunnelProxyClientConnected (clientName : String) (clientUuid : QUuid)
      (clientPeerAddress : String) (socketAddress : UInt16)
  | tunnelProxyClientDisonnected (socketAddress : UInt16)

/-- What an object emits while it is called is an event that follows. -/
inductive Event where
  | startServer (serverUrl : QUrl)
  | stopServer
  | reconnectTimeout
  | keepAliveTimeout
  | requestSocketDisconnect (socketAddress : UInt16)
  | writeData (socketAddress : UInt16) (data : QByteArray)
  | elapse (ms : Nat)
  | emitted (connection : Nat) (emission : Emission)

def new (serverUuid : QUuid) (serverName : String) : Wired := ⟨.new serverUuid serverName,false⟩

def lift (w : Wired) (f : TunnelProxySocketServer → TunnelProxySocketServer) : Wired :=
  { w with server := f w.server }

def call (w : Wired) (f : TunnelProxySocketServer → TunnelProxySocketServer) : Wired :=
  if w.server.m_connection.isNone then { w with crashed := true } else w.lift f

variable (env : Qt)

def processFrame (w : Wired) (frame : Frame) : Wired :=
  let w := w.lift (·.emit (.frameReceived frame))
  if frame.socketAddress = 0x0000 then w.call (·.emit (.jsonReceived frame.data))
  else
    match w.server.m_tunnelProxySockets.value frame.socketAddress with
    | none => w
    | some tunnelProxySocket => w.lift (·.emit (.dataReceived tunnelProxySocket frame.data))

def restartKeepAlive (w : Wired) : Wired :=
  w.lift fun s => { s with m_keepAliveTimer := s.m_keepAliveTimer.start s.now }

def setDataBuffer (w : Wired) (m_dataBuffer : QByteArray) : Wired :=
  w.lift fun s => { s with m_dataBuffer := m_dataBuffer }

def onConnectionDataAvailable (w : Wired) (data : QByteArray) : Wired :=
  let w := w.restartKeepAlive
  if w.server.m_state ≠ .StateRunning then
    (w.call (·.emit (.jsonReceived data))).setDataBuffer []
  else
    let r := reassemble w.server.m_dataBuffer data
    (r.2.foldl processFrame w).setDataBuffer r.1

def onHelloFinished (w : Wired) (response : QVariantMap) : Wired :=
  if env.toString (response.value "status") ≠ "success" then w.call refuse
  else
    w.call fun s =>
      let s := s.setRemoteProxy env (response.value "params").toMap
      (s.setState .StateRegister).request (callRegisterServer env s.m_serverUuid s.m_serverName)
        .onServerRegistrationFinished

def onServerRegistrationFinished (w : Wired) (response : QVariantMap) : Wired :=
  if env.toString (response.value "status") ≠ "success" then w.call refuse
  else
    let responseParams := (response.value "params").toMap
    if env.toString (responseParams.value "tunnelProxyError") ≠ "TunnelProxyErrorNoError" then
      w.call refuse
    else w.lift fun s => { s.setState .StateRunning with m_serverError := .ErrorNoError }

def react (w : Wired) : Emission → Wired
  | .connectedChanged connected =>
    if connected then w.call (·.onConnectionChanged env true)
    else w.lift (·.onConnectionChanged env false)
  | .stateChanged state => w.lift (·.onConnectionStateChanged state)
  | .dataReceived data => w.onConnectionDataAvailable data
  | .finished slot response =>
    match slot with
    | .onHelloFinished => w.onHelloFinished env response
    | .onServerRegistrationFinished => w.onServerRegistrationFinished env response
    | .disconnectFinished => w
    | .pingFinished => w
  | .tunnelProxyClientConnected clientName clientUuid clientPeerAddress socketAddress =>
    w.lift (·.onTunnelProxyClientConnected clientName clientUuid clientPeerAddress socketAddress)
  | .tunnelProxyClientDisonnected socketAddress =>
    w.lift (·.onTunnelProxyClientDisconnected socketAddress)

def reconnectTimeout (w : Wired) : Wired :=
  if w.server.m_reconnectTimer.due w.server.now then
    let w := w.lift fun s => { s with m_reconnectTimer := s.m_reconnectTimer.timeout s.now }
    if !w.server.m_enabled then
      w.lift fun s => { s with m_reconnectTimer := s.m_reconnectTimer.stop }
    else if w.server.m_state = .StateDisconnected then w.lift fun s => s.startServer s.m_serverUrl
    else w
  else w

def keepAliveTimeout (w : Wired) : Wired :=
  if w.server.m_keepAliveTimer.due w.server.now && w.server.m_state = .StateRunning then
    w.call (·.keepAliveTimeout env)
  else w.lift (·.keepAliveTimeout env)

def writeData (w : Wired) (socketAddress : UInt16) (data : QByteArray) : Wired :=
  match w.server.m_tunnelProxySockets.value socketAddress with
  | none => w
  | some socket => w.lift (·.writeData socket data)

def step (w : Wired) : Event → Wired
  | .startServer serverUrl => w.lift (·.startServer serverUrl)
  | .stopServer => w.lift stopServer
  | .reconnectTimeout => w.reconnectTimeout
  | .keepAliveTimeout => w.keepAliveTimeout env
  | .requestSocketDisconnect socketAddress => w.call (·.requestSocketDisconnect env socketAddress)
  | .writeData socketAddress data => w.writeData socketAddress data
  | .elapse ms => w.lift fun s => { s with now := s.now + ms }
  | .emitted _ emission => w.react env emission

def Superseded (w : Wired) (connection : Nat) : Prop := w.server.m_connection ≠ some connection

instance (w : Wired) (connection : Nat) : Decidable (Superseded w connection) :=
  inferInstanceAs (Decidable (w.server.m_connection ≠ some connection))

end Wired

def Output.isEffect : Output → Bool
  | .connectServer _ _ => true
  | .disconnectServer => true
  | .sendData _ => true
  | .jsonReceived _ => true
  | .clientConnected _ => true
  | .clientDisconnected _ => true
  | _ => false

def effects (s : TunnelProxySocketServer) : List Output := s.output.filter Output.isEffect

namespace Wired

/-- Nothing has been done to the state, to the connection and its client, and to the sockets. -/
structure Same (w w' : Wired) : Prop where
  state : w'.server.m_state = w.server.m_state
  connection : w'.server.m_connection = w.server.m_connection
  sockets : w'.server.m_tunnelProxySockets = w.server.m_tunnelProxySockets
  effects : w'.server.effects = w.server.effects
  crashed : w'.crashed = w.crashed

def stateOf : SocketState → Option State
  | .UnconnectedState => some .StateDisconnected
  | .HostLookupState => some .StateHostLookup
  | .ConnectingState => some .StateConnecting
  | .ConnectedState => some .StateConnected
  | .ClosingState => some .StateDiconnecting
  | .BoundState => none
  | .ListeningState => none

def Harmless (env : Qt) (s : TunnelProxySocketServer) : Emission → Prop
  | .connectedChanged true => False
  | .connectedChanged false =>
    s.m_state = .StateDisconnected ∧ s.m_connection = none ∧ s.m_tunnelProxySockets.keys = []
  | .stateChanged state => ∀ state', stateOf state = some state' → s.m_state = state'
  | .dataReceived data => s.m_state = .StateRunning ∧
    ∀ frame ∈ (reassemble s.m_dataBuffer data).2, frame.socketAddress ≠ 0x0000
  | .finished .onHelloFinished _ => False
  | .finished .onServerRegistrationFinished response =>
    env.toString (response.value "status") = "success" ∧
      env.toString ((response.value "params").toMap.value "tunnelProxyError") =
        "TunnelProxyErrorNoError" ∧ s.m_state = .StateRunning
  | .finished .disconnectFinished _ => True
  | .finished .pingFinished _ => True
  | .tunnelProxyClientConnected _ _ _ _ => False
  | .tunnelProxyClientDisonnected socketAddress =>
    s.m_tunnelProxySockets.value socketAddress = none

variable {env : Qt} {w : Wired} {s : TunnelProxySocketServer}

theorem effects_emit_silent (s : TunnelProxySocketServer) {o : Output}
    (h : o.isEffect = false) : (s.emit o).effects = s.effects := by
  simp [TunnelProxySocketServer.effects,emit,h]

theorem effects_emit_ne (s : TunnelProxySocketServer) {o : Output} (h : o.isEffect = true) :
    (s.emit o).effects ≠ s.effects := by
  simp [TunnelProxySocketServer.effects,emit,h]

theorem effects_setState (s : TunnelProxySocketServer) (state : State) :
    (s.setState state).effects = s.effects := by
  have hrunning (t : TunnelProxySocketServer) (running : Bool) :
      (t.setRunning running).effects = t.effects := by
    rw [setRunning]
    split
    · rfl
    · exact effects_emit_silent _ rfl
  have hreconnect (t : TunnelProxySocketServer) : t.reconnectIfDown.effects = t.effects := by
    rw [reconnectIfDown]
    split
    · rfl
    · rfl
  rw [setState]
  split
  · rfl
  · rw [hreconnect,hrunning,effects_emit_silent _ rfl]
    rfl

theorem effects_setServerError (s : TunnelProxySocketServer) (error : Error) :
    (s.setServerError error).effects = s.effects := by
  rw [setServerError]
  split
  · rfl
  · exact effects_emit_silent _ rfl

theorem call_not_same {f : TunnelProxySocketServer → TunnelProxySocketServer}
    (hf : (f w.server).effects ≠ w.server.effects) (hcrashed : w.crashed = false) :
    ¬Same w (w.call f) := by
  rw [call]
  split
  · exact fun h => Bool.false_ne_true (hcrashed.symm.trans h.crashed.symm)
  · exact fun h => hf h.effects

theorem setState_same_iff (w : Wired) (state : State) :
    Same w (w.lift (·.setState state)) ↔ w.server.m_state = state := by
  have hrestated := setState_restated w.server state
  constructor
  · exact fun h => h.state.symm.trans (setState_m_state _ _)
  · rintro rfl
    exact ⟨setState_m_state _ _,hrestated.connection,hrestated.sockets,effects_setState _ _,rfl⟩

theorem stateChanged_same_iff (w : Wired) (state : SocketState) :
    Same w (w.lift (·.onConnectionStateChanged state)) ↔
      ∀ state', stateOf state = some state' → w.server.m_state = state' := by
  cases state with
  | BoundState => exact iff_of_true ⟨rfl,rfl,rfl,rfl,rfl⟩ fun _ h => by cases h
  | ListeningState => exact iff_of_true ⟨rfl,rfl,rfl,rfl,rfl⟩ fun _ h => by cases h
  | ConnectedState =>
    simp only [stateOf,Option.some.injEq,forall_eq']
    rw [← setState_same_iff w .StateConnected]
    exact ⟨fun h => ⟨h.state,h.connection,h.sockets,h.effects,h.crashed⟩,
      fun h => ⟨h.state,h.connection,h.sockets,h.effects,h.crashed⟩⟩
  | _ =>
    simp only [stateOf,Option.some.injEq,forall_eq']
    exact setState_same_iff w _

theorem cleanUp_empty (h : s.m_tunnelProxySockets.keys = []) :
    s.cleanUp.m_tunnelProxySockets = s.m_tunnelProxySockets ∧ s.cleanUp.effects = s.effects := by
  have hsockets := (cleanUp_restated s).sockets
  rw [h] at hsockets
  refine ⟨hsockets,?_⟩
  rw [cleanUp,h]
  exact effects_setState _ _

theorem disconnected_same_iff (env : Qt) (w : Wired) :
    Same w (w.lift (·.onConnectionChanged env false)) ↔ w.server.m_state = .StateDisconnected ∧
      w.server.m_connection = none ∧ w.server.m_tunnelProxySockets.keys = [] := by
  have hset := (setState_restated w.server .StateDisconnected).trans
    (setServerError_restated _ .ErrorNotConnected)
  constructor
  · intro h
    have hstate : (w.server.onConnectionChanged env false).m_state = .StateDisconnected :=
      setState_m_state _ _
    have hconnection : (w.server.onConnectionChanged env false).m_connection = none :=
      cleanUp_connection _
    have hkeys : (w.server.onConnectionChanged env false).m_tunnelProxySockets.keys = [] :=
      cleanUp_sockets _
    exact ⟨h.state.symm.trans hstate,h.connection.symm.trans hconnection,h.sockets ▸ hkeys⟩
  · rintro ⟨hstate,hconnection,hkeys⟩
    obtain ⟨hsockets,heffects⟩ := cleanUp_empty (hset.sockets ▸ hkeys)
    refine ⟨?_,?_,hsockets.trans hset.sockets,?_,rfl⟩
    · exact (setState_m_state _ _).trans hstate.symm
    · exact (cleanUp_connection _).trans hconnection.symm
    · exact heffects.trans ((effects_setServerError _ _).trans (effects_setState _ _))

theorem Same.trans {w' w'' : Wired} (h : Same w w') (h' : Same w' w'') : Same w w'' :=
  ⟨h'.state.trans h.state,h'.connection.trans h.connection,h'.sockets.trans h.sockets,
    h'.effects.trans h.effects,h'.crashed.trans h.crashed⟩

def Beyond (w w' : Wired) : Prop :=
  w'.crashed = true ∨ w.server.effects.length < w'.server.effects.length

theorem Beyond.not_same {w' : Wired} (h : Beyond w w') (hcrashed : w.crashed = false) :
    ¬Same w w' := by
  intro hsame
  rcases h with h | h
  · exact Bool.false_ne_true (hcrashed.symm.trans (hsame.crashed.symm.trans h))
  · rw [hsame.effects] at h
    exact Nat.lt_irrefl _ h

theorem processFrame_same (w : Wired) {frame : Frame} (h : frame.socketAddress ≠ 0x0000) :
    Same w (w.processFrame frame) := by
  have hlogged := effects_emit_silent w.server (o := .frameReceived frame) rfl
  simp only [processFrame,if_neg h]
  split
  · exact ⟨rfl,rfl,rfl,hlogged,rfl⟩
  · exact ⟨rfl,rfl,rfl,(effects_emit_silent _ rfl).trans hlogged,rfl⟩

theorem processFrame_beyond (w : Wired) {frame : Frame} (h : frame.socketAddress = 0x0000) :
    Beyond w (w.processFrame frame) := by
  have hlogged := effects_emit_silent w.server (o := .frameReceived frame) rfl
  simp only [processFrame,if_pos h,call]
  split
  · exact .inl rfl
  · refine .inr ?_
    rw [← hlogged]
    simp [lift,TunnelProxySocketServer.effects,emit,Output.isEffect]

theorem Beyond.frames {w' : Wired} (h : Beyond w w') (frames : List Frame) :
    Beyond w (frames.foldl processFrame w') := by
  induction frames generalizing w' with
  | nil => exact h
  | cons frame frames ih =>
    apply ih
    by_cases hzero : frame.socketAddress = 0x0000
    · rcases h with h | h
      · refine .inl ?_
        simp only [processFrame,if_pos hzero,call]
        split
        · rfl
        · exact h
      · exact (processFrame_beyond w' hzero).imp id fun hlt => h.trans hlt
    · have hsame := processFrame_same w' hzero
      rcases h with h | h
      · exact .inl (hsame.crashed.trans h)
      · exact .inr (hsame.effects.symm ▸ h)

theorem frames_same_iff (frames : List Frame) (w : Wired) (hcrashed : w.crashed = false) :
    Same w (frames.foldl processFrame w) ↔ ∀ frame ∈ frames, frame.socketAddress ≠ 0x0000 := by
  induction frames generalizing w with
  | nil => exact iff_of_true ⟨rfl,rfl,rfl,rfl,rfl⟩ fun _ h => absurd h List.not_mem_nil
  | cons frame frames ih =>
    by_cases hzero : frame.socketAddress = 0x0000
    · exact iff_of_false (((processFrame_beyond w hzero).frames frames).not_same hcrashed)
        fun h => h frame List.mem_cons_self hzero
    · have hsame := processFrame_same w hzero
      rw [List.foldl_cons,List.forall_mem_cons,← ih _ (hsame.crashed.trans hcrashed)]
      constructor
      · exact fun h => ⟨hzero,h.state.trans hsame.state.symm,h.connection.trans hsame.connection.symm,
          h.sockets.trans hsame.sockets.symm,h.effects.trans hsame.effects.symm,
          h.crashed.trans hsame.crashed.symm⟩
      · exact fun h => hsame.trans h.2

theorem setDataBuffer_same_iff (w w' : Wired) (m_dataBuffer : QByteArray) :
    Same w (w'.setDataBuffer m_dataBuffer) ↔ Same w w' :=
  ⟨fun h => ⟨h.state,h.connection,h.sockets,h.effects,h.crashed⟩,
    fun h => ⟨h.state,h.connection,h.sockets,h.effects,h.crashed⟩⟩

theorem restartKeepAlive_same_iff (w w' : Wired) : Same w.restartKeepAlive w' ↔ Same w w' :=
  ⟨fun h => ⟨h.state,h.connection,h.sockets,h.effects,h.crashed⟩,
    fun h => ⟨h.state,h.connection,h.sockets,h.effects,h.crashed⟩⟩

theorem dataReceived_same_iff (w : Wired) (data : QByteArray) (hcrashed : w.crashed = false) :
    Same w (w.onConnectionDataAvailable data) ↔ w.server.m_state = .StateRunning ∧
      ∀ frame ∈ (reassemble w.server.m_dataBuffer data).2, frame.socketAddress ≠ 0x0000 := by
  rw [← restartKeepAlive_same_iff]
  by_cases hrunning : w.server.m_state = .StateRunning
  · have hslip : w.onConnectionDataAvailable data =
        ((reassemble w.server.m_dataBuffer data).2.foldl processFrame
          w.restartKeepAlive).setDataBuffer (reassemble w.server.m_dataBuffer data).1 :=
      if_neg (not_not.mpr hrunning)
    rw [hslip,setDataBuffer_same_iff,frames_same_iff _ w.restartKeepAlive hcrashed]
    exact (and_iff_right hrunning).symm
  · have hjson : w.onConnectionDataAvailable data =
        (w.restartKeepAlive.call (·.emit (.jsonReceived data))).setDataBuffer [] := if_pos hrunning
    rw [hjson,setDataBuffer_same_iff]
    exact iff_of_false (call_not_same (effects_emit_ne _ rfl) hcrashed) fun h => hrunning h.1

theorem effects_refuse (s : TunnelProxySocketServer) :
    s.refuse.effects = (s.emit .disconnectServer).effects := effects_setServerError _ _

theorem refused_not_same (hcrashed : w.crashed = false) : ¬Same w (w.call refuse) :=
  call_not_same (effects_refuse w.server ▸ effects_emit_ne _ rfl) hcrashed

theorem effects_request (s : TunnelProxySocketServer) (call : JsonRpcClient → Called)
    (finished : FinishedSlot) : (s.request call finished).effects ≠ s.effects :=
  effects_emit_ne s (o := .sendData (call s.m_jsonClient).data) rfl

theorem helloFinished_not_same (env : Qt) (response : QVariantMap) (hcrashed : w.crashed = false) :
    ¬Same w (w.onHelloFinished env response) := by
  rw [onHelloFinished]
  split
  · exact refused_not_same hcrashed
  · refine call_not_same (fun h => ?_) hcrashed
    have hset : ((w.server.setRemoteProxy env (response.value "params").toMap).setState
        .StateRegister).effects = w.server.effects := effects_setState _ _
    exact effects_request _ _ _ (h.trans hset.symm)

theorem registrationFinished_same_iff (env : Qt) (response : QVariantMap)
    (hcrashed : w.crashed = false) : Same w (w.onServerRegistrationFinished env response) ↔
      env.toString (response.value "status") = "success" ∧
        env.toString ((response.value "params").toMap.value "tunnelProxyError") =
          "TunnelProxyErrorNoError" ∧ w.server.m_state = .StateRunning := by
  simp only [onServerRegistrationFinished]
  split
  · next hstatus => exact iff_of_false (refused_not_same hcrashed) fun h => hstatus h.1
  · next hstatus =>
    split
    · next herror => exact iff_of_false (refused_not_same hcrashed) fun h => herror h.2.1
    · next herror =>
      rw [and_iff_right (not_not.mp hstatus),and_iff_right (not_not.mp herror),
        ← setState_same_iff w .StateRunning]
      exact ⟨fun h => ⟨h.state,h.connection,h.sockets,h.effects,h.crashed⟩,
        fun h => ⟨h.state,h.connection,h.sockets,h.effects,h.crashed⟩⟩

theorem clientDisconnected_same_iff (w : Wired) (socketAddress : UInt16) :
    Same w (w.lift (·.onTunnelProxyClientDisconnected socketAddress)) ↔
      w.server.m_tunnelProxySockets.value socketAddress = none := by
  cases hv : w.server.m_tunnelProxySockets.value socketAddress with
  | none =>
    refine iff_of_true ?_ rfl
    rw [lift,onTunnelProxyClientDisconnected,hv]
    exact ⟨rfl,rfl,rfl,rfl,rfl⟩
  | some socket =>
    refine iff_of_false (fun h => ?_) fun h => by cases h
    have hgone := h.effects
    simp only [lift,onTunnelProxyClientDisconnected,hv] at hgone
    exact effects_emit_ne w.server (o := .clientDisconnected socket.setDisconnected) rfl hgone

theorem react_same_iff (w : Wired) (emission : Emission) (hcrashed : w.crashed = false) :
    Same w (w.react env emission) ↔ Harmless env w.server emission := by
  cases emission with
  | connectedChanged connected =>
    cases connected with
    | true =>
      refine iff_of_false (call_not_same (fun h => ?_) hcrashed) id
      have hset : (({ w.server.setState .StateConnected with
          m_serverError := .ErrorNoError } : TunnelProxySocketServer).setState
            .StateInitializing).effects = w.server.effects :=
        (effects_setState _ _).trans (effects_setState _ _)
      exact effects_request _ _ _ (h.trans hset.symm)
    | false => exact disconnected_same_iff env w
  | stateChanged state => exact stateChanged_same_iff w state
  | dataReceived data => exact dataReceived_same_iff w data hcrashed
  | finished slot response =>
    cases slot with
    | onHelloFinished => exact iff_of_false (helloFinished_not_same env response hcrashed) id
    | onServerRegistrationFinished => exact registrationFinished_same_iff env response hcrashed
    | disconnectFinished => exact iff_of_true ⟨rfl,rfl,rfl,rfl,rfl⟩ trivial
    | pingFinished => exact iff_of_true ⟨rfl,rfl,rfl,rfl,rfl⟩ trivial
  | tunnelProxyClientConnected clientName clientUuid clientPeerAddress socketAddress =>
    exact iff_of_false (fun h => effects_emit_ne _ rfl h.effects) id
  | tunnelProxyClientDisonnected socketAddress => exact clientDisconnected_same_iff w socketAddress

def Undisturbed (env : Qt) (w : Wired) : Event → Prop
  | .emitted connection emission =>
    w.crashed = false → Superseded w connection → Same w (w.react env emission)
  | _ => True

def Mute (env : Qt) (w : Wired) : Event → Prop
  | .emitted connection emission =>
    w.crashed = false → Superseded w connection → Harmless env w.server emission
  | _ => True

theorem undisturbed_iff (w : Wired) (event : Event) : Undisturbed env w event ↔ Mute env w event := by
  cases event with
  | emitted connection emission =>
    exact forall_congr' fun hcrashed => forall_congr' fun _ => react_same_iff w emission hcrashed
  | _ => exact Iff.rfl

end Wired

end RemoteProxy.TunnelProxySocketServer
