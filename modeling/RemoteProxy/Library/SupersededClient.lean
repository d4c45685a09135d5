import RemoteProxy.Foundation.Runs
import RemoteProxy.Library.ClientSwitch

namespace RemoteProxy.TunnelProxyRemoteConnection

open JsonRpcClient

/-- As for the server: a client with what all its connections have ever been wired to. -/
structure Wired where
  client : TunnelProxyRemoteConnection
  crashed : Bool

namespace Wired

inductive Emission where
  | connectedChanged (connected : Bool)
  | stateChanged (state : SocketState)
  | dataReceived (data : QByteArray)
  | finished (slot : FinishedSlot) (response : QVariantMap)

inductive Event where
  | connectServer (url : QUrl) (serverUuid : QUuid)
  | disconnectServer
  | sendData (data : QByteArray)
  | emitted (connection : Nat) (emission : Emission)

def new (clientUuid : QUuid) (clientName : String) : Wired := ⟨.new clientUuid clientName,false⟩

def lift (w : Wired) (f : TunnelProxyRemoteConnection → TunnelProxyRemoteConnection) : Wired :=
  { w with client := f w.client }

def call (w : Wired) (f : TunnelProxyRemoteConnection → TunnelProxyRemoteConnection) : Wired :=
  if w.client.m_connection.isNone then { w with crashed := true } else w.lift f

variable (env : Qt)

def onConnectionDataAvailable (w : Wired) (data : QByteArray) : Wired :=
  if w.client.m_state ≠ .StateRemoteConnected then w.call (·.emit (.jsonReceived data))
  else w.lift (·.emit (.dataReady data))

def onHelloFinished (w : Wired) (response : QVariantMap) : Wired :=
  if env.toString (response.value "status") ≠ "success" then
    w.call TunnelProxyRemoteConnection.disconnectServer
  else
    w.call fun s =>
      let s := s.setRemoteProxy env (response.value "params").toMap
      (s.setState .StateRegister).request
        (callRegisterClient env s.m_clientUuid s.m_clientName s.m_serverUuid)
        .onClientRegistrationFinished

def onClientRegistrationFinished (w : Wired) (response : QVariantMap) : Wired :=
  if env.toString (response.value "status") ≠ "success" then
    w.call TunnelProxyRemoteConnection.disconnectServer
  else
    let responseParams := (response.value "params").toMap
    if env.toString (responseParams.value "tunnelProxyError") ≠ "TunnelProxyErrorNoError" then
      w.call TunnelProxyRemoteConnection.disconnectServer
    else w.lift (·.setState .StateRemoteConnected)

def react (w : Wired) : Emission → Wired
  | .connectedChanged connected =>
    if connected then w.call (·.onConnectionChanged env true)
    else w.lift (·.onConnectionChanged env false)
  | .stateChanged state => w.lift (·.onConnectionStateChanged state)
  | .dataReceived data => w.onConnectionDataAvailable data
  | .finished slot response =>
    match slot with
    | .onHelloFinished => w.onHelloFinished env response
    | .onClientRegistrationFinished => w.onClientRegistrationFinished env response

def sendData (w : Wired) (data : QByteArray) : Wired :=
  if w.client.m_state = .StateRemoteConnected then w.call (·.emit (.sendData data)) else w

def step (w : Wired) : Event → Wired
  | .connectServer url serverUuid => w.lift (·.connectServer url serverUuid)
  | .disconnectServer => w.lift TunnelProxyRemoteConnection.disconnectServer
  | .sendData data => w.sendData data
  | .emitted _ emission => w.react env emission

def Superseded (w : Wired) (connection : Nat) : Prop := w.client.m_connection ≠ some connection

instance (w : Wired) (connection : Nat) : Decidable (Superseded w connection) :=
  inferInstanceAs (Decidable (w.client.m_connection ≠ some connection))

end Wired

def Output.isEffect : Output → Bool
  | .connectServer _ _ => true
  | .disconnectServer _ => true
  | .sendData _ => true
  | .jsonReceived _ => true
  | _ => false

def effects (s : TunnelProxyRemoteConnection) : List Output := s.output.filter Output.isEffect

namespace Wired

/-- Nothing has been done to the state and to the connection and its client. -/
structure Same (w w' : Wired) : Prop where
  state : w'.client.m_state = w.client.m_state
  connection : w'.client.m_connection = w.client.m_connection
  effects : w'.client.effects = w.client.effects
  crashed : w'.crashed = w.crashed

def stateOf : SocketState → Option State
  | .UnconnectedState => some .StateDisconnected
  | .HostLookupState => some .StateHostLookup
  | .ConnectingState => some .StateConnecting
  | .ConnectedState => some .StateConnected
  | .ClosingState => some .StateDiconnecting
  | .BoundState => none
  | .ListeningState => none

def Harmless (env : Qt) (s : TunnelProxyRemoteConnection) : Emission → Prop
  | .connectedChanged true => False
  | .connectedChanged false => s.m_state = .StateDisconnected ∧ s.m_connection = none
  | .stateChanged state => ∀ state', stateOf state = some state' → s.m_state = state'
  | .dataReceived _ => s.m_state = .StateRemoteConnected
  | .finished .onHelloFinished _ => False
  | .finished .onClientRegistrationFinished response =>
    env.toString (response.value "status") = "success" ∧
      env.toString ((response.value "params").toMap.value "tunnelProxyError") =
        "TunnelProxyErrorNoError" ∧ s.m_state = .StateRemoteConnected

variable {env : Qt} {w : Wired} {s : TunnelProxyRemoteConnection}

theorem effects_emit_silent (s : TunnelProxyRemoteConnection) {o : Output}
    (h : o.isEffect = false) : (s.emit o).effects = s.effects := by
  simp [TunnelProxyRemoteConnection.effects,emit,h]

theorem effects_emit_ne (s : TunnelProxyRemoteConnection) {o : Output} (h : o.isEffect = true) :
    (s.emit o).effects ≠ s.effects := by
  simp [TunnelProxyRemoteConnection.effects,emit,h]

theorem effects_setState (s : TunnelProxyRemoteConnection) (state : State) :
    (s.setState state).effects = s.effects := by
  have hset := effects_emit_silent { s with m_state := state } (o := .stateChanged state) rfl
  simp only [setState]
  split
  · rfl
  · split
    · exact (effects_emit_silent _ rfl).trans hset
    · exact hset

theorem setState_connection (s : TunnelProxyRemoteConnection) (state : State) :
    (s.setState state).m_connection = s.m_connection := by
  simp only [setState]
  split
  · rfl
  · split
    · rfl
    · rfl

theorem call_not_same {f : TunnelProxyRemoteConnection → TunnelProxyRemoteConnection}
    (hf : w.client.m_connection ≠ none → (f w.client).effects ≠ w.client.effects)
    (hcrashed : w.crashed = false) : ¬Same w (w.call f) := by
  rw [call]
  split
  · exact fun h => Bool.false_ne_true (hcrashed.symm.trans h.crashed.symm)
  · next hsome =>
    exact fun h => hf (fun hnone => hsome (Option.isNone_iff_eq_none.mpr hnone)) h.effects

theorem setState_same_iff (w : Wired) (state : State) :
    Same w (w.lift (·.setState state)) ↔ w.client.m_state = state := by
  constructor
  · exact fun h => h.state.symm.trans (setState_same _ _).2
  · rintro rfl
    exact ⟨(setState_same _ _).2,setState_connection _ _,effects_setState _ _,rfl⟩

theorem stateChanged_same_iff (w : Wired) (state : SocketState) :
    Same w (w.lift (·.onConnectionStateChanged state)) ↔
      ∀ state', stateOf state = some state' → w.client.m_state = state' := by
  cases state with
  | BoundState => exact iff_of_true ⟨rfl,rfl,rfl,rfl⟩ fun _ h => by cases h
  | ListeningState => exact iff_of_true ⟨rfl,rfl,rfl,rfl⟩ fun _ h => by cases h
  | _ =>
    simp only [stateOf,Option.some.injEq,forall_eq']
    exact setState_same_iff w _

theorem cleanUp_disconnected (s : TunnelProxyRemoteConnection) :
    s.cleanUp.m_state = .StateDisconnected ∧ s.cleanUp.m_connection = none ∧
      s.cleanUp.effects = s.effects :=
  ⟨(setState_same _ _).2,setState_connection _ _,effects_setState _ _⟩

theorem disconnected_same_iff (env : Qt) (w : Wired) :
    Same w (w.lift (·.onConnectionChanged env false)) ↔
      w.client.m_state = .StateDisconnected ∧ w.client.m_connection = none := by
  obtain ⟨hstate,hconnection,heffects⟩ := cleanUp_disconnected (w.client.setState .StateDisconnected)
  constructor
  · exact fun h => ⟨h.state.symm.trans hstate,h.connection.symm.trans hconnection⟩
  · exact fun h => ⟨hstate.trans h.1.symm,hconnection.trans h.2.symm,
      heffects.trans (effects_setState _ _),rfl⟩

theorem dataReceived_same_iff (w : Wired) (data : QByteArray) (hcrashed : w.crashed = false) :
    Same w (w.onConnectionDataAvailable data) ↔ w.client.m_state = .StateRemoteConnected := by
  by_cases hconnected : w.client.m_state = .StateRemoteConnected
  · rw [onConnectionDataAvailable,if_neg (not_not.mpr hconnected)]
    exact iff_of_true ⟨rfl,rfl,effects_emit_silent _ rfl,rfl⟩ hconnected
  · rw [onConnectionDataAvailable,if_pos hconnected]
    exact iff_of_false (call_not_same (fun _ => effects_emit_ne _ rfl) hcrashed) hconnected

theorem refused_not_same (hcrashed : w.crashed = false) :
    ¬Same w (w.call TunnelProxyRemoteConnection.disconnectServer) := by
  refine call_not_same (fun hsome => ?_) hcrashed
  obtain ⟨connection,hc⟩ := Option.ne_none_iff_exists'.mp hsome
  rw [TunnelProxyRemoteConnection.disconnectServer,hc]
  exact effects_emit_ne _ rfl

theorem effects_request (s : TunnelProxyRemoteConnection) (call : JsonRpcClient → Called)
    (finished : FinishedSlot) : (s.request call finished).effects ≠ s.effects :=
  effects_emit_ne s (o := .sendData (call s.m_jsonClient).data) rfl

theorem helloFinished_not_same (env : Qt) (response : QVariantMap) (hcrashed : w.crashed = false) :
    ¬Same w (w.onHelloFinished env response) := by
  rw [onHelloFinished]
  split
  · exact refused_not_same hcrashed
  · refine call_not_same (fun _ h => ?_) hcrashed
    have hset : ((w.client.setRemoteProxy env (response.value "params").toMap).setState
        .StateRegister).effects = w.client.effects := effects_setState _ _
    exact effects_request _ _ _ (h.trans hset.symm)

theorem registrationFinished_same_iff (env : Qt) (response : QVariantMap)
    (hcrashed : w.crashed = false) : Same w (w.onClientRegistrationFinished env response) ↔
      env.toString (response.value "status") = "success" ∧
        env.toString ((response.value "params").toMap.value "tunnelProxyError") =
          "TunnelProxyErrorNoError" ∧ w.client.m_state = .StateRemoteConnected := by
  simp only [onClientRegistrationFinished]
  split
  · next hstatus => exact iff_of_false (refused_not_same hcrashed) fun h => hstatus h.1
  · next hstatus =>
    split
    · next herror => exact iff_of_false (refused_not_same hcrashed) fun h => herror h.2.1
    · next herror =>
      rw [and_iff_right (not_not.mp hstatus),and_iff_right (not_not.mp herror)]
      exact setState_same_iff w _

theorem react_same_iff (w : Wired) (emission : Emission) (hcrashed : w.crashed = false) :
    Same w (w.react env emission) ↔ Harmless env w.client emission := by
  cases emission with
  | connectedChanged connected =>
    cases connected with
    | true =>
      refine iff_of_false (call_not_same (fun _ h => ?_) hcrashed) id
      have hset : ((w.client.setState .StateConnected).setState .StateInitializing).effects =
          w.client.effects := (effects_setState _ _).trans (effects_setState _ _)
      exact effects_request _ _ _ (h.trans hset.symm)
    | false => exact disconnected_same_iff env w
  | stateChanged state => exact stateChanged_same_iff w state
  | dataReceived data => exact dataReceived_same_iff w data hcrashed
  | finished slot response =>
    cases slot with
    | onHelloFinished => exact iff_of_false (helloFinished_not_same env response hcrashed) id
    | onClientRegistrationFinished => exact registrationFinished_same_iff env response hcrashed

def Undisturbed (env : Qt) (w : Wired) : Event → Prop
  | .emitted connection emission =>
    w.crashed = false → Superseded w connection → Same w (w.react env emission)
  | _ => True

def Mute (env : Qt) (w : Wired) : Event → Prop
  | .emitted connection emission =>
    w.crashed = false → Superseded w connection → Harmless env w.client emission
  | _ => True

theorem undisturbed_iff (w : Wired) (event : Event) : Undisturbed env w event ↔ Mute env w event := by
  cases event with
  | emitted connection emission =>
    exact forall_congr' fun hcrashed => forall_congr' fun _ => react_same_iff w emission hcrashed
  | _ => exact Iff.rfl

end Wired

end RemoteProxy.TunnelProxyRemoteConnection
