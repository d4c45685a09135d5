import RemoteProxy.Library.ServerHost
import RemoteProxy.Library.ServerSession

namespace RemoteProxy.TunnelProxySocketServer

open JsonRpcClient ProxyConnection

variable {env : Qt} {s t : TunnelProxySocketServer} {active : Bool}

/-- A server that is not enabled has its timer stopped, and one that is enabled and down has it
running. -/
structure Guarded (active : Bool) (s : TunnelProxySocketServer) : Prop where
  enabled : s.m_enabled = active
  armed : active = true → s.m_state = .StateDisconnected → s.m_reconnectTimer.isActive = true
  idle : active = false → s.m_reconnectTimer.isActive = false
  periodic : s.m_reconnectTimer.singleShot = false

theorem Guarded.congr (h : Guarded active s) (henabled : t.m_enabled = s.m_enabled)
    (hstate : t.m_state = s.m_state) (htimer : t.m_reconnectTimer = s.m_reconnectTimer) :
    Guarded active t :=
  ⟨henabled.trans h.enabled,fun he hs => htimer ▸ h.armed he (hstate.symm.trans hs),
    fun he => htimer ▸ h.idle he,htimer ▸ h.periodic⟩

theorem start_isActive (timer : QTimer) (now : Nat) : (timer.start now).isActive = true := rfl

theorem setState_guarded (h : Guarded active s) (state : State) :
    Guarded active (s.setState state) := by
  have hrunning : ∀ (t : TunnelProxySocketServer) (running : Bool),
      (t.setRunning running).m_enabled = t.m_enabled ∧
        (t.setRunning running).m_state = t.m_state ∧
          (t.setRunning running).m_reconnectTimer = t.m_reconnectTimer := by
    intro t running
    rw [setRunning]
    split
    · exact ⟨rfl,rfl,rfl⟩
    · exact ⟨rfl,rfl,rfl⟩
  rw [setState]
  split
  · exact h
  · obtain ⟨henabled,hstate,htimer⟩ := hrunning ({ s with m_state := state }.emit
      (.stateChanged state)) (state = State.StateRunning)
    generalize ({ s with m_state := state }.emit (.stateChanged state)).setRunning
      (state = State.StateRunning) = u at henabled hstate htimer
    rw [reconnectIfDown]
    split
    · next hdown =>
      have he : active = true := h.enabled.symm.trans (henabled.symm.trans hdown.2)
      refine ⟨henabled.trans h.enabled,fun _ _ => start_isActive _ _,fun hfalse => ?_,?_⟩
      · rw [he] at hfalse
        cases hfalse
      · exact (congrArg QTimer.singleShot htimer).trans h.periodic
    · next hup =>
      refine ⟨henabled.trans h.enabled,fun he hs => ?_,fun he => ?_,?_⟩
      · exact absurd ⟨hs,henabled.trans (h.enabled.trans he)⟩ hup
      · rw [htimer]
        exact h.idle he
      · rw [htimer]
        exact h.periodic

theorem setServerError_guarded (h : Guarded active s) (error : Error) :
    Guarded active (s.setServerError error) := by
  rw [setServerError]
  split
  · exact h
  · exact h.congr rfl rfl rfl

theorem clientDisconnected_guarded (h : Guarded active s) (socketAddress : UInt16) :
    Guarded active (s.onTunnelProxyClientDisconnected socketAddress) := by
  rw [onTunnelProxyClientDisconnected]
  split
  · exact h
  · exact h.congr rfl rfl rfl

theorem cleanUp_guarded (h : Guarded active s) : Guarded active s.cleanUp := by
  have hsockets : ∀ (addresses : List UInt16) (s : TunnelProxySocketServer), Guarded active s →
      Guarded active (addresses.foldl onTunnelProxyClientDisconnected s) := by
    intro addresses
    induction addresses with
    | nil => exact fun s h => h
    | cons socketAddress addresses ih =>
      exact fun s h => ih _ (clientDisconnected_guarded h socketAddress)
  have hcleared : ∀ server name version api, Guarded active
      { s.m_tunnelProxySockets.keys.foldl onTunnelProxyClientDisconnected s with
        m_connection := none
        m_remoteProxyServer := server
        m_remoteProxyServerName := name
        m_remoteProxyServerVersion := version
        m_remoteProxyApiVersion := api } :=
    fun _ _ _ _ => (hsockets s.m_tunnelProxySockets.keys s h).congr rfl rfl rfl
  exact setState_guarded (hcleared "" "" "" "") .StateDisconnected

theorem changed_guarded (env : Qt) (h : Guarded active s) (connected : Bool) :
    Guarded active (s.onConnectionChanged env connected) := by
  rw [onConnectionChanged]
  split
  · have hconnected : Guarded active { s.setState .StateConnected with
        m_serverError := .ErrorNoError } := (setState_guarded h _).congr rfl rfl rfl
    exact (setState_guarded hconnected _).congr rfl rfl rfl
  · exact cleanUp_guarded (setServerError_guarded (setState_guarded h _) _)

theorem stateChanged_guarded (h : Guarded active s) (state : SocketState) :
    Guarded active (s.onConnectionStateChanged state) := by
  cases state with
  | UnconnectedState => exact setState_guarded h _
  | HostLookupState => exact setState_guarded h _
  | ConnectingState => exact setState_guarded h _
  | ConnectedState =>
    have hset := setState_guarded h .StateConnected
    refine ⟨hset.enabled,fun _ hs => ?_,fun _ => rfl,hset.periodic⟩
    have hs : (s.setState .StateConnected).m_state = .StateDisconnected := hs
    rw [setState_m_state] at hs
    cases hs
  | ClosingState => exact setState_guarded h _
  | BoundState => exact h
  | ListeningState => exact h

theorem refuse_guarded (h : Guarded active s) : Guarded active s.refuse :=
  setServerError_guarded (s := s.emit .disconnectServer) (h.congr rfl rfl rfl) _

theorem slot_guarded (h : Guarded active s) (signal : JsonRpcClient.Signal) :
    Guarded active (slot env signal s) := by
  cases signal with
  | finished reply =>
    simp only [slot]
    cases s.finishedSlot reply with
    | onHelloFinished =>
      simp only [onHelloFinished]
      split
      · exact refuse_guarded h
      · exact (setState_guarded (s := s.setRemoteProxy env _) (h.congr rfl rfl rfl) _).congr
          rfl rfl rfl
    | onServerRegistrationFinished =>
      simp only [onServerRegistrationFinished]
      split
      · exact refuse_guarded h
      · split
        · exact refuse_guarded h
        · exact (setState_guarded h _).congr rfl rfl rfl
    | disconnectFinished => exact h
    | pingFinished => exact h
  | tunnelEstablished => exact h
  | tunnelProxyClientConnected => exact h.congr rfl rfl rfl
  | tunnelProxyClientDisonnected socketAddress => exact clientDisconnected_guarded h _

theorem guarded_received (env : Qt) (active : Bool) : Host.Received env (Guarded active) where
  disconnecting _ h := h.congr rfl rfl rfl
  changed _ connected h := changed_guarded env h connected
  stateChanged _ state h := stateChanged_guarded h state
  serverError _ error h := setServerError_guarded h error
  slot _ signal h := slot_guarded h signal
  jsonClient _ _ h := h.congr rfl rfl rfl
  output _ _ h := h.congr rfl rfl rfl
  dataBuffer _ _ h := h.congr rfl rfl rfl
  keepAlive _ _ h := h.congr rfl rfl rfl

namespace Host

variable {w : Host} {closing : List SocketSignal}

def Armed (w : Host) : Prop :=
  w.server.m_enabled = true → w.server.m_state = .StateDisconnected →
    w.server.m_reconnectTimer.isActive = true

def moves : SocketState → Bool
  | .BoundState => false
  | .ListeningState => false
  | _ => true

/-- The states that a socket reports within `connectServer` leave its server down. -/
def LeftDown (m_ssl : Bool) (during : List SocketState) : Prop :=
  match (during.filter moves).getLast? with
  | none => True
  | some .UnconnectedState => True
  | some .ConnectedState => m_ssl = false ∧ during.getLast? ≠ some .ConnectedState
  | some _ => False

def Settles (w : Host) : Event → Prop
  | .startServer serverUrl during =>
    serverUrl.isValid = true → serverUrl.toString.isEmpty = false → w.server.m_enabled = false →
      ¬LeftDown (connecting w.m_connectionType serverUrl).m_ssl during
  | _ => True

theorem deliver_concat (w : Host) (connection : Nat) (signals : List SocketSignal)
    (x : SocketSignal) : deliver env connection w (signals ++ [x]) =
      onSocketSignal env connection (deliver env connection w signals) x :=
  List.foldl_concat _ _ _ _

theorem reported_m_state (w : Host) (connection : Nat) {state : SocketState}
    (hstate : moves state = true) :
    (onSocketSignal env connection w (.stateChanged state)).server.m_state = .StateDisconnected ↔
      state = .UnconnectedState := by
  simp only [onSocketSignal,ProxyConnection.onSocketSignal,onStateChanged,List.foldl_append,
    List.foldl_cons,List.foldl_nil]
  generalize List.foldl (onSignal env) _ _ = v
  cases state with
  | UnconnectedState => exact iff_of_true (setState_m_state _ _) rfl
  | HostLookupState => simp [onSignal,lift,onConnectionStateChanged,setState_m_state]
  | ConnectingState => simp [onSignal,lift,onConnectionStateChanged,setState_m_state]
  | ConnectedState => simp [onSignal,lift,onConnectionStateChanged,setState_m_state]
  | ClosingState => simp [onSignal,lift,onConnectionStateChanged,setState_m_state]
  | BoundState => exact absurd hstate Bool.false_ne_true
  | ListeningState => exact absurd hstate Bool.false_ne_true

theorem cleanUp_m_state (s : TunnelProxySocketServer) : s.cleanUp.m_state = .StateDisconnected := by
  rw [cleanUp]
  exact setState_m_state _ _

theorem unreported_m_state (w : Host) (connection : Nat) {state : SocketState}
    (hstate : ¬moves state = true) :
    (onSocketSignal env connection w (.stateChanged state)).server.m_state = .StateDisconnected ↔
      w.server.m_state = .StateDisconnected ∨ (w.connection connection).m_connected = true := by
  have hdefault : (w.connection connection).onSocketSignal (.stateChanged state) =
      (((w.connection connection).setConnected false).1,
        ((w.connection connection).setConnected false).2 ++ [.stateChanged state]) := by
    cases state with
    | BoundState => rfl
    | ListeningState => rfl
    | _ => exact absurd rfl hstate
  have hkeep : ∀ v : Host, (onSignal env v (.stateChanged state)).server = v.server := by
    intro v
    cases state with
    | BoundState => rfl
    | ListeningState => rfl
    | _ => exact absurd rfl hstate
  simp only [onSocketSignal,hdefault,List.foldl_append,List.foldl_cons,List.foldl_nil,hkeep]
  rcases setConnected_cases (w.connection connection) false with ⟨hc,he⟩ | ⟨hc,he⟩
  · rw [he,hc]
    exact ⟨.inl,fun h => h.elim id fun hfalse => absurd hfalse Bool.false_ne_true⟩
  · rw [he,hc]
    exact iff_of_true (cleanUp_m_state _) (.inr rfl)

theorem leftDown_reported (m_ssl : Bool) (during : List SocketState) {state : SocketState}
    (hstate : moves state = true) :
    LeftDown m_ssl (during ++ [state]) ↔ state = .UnconnectedState := by
  rw [LeftDown,List.filter_append,List.filter_cons_of_pos hstate,List.filter_nil,
    List.getLast?_concat,List.getLast?_concat]
  cases state with
  | BoundState => exact absurd hstate Bool.false_ne_true
  | ListeningState => exact absurd hstate Bool.false_ne_true
  | _ => simp

theorem leftDown_unreported (m_ssl : Bool) (during : List SocketState) {state : SocketState}
    (hstate : ¬moves state = true) :
    LeftDown m_ssl (during ++ [state]) ↔ LeftDown m_ssl during ∨
      m_ssl = false ∧ during.getLast? = some .ConnectedState := by
  have hne : state ≠ .ConnectedState := by
    rintro rfl
    exact hstate rfl
  have hlast : during.getLast? = some .ConnectedState →
      (during.filter moves).getLast? =
        some .ConnectedState := by
    intro h
    obtain ⟨before,rfl⟩ := List.getLast?_eq_some_iff.mp h
    rw [List.filter_append]
    exact List.getLast?_concat
  rw [LeftDown,LeftDown,List.filter_append,List.filter_cons_of_neg hstate,List.filter_nil,
    List.append_nil,List.getLast?_concat]
  generalize (during.filter _).getLast? = last at hlast ⊢
  by_cases hc : during.getLast? = some .ConnectedState
  · rw [hlast hc]
    simp [hc,hne]
  · cases last with
    | none => simp
    | some last => cases last <;> simp [hc,hne]

theorem deliver_down (env : Qt) (w : Host) (connection : Nat) (during : List SocketState)
    (hdown : w.server.m_state = .StateDisconnected)
    (hnew : (w.connection connection).m_connected = false) :
    let v := deliver env connection w (during.map .stateChanged)
    (v.connection connection).m_ssl = (w.connection connection).m_ssl ∧
      ((v.connection connection).m_connected = true ↔
        (w.connection connection).m_ssl = false ∧ during.getLast? = some .ConnectedState) ∧
      (v.server.m_state = .StateDisconnected ↔
        LeftDown (w.connection connection).m_ssl during) := by
  induction during using List.reverseRecOn with
  | nil => simp [deliver,LeftDown,hdown,hnew]
  | append_singleton during state ih =>
    obtain ⟨hssl,hconnected,hstate⟩ := ih
    simp only [List.map_append,List.map_singleton,deliver_concat,onSocketSignal_connection,
      Function.update_self]
    refine ⟨?_,?_,?_⟩
    · exact (onStateChanged_m_ssl _ state).trans hssl
    · refine (onStateChanged_m_connected _ state).trans ?_
      rw [hssl,hconnected,List.getLast?_concat,Option.some_inj]
      tauto
    · by_cases hreported : moves state = true
      · exact (reported_m_state _ connection hreported).trans
          (leftDown_reported _ during hreported).symm
      · rw [unreported_m_state _ connection hreported,hstate,hconnected]
        exact (leftDown_unreported _ during hreported).symm

theorem connectServer_guarded (env : Qt) (h : Guarded active w.server) {serverUrl : QUrl}
    (hvalid : ¬(!serverUrl.isValid || serverUrl.toString.isEmpty) = true)
    (during : List SocketState) :
    Guarded active (connectServer env w serverUrl during).server := by
  refine (guarded_received env active).deliver ?_ _ _
  have hclean : Guarded active { w.server with m_serverUrl := serverUrl }.cleanUp :=
    cleanUp_guarded (h.congr rfl rfl rfl)
  rw [openConnection,TunnelProxySocketServer.startServer,if_neg hvalid]
  exact ⟨h.enabled,hclean.armed,hclean.idle,hclean.periodic⟩

theorem startServer_guarded (env : Qt) (h : Guarded true w.server) (serverUrl : QUrl)
    (during : List SocketState) : Guarded true (startServer env w serverUrl during).server := by
  rw [startServer]
  split
  · exact h
  · next hvalid =>
    have hconnect := connectServer_guarded env h hvalid during
    exact ⟨rfl,hconnect.armed,hconnect.idle,hconnect.periodic⟩

theorem connectServer_down (env : Qt) (w : Host) {serverUrl : QUrl}
    (hvalid : ¬(!serverUrl.isValid || serverUrl.toString.isEmpty) = true)
    (during : List SocketState) :
    (connectServer env w serverUrl during).server.m_state = .StateDisconnected ↔
      LeftDown (connecting w.m_connectionType serverUrl).m_ssl during := by
  have hdown : (w.openConnection serverUrl).server.m_state = .StateDisconnected := by
    rw [openConnection,TunnelProxySocketServer.startServer,if_neg hvalid]
    exact cleanUp_m_state _
  have hconnection := openConnection_connection w serverUrl
  have hdeliver := (deliver_down env (w.openConnection serverUrl) w.server.connections
    during hdown (by rw [hconnection]; rfl)).2.2
  rw [hconnection] at hdeliver
  exact hdeliver

theorem startServer_armed_iff (h : Guarded w.server.m_enabled w.server) (serverUrl : QUrl)
    (during : List SocketState) :
    Armed (startServer env w serverUrl during) ↔ Settles w (.startServer serverUrl during) := by
  by_cases hvalid : (!serverUrl.isValid || serverUrl.toString.isEmpty) = true
  · rw [startServer,if_pos hvalid]
    refine iff_of_true h.armed fun hv he => ?_
    rw [hv,he] at hvalid
    cases hvalid
  · have hv : serverUrl.isValid = true ∧ serverUrl.toString.isEmpty = false := by
      simpa using hvalid
    cases henabled : w.server.m_enabled with
    | true =>
      rw [henabled] at h
      have harmed := (startServer_guarded env h serverUrl during).armed
      refine iff_of_true (fun _ => harmed rfl) fun _ _ hf => ?_
      rw [henabled] at hf
      cases hf
    | false =>
      rw [henabled] at h
      have hidle := (connectServer_guarded env h hvalid during).idle rfl
      rw [startServer,if_neg hvalid,Settles,← connectServer_down env w hvalid during]
      constructor
      · intro harmed _ _ _ hdown
        exact Bool.false_ne_true (hidle.symm.trans (harmed rfl hdown))
      · intro hsettles _ hdown
        exact absurd hdown (hsettles hv.1 hv.2 henabled)

theorem due_isActive {timer : QTimer} {now : Nat} (h : timer.due now = true) :
    timer.isActive = true := by
  rw [QTimer.due] at h
  rw [QTimer.isActive]
  cases hd : timer.deadline with
  | none =>
    rw [hd] at h
    cases h
  | some deadline => rfl

theorem reconnectTimeout_guarded (h : Guarded active w.server) (during : List SocketState) :
    Guarded active (reconnectTimeout env w during).server := by
  simp only [reconnectTimeout]
  split
  · next hdue =>
    obtain rfl : active = true := by
      cases active with
      | true => rfl
      | false => exact (h.idle rfl).symm.trans (due_isActive hdue)
    have hticked : Guarded true (w.lift fun s =>
        { s with m_reconnectTimer := s.m_reconnectTimer.timeout s.now }).server := by
      have htick : w.server.m_reconnectTimer.timeout w.server.now =
          w.server.m_reconnectTimer.start w.server.now :=
        if_neg (ne_true_of_eq_false h.periodic)
      refine ⟨h.enabled,fun _ _ => ?_,fun hf => absurd hf.symm Bool.false_ne_true,?_⟩
      · exact (congrArg QTimer.isActive htick).trans (start_isActive _ _)
      · exact (congrArg QTimer.singleShot htick).trans h.periodic
    generalize (w.lift fun s =>
      { s with m_reconnectTimer := s.m_reconnectTimer.timeout s.now }) = v at hticked ⊢
    rw [if_neg (by rw [hticked.enabled]; decide)]
    split
    · exact startServer_guarded env hticked _ during
    · exact hticked
  · exact h

theorem keepAliveTimeout_guarded (h : Guarded active w.server) :
    Guarded active (keepAliveTimeout env w).server := by
  rw [keepAliveTimeout]
  split
  · exact h
  · simp only [lift,TunnelProxySocketServer.keepAliveTimeout]
    split
    · split
      · exact h.congr rfl rfl rfl
      · exact h.congr rfl rfl rfl
    · exact h

theorem step_guarded (env : Qt) (h : Guarded active w.server) {event : Event}
    (hevent : ∀ serverUrl during, event ≠ .startServer serverUrl during) :
    ∃ active, Guarded active (step env w event).server := by
  cases event with
  | startServer serverUrl during => exact absurd rfl (hevent serverUrl during)
  | stopServer closing =>
    have hstopped : Guarded false (w.lift fun s =>
        { s with m_enabled := false, m_reconnectTimer := s.m_reconnectTimer.stop }).server :=
      ⟨rfl,fun hf => absurd hf Bool.false_ne_true,fun _ => rfl,h.periodic⟩
    refine ⟨false,?_⟩
    simp only [step,stopServer]
    split
    · exact (guarded_received env false).disconnectServer hstopped
    · exact hstopped
  | reconnectTimeout during => exact ⟨active,reconnectTimeout_guarded h during⟩
  | keepAliveTimeout => exact ⟨active,keepAliveTimeout_guarded h⟩
  | requestSocketDisconnect socketAddress =>
    refine ⟨active,?_⟩
    simp only [step,requestSocketDisconnect]
    split
    · exact h
    · exact h.congr rfl rfl rfl
  | writeData socketAddress data =>
    refine ⟨active,?_⟩
    simp only [step,writeData]
    split
    · exact h
    · exact h.congr rfl rfl rfl
  | socket connection signals =>
    exact ⟨active,(guarded_received env active).deliver h connection signals⟩
  | dataReceived connection data closing =>
    exact ⟨active,(guarded_received env active).received h data⟩
  | elapse ms => exact ⟨active,h.congr rfl rfl rfl⟩

structure Idle (w : Host) : Prop where
  idle : w.server.m_enabled = false → w.server.m_reconnectTimer.isActive = false
  periodic : w.server.m_reconnectTimer.singleShot = false

theorem Armed.guarded (h : Armed w) (hidle : Idle w) : Guarded w.server.m_enabled w.server :=
  ⟨rfl,h,hidle.idle,hidle.periodic⟩

theorem armed_of_guarded (h : Guarded active w.server) : Armed w :=
  fun henabled => h.armed (h.enabled.symm.trans henabled)

theorem idle_of_guarded (h : Guarded active w.server) : Idle w :=
  ⟨fun henabled => h.idle (h.enabled.symm.trans henabled),h.periodic⟩

theorem startServer_idle (h : Guarded active w.server) (serverUrl : QUrl)
    (during : List SocketState) : Idle (startServer env w serverUrl during) := by
  rw [startServer]
  split
  · exact idle_of_guarded h
  · next hvalid =>
    exact ⟨fun hf => absurd hf.symm Bool.false_ne_true,
      (connectServer_guarded env h hvalid during).periodic⟩

theorem step_idle (h : Guarded active w.server) (event : Event) : Idle (step env w event) := by
  by_cases hevent : ∃ serverUrl during, event = .startServer serverUrl during
  · obtain ⟨serverUrl,during,rfl⟩ := hevent
    exact startServer_idle h serverUrl during
  · obtain ⟨active,hnext⟩ := step_guarded env h fun serverUrl during he =>
      hevent ⟨serverUrl,during,he⟩
    exact idle_of_guarded hnext

theorem step_armed_iff (h : Guarded w.server.m_enabled w.server) (event : Event) :
    Armed (step env w event) ↔ Settles w event := by
  by_cases hevent : ∃ serverUrl during, event = .startServer serverUrl during
  · obtain ⟨serverUrl,during,rfl⟩ := hevent
    exact startServer_armed_iff h serverUrl during
  · have hne : ∀ serverUrl during, event ≠ .startServer serverUrl during :=
      fun serverUrl during he => hevent ⟨serverUrl,during,he⟩
    obtain ⟨active,hnext⟩ := step_guarded env h hne
    apply iff_of_true (armed_of_guarded hnext)
    cases event with
    | startServer serverUrl during => exact absurd rfl (hne serverUrl during)
    | _ => exact trivial

/-- The reconnect timer runs whenever an enabled server is down, exactly if every start of a
disabled server leaves it waiting for its socket. -/
theorem reconnect_armed_iff (env : Qt) (serverUuid : QUuid) (serverName : String)
    (connectionType : ConnectionType) (events : List Event) :
    Runs.Always (step env) Armed (new serverUuid serverName connectionType) events ↔
      Runs.Along (step env) Settles (new serverUuid serverName connectionType) events := by
  refine Runs.always_iff_along (I := Idle) ⟨fun _ => rfl,rfl⟩ ?_ ?_ ?_
  · exact fun hf => absurd hf Bool.false_ne_true
  · exact fun w event hidle harmed => step_idle (harmed.guarded hidle) event
  · exact fun w event hidle harmed => step_armed_iff (harmed.guarded hidle) event

def failingStart : List Event :=
  [.startServer ⟨"tcp://127.0.0.1:2213",true⟩
    [.HostLookupState,.ConnectingState,.UnconnectedState]]

theorem failed_start_unarmed : ¬Runs.Always (step (Qt.onDocuments [])) Armed
    (new ⟨1⟩ "nymea" .ConnectionTypeTcpSocket) failingStart := by
  intro h
  have hstep := (step_armed_iff (w := new ⟨1⟩ "nymea"
    .ConnectionTypeTcpSocket) ⟨rfl,fun hf => absurd hf Bool.false_ne_true,fun _ => rfl,rfl⟩ _).mp
    h.2.first
  exact hstep rfl (by decide) rfl trivial

end Host

end RemoteProxy.TunnelProxySocketServer
