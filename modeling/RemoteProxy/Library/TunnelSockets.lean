import RemoteProxy.Foundation.Sessions
import RemoteProxy.Library.ServerHost
import RemoteProxy.Library.ServerSwitch

namespace RemoteProxy.TunnelProxySocketServer

open JsonRpcClient ProxyConnection Sessions

variable {env : Qt} {s t : TunnelProxySocketServer}

/-- A socket is announced when it opens its address, and retired when it gives it up. -/
def Output.socketMarks : Output → List (UInt16 × Mark TunnelProxySocket TunnelProxySocket)
  | .clientConnected socket => [(socket.m_socketAddress,.opened socket)]
  | .clientDisconnected socket =>
    [(socket.m_socketAddress,.used socket),(socket.m_socketAddress,.closed)]
  | _ => []

def marks (s : TunnelProxySocketServer) :
    List (UInt16 × Mark TunnelProxySocket TunnelProxySocket) := s.output.flatMap Output.socketMarks

def announced (socket : TunnelProxySocket) : TunnelProxySocket := { socket with m_connected := true }

/-- The announced sockets that are not yet retired are those of the table. -/
structure Accounted (s : TunnelProxySocketServer) : Prop where
  bracketed : WellBracketed announced s.marks
  table : ∀ a, s.m_tunnelProxySockets.value a = table s.marks a
  entry : ∀ a socket, s.m_tunnelProxySockets.value a = some socket →
    socket.m_socketAddress = a ∧ socket.m_connected = true
  retired : ∀ socket, .clientDisconnected socket ∈ s.output → socket.m_connected = false

theorem Accounted.restated (h : Accounted s) (hrestated : Restated s t) : Accounted t := by
  obtain ⟨told,he,htold⟩ := hrestated.told
  have hsilent : told.flatMap Output.socketMarks = [] := by
    refine List.flatMap_eq_nil_iff.mpr fun o ho => ?_
    have hstatus := htold o ho
    cases o with
    | clientConnected socket => cases hstatus
    | clientDisconnected socket => cases hstatus
    | _ => rfl
  have hmarks : t.marks = s.marks := by
    rw [marks,he,List.flatMap_append,hsilent,List.append_nil,marks]
  refine ⟨hmarks ▸ h.bracketed,fun a => ?_,fun a => ?_,fun socket hm => ?_⟩
  · rw [hrestated.sockets,hmarks]
    exact h.table a
  · rw [hrestated.sockets]
    exact h.entry a
  · rw [he] at hm
    rcases List.mem_append.mp hm with hm | hm
    · exact h.retired socket hm
    · cases htold _ hm

theorem Accounted.of_emit (h : Accounted s) {o : Output} (ho : o.socketMarks = [])
    (hsockets : t.m_tunnelProxySockets = s.m_tunnelProxySockets)
    (houtput : t.output = s.output ++ [o]) : Accounted t := by
  have hmarks : t.marks = s.marks := by
    rw [marks,houtput,List.flatMap_append,List.flatMap_singleton,ho,List.append_nil,marks]
  refine ⟨hmarks ▸ h.bracketed,fun a => ?_,fun a => ?_,fun socket hm => ?_⟩
  · rw [hsockets,hmarks]
    exact h.table a
  · rw [hsockets]
    exact h.entry a
  · rw [houtput] at hm
    rcases List.mem_append.mp hm with hm | hm
    · exact h.retired socket hm
    · rw [← List.mem_singleton.mp hm] at ho
      cases ho

theorem clientConnected_accounted (h : Accounted s) (clientName : String) (clientUuid : QUuid)
    (clientPeerAddress : String) {socketAddress : UInt16}
    (hfree : s.m_tunnelProxySockets.value socketAddress = none) :
    Accounted (s.onTunnelProxyClientConnected clientName clientUuid clientPeerAddress
      socketAddress) := by
  generalize hsocket : TunnelProxySocket.new clientName clientUuid clientPeerAddress socketAddress =
    socket
  have hopen : Sessions.table s.marks socketAddress = none := (h.table socketAddress).symm.trans hfree
  have haddress : socket.m_socketAddress = socketAddress := hsocket ▸ rfl
  rw [onTunnelProxyClientConnected,hsocket]
  have hmarks : ({ s with m_tunnelProxySockets :=
      s.m_tunnelProxySockets.insert socketAddress socket }.emit (.clientConnected socket)).marks =
        s.marks ++ [(socketAddress,.opened socket)] := by
    rw [marks,emit,List.flatMap_append,List.flatMap_singleton,Output.socketMarks,haddress,marks]
  refine ⟨?_,?_,?_,?_⟩
  · rw [hmarks]
    exact h.bracketed.opened hopen socket
  · intro a
    rw [hmarks,table_append]
    refine (QHash.value_insert _ _ _ _).trans ?_
    split
    · rfl
    · exact h.table a
  · intro a other ha
    have ha : (if a = socketAddress then some socket else s.m_tunnelProxySockets.value a) =
        some other := (QHash.value_insert _ _ _ _).symm.trans ha
    split at ha
    · next he =>
      obtain rfl := Option.some.inj ha
      exact ⟨haddress.trans he.symm,hsocket ▸ rfl⟩
    · exact h.entry a other ha
  · intro other hm
    rcases List.mem_append.mp hm with hm | hm
    · exact h.retired other hm
    · cases List.mem_singleton.mp hm

theorem clientDisconnected_accounted (h : Accounted s) (socketAddress : UInt16) :
    Accounted (s.onTunnelProxyClientDisconnected socketAddress) := by
  cases hv : s.m_tunnelProxySockets.value socketAddress with
  | none =>
    rw [onTunnelProxyClientDisconnected,hv]
    exact h
  | some socket =>
    obtain ⟨haddress,hconnected⟩ := h.entry socketAddress socket hv
    have hopen : Sessions.table s.marks socketAddress = some (announced socket.setDisconnected) := by
      rw [← h.table,hv,announced,TunnelProxySocket.setDisconnected]
      cases socket
      exact congrArg some (by simp_all)
    have hvalue := clientDisconnected_value s socketAddress
    have houtput : (s.onTunnelProxyClientDisconnected socketAddress).output =
        s.output ++ [.clientDisconnected socket.setDisconnected] := by
      rw [onTunnelProxyClientDisconnected,hv]
      rfl
    have hmarks : (s.onTunnelProxyClientDisconnected socketAddress).marks =
        (s.marks ++ [(socketAddress,.used socket.setDisconnected)]) ++
          [(socketAddress,.closed)] := by
      rw [marks,houtput,List.flatMap_append,List.flatMap_singleton,Output.socketMarks,
        TunnelProxySocket.setDisconnected,haddress,marks,List.append_assoc]
      rfl
    have hused : Sessions.table (s.marks ++ [(socketAddress,.used socket.setDisconnected)])
        socketAddress = some (announced socket.setDisconnected) := by
      rw [table_append,if_pos rfl,hopen]
      rfl
    refine ⟨?_,?_,?_,?_⟩
    · rw [hmarks]
      exact (h.bracketed.used hopen).closed hused
    · intro a
      rw [hmarks,table_append,hvalue a]
      split
      · rfl
      · next hne =>
        rw [table_append,if_neg hne]
        exact h.table a
    · intro a other ha
      rw [hvalue a] at ha
      split at ha
      · cases ha
      · exact h.entry a other ha
    · intro other hm
      rw [houtput] at hm
      rcases List.mem_append.mp hm with hm | hm
      · exact h.retired other hm
      · obtain rfl := Output.clientDisconnected.inj (List.mem_singleton.mp hm)
        rfl

theorem retireAll_accounted (addresses : List UInt16) (h : Accounted s) :
    Accounted (addresses.foldl onTunnelProxyClientDisconnected s) := by
  induction addresses generalizing s with
  | nil => exact h
  | cons socketAddress addresses ih => exact ih (clientDisconnected_accounted h socketAddress)

theorem cleanUp_accounted (h : Accounted s) : Accounted s.cleanUp := by
  have hgone := retireAll_accounted s.m_tunnelProxySockets.keys h
  have hnull : Accounted { s.m_tunnelProxySockets.keys.foldl onTunnelProxyClientDisconnected s with
      m_connection := none } := ⟨hgone.bracketed,hgone.table,hgone.entry,hgone.retired⟩
  exact hnull.restated (cleanUp_restated s)

theorem cleanUp_connections (s : TunnelProxySocketServer) :
    s.cleanUp.connections = s.connections := by
  have hrunning (t : TunnelProxySocketServer) (running : Bool) :
      (t.setRunning running).connections = t.connections := by
    rw [setRunning]
    split
    · rfl
    · rfl
  have hset (t : TunnelProxySocketServer) (state : State) :
      (t.setState state).connections = t.connections := by
    rw [setState]
    split
    · rfl
    · rw [reconnectIfDown]
      split
      · exact hrunning _ _
      · exact hrunning _ _
  have hall : ∀ (addresses : List UInt16) (s : TunnelProxySocketServer),
      (addresses.foldl onTunnelProxyClientDisconnected s).connections = s.connections := by
    intro addresses
    induction addresses with
    | nil => exact fun s => rfl
    | cons socketAddress addresses ih =>
      intro s
      refine (ih _).trans ?_
      rw [onTunnelProxyClientDisconnected]
      split
      · rfl
      · rfl
  exact (hset _ _).trans (hall _ s)

namespace Host

variable {w : Host} {closing : List SocketSignal} {connection : Nat} {connected : Prop}

/-- Only a connected server has sockets. While data of `connection` is handled, the connection is
connected as long as it is current. -/
structure Tended (connection : Nat) (connected : Prop) (w : Host) : Prop where
  accounted : Accounted w.server
  served : w.server.m_tunnelProxySockets.keys ≠ [] →
    ∃ c, w.server.m_connection = some c ∧ (w.connection c).m_connected = true
  up : ∀ c, w.server.m_connection = some c → (w.connection c).m_connected = true →
    w.server.m_state ≠ .StateDisconnected
  current : ∀ c, w.server.m_connection = some c → c = connection
  connected : connected → ∀ c, w.server.m_connection = some c → (w.connection c).m_connected = true

def announcedAddress : JsonRpcClient.Signal → Option UInt16
  | .tunnelProxyClientConnected _ _ _ socketAddress => some socketAddress
  | _ => none

def Fresh (handled : List (JsonRpcClient.Signal × TunnelProxySocketServer)) : Prop :=
  ∀ x ∈ handled, ∀ a, announcedAddress x.1 = some a → x.2.m_tunnelProxySockets.value a = none

def Standing (handled : List (JsonRpcClient.Signal × TunnelProxySocketServer)) : Prop :=
  ∀ x ∈ handled, ∀ a, announcedAddress x.1 = some a → x.2.m_connection.isSome = true

instance : DecidablePred Fresh := fun handled =>
  decidable_of_iff (∀ x ∈ handled, ((announcedAddress x.1).all fun a =>
    (x.2.m_tunnelProxySockets.value a).isNone) = true) (by simp [Fresh,Option.all_eq_true])

instance : DecidablePred Standing := fun handled =>
  decidable_of_iff (∀ x ∈ handled, ((announcedAddress x.1).all fun _ =>
    x.2.m_connection.isSome) = true) (by simp [Standing,Option.all_eq_true])

theorem Tended.of_server (h : Tended connection connected w) {t : TunnelProxySocketServer}
    (haccounted : Accounted t)
    (hsockets : t.m_tunnelProxySockets.keys ≠ [] → w.server.m_tunnelProxySockets.keys ≠ [])
    (hconnection : t.m_connection = w.server.m_connection)
    (hstate : t.m_state = w.server.m_state ∨ t.m_state ≠ .StateDisconnected) :
    Tended connection connected { w with server := t } := by
  refine ⟨haccounted,fun hkeys => ?_,fun c hc hup => ?_,fun c hc => ?_,fun hcon c hc => ?_⟩
  · obtain ⟨c,hc,hup⟩ := h.served (hsockets hkeys)
    exact ⟨c,hconnection.trans hc,hup⟩
  · rcases hstate with hstate | hstate
    · exact fun hdown => h.up c (hconnection ▸ hc) hup (hstate.symm.trans hdown)
    · exact hstate
  · exact h.current c (hconnection ▸ hc)
  · exact h.connected hcon c (hconnection ▸ hc)

theorem Tended.restated (h : Tended connection connected w) {t : TunnelProxySocketServer}
    (hrestated : Restated w.server t)
    (hstate : t.m_state = w.server.m_state ∨ t.m_state ≠ .StateDisconnected) :
    Tended connection connected { w with server := t } :=
  h.of_server (h.accounted.restated hrestated) (hrestated.sockets ▸ id) hrestated.connection hstate

theorem Tended.of_clean (haccounted : Accounted w.server)
    (hsockets : w.server.m_tunnelProxySockets.keys = []) (hconnection : w.server.m_connection = none) :
    Tended connection connected w := by
  have hnone : ∀ c, w.server.m_connection ≠ some c := fun c hc => by
    rw [hconnection] at hc
    cases hc
  exact ⟨haccounted,fun hkeys => absurd hsockets hkeys,fun c hc => absurd hc (hnone c),
    fun c hc => absurd hc (hnone c),fun _ c hc => absurd hc (hnone c)⟩

theorem Tended.setConnected (h : Tended connection connected w) (up : Bool) :
    Tended connection connected (((w.connection connection).setConnected up).2.foldl (onSignal env)
      { w with
        connection := Function.update w.connection connection
          ((w.connection connection).setConnected up).1 }) := by
  rcases setConnected_cases (w.connection connection) up with ⟨-,he⟩ | ⟨hc,he⟩
  · rw [he,Function.update_eq_self]
    exact h
  · rw [he]
    cases up with
    | false =>
      have hset : Accounted ((w.server.setState .StateDisconnected).setServerError
          .ErrorNotConnected) :=
        (h.accounted.restated (setState_restated _ _)).restated (setServerError_restated _ _)
      exact .of_clean (cleanUp_accounted hset) (cleanUp_sockets _) (cleanUp_connection _)
    | true =>
      simp only [List.foldl_cons,List.foldl_nil,onSignal,Bool.true_and]
      split
      · next hnone =>
        have hnone : w.server.m_connection = none := Option.isNone_iff_eq_none.mp hnone
        refine .of_clean h.accounted ?_ hnone
        by_contra hkeys
        obtain ⟨c,hcur,-⟩ := h.served hkeys
        rw [hnone] at hcur
        cases hcur
      · have hrestated := connected_restated env w.server
        have hstate : (w.server.onConnectionChanged env true).m_state = .StateInitializing := by
          rw [onConnectionChanged,if_pos rfl]
          dsimp only
          rw [request_m_state,setState_m_state]
        have hup : (Function.update w.connection connection
            { w.connection connection with m_connected := true } connection).m_connected = true := by
          rw [Function.update_self]
        refine ⟨h.accounted.restated hrestated,fun hkeys => ?_,fun c hcur _ => ?_,fun c hcur => ?_,
          fun _ c hcur => ?_⟩
        · obtain ⟨c,hcur,-⟩ := h.served (hrestated.sockets ▸ hkeys)
          refine ⟨c,hrestated.connection.trans hcur,?_⟩
          rw [h.current c hcur]
          exact hup
        · exact fun hdown => State.noConfusion (hstate.symm.trans hdown)
        · exact h.current c (hrestated.connection ▸ hcur)
        · rw [h.current c (hrestated.connection ▸ hcur)]
          exact hup

theorem setConnected_m_connected (env : Qt) (w : Host) (connection : Nat) (up : Bool) :
    ((((w.connection connection).setConnected up).2.foldl (onSignal env)
      { w with
        connection := Function.update w.connection connection
          ((w.connection connection).setConnected up).1 }).connection connection).m_connected =
      up := by
  rw [signals_connection]
  simp only [Function.update_self]
  exact ProxyConnection.setConnected_m_connected _ _

theorem Tended.stateChanged (h : Tended connection connected w) {state : SocketState}
    (hup : (w.connection connection).m_connected = true → state = .ConnectedState) :
    Tended connection connected (onSignal env w (.stateChanged state)) := by
  have hrestated := stateChanged_restated w.server state
  refine ⟨h.accounted.restated hrestated,fun hkeys => ?_,fun c hcur hcon => ?_,fun c hcur => ?_,
    fun hcon c hcur => ?_⟩
  · obtain ⟨c,hcur,hcon⟩ := h.served (hrestated.sockets ▸ hkeys)
    exact ⟨c,hrestated.connection.trans hcur,hcon⟩
  · have hcur := hrestated.connection.symm.trans hcur
    rw [h.current c hcur] at hcon
    obtain rfl := hup hcon
    have hstate : (w.server.onConnectionStateChanged .ConnectedState).m_state = .StateConnected :=
      setState_m_state _ _
    exact fun hdown => State.noConfusion (hstate.symm.trans hdown)
  · exact h.current c (hrestated.connection.symm.trans hcur)
  · exact h.connected hcon c (hrestated.connection.symm.trans hcur)

theorem Tended.socketSignal (h : Tended connection connected w) (x : SocketSignal) :
    Tended connection connected (onSocketSignal env connection w x) := by
  cases x with
  | encrypted => exact h.setConnected true
  | disconnected => exact h.setConnected false
  | stateChanged state =>
    simp only [onSocketSignal,ProxyConnection.onSocketSignal,onStateChanged,List.foldl_append,
      List.foldl_cons,List.foldl_nil]
    have hdown := setConnected_m_connected env w connection false
    cases state with
    | ConnectedState =>
      simp only
      split
      · exact (h.setConnected true).stateChanged fun _ => rfl
      · rw [Function.update_eq_self]
        exact h.stateChanged fun _ => rfl
    | _ =>
      exact (h.setConnected false).stateChanged fun hup =>
        absurd (hdown.symm.trans hup) Bool.false_ne_true

theorem Tended.deliver (h : Tended connection connected w) (signals : List SocketSignal) :
    Tended connection connected (deliver env connection w signals) := by
  induction signals generalizing w with
  | nil => exact h
  | cons x signals ih => exact ih (h.socketSignal x)

theorem Tended.disconnectServer (h : Tended connection connected w) :
    Tended connection connected (disconnectServer env closing w) := by
  rw [Host.disconnectServer]
  split
  · exact ⟨h.accounted,h.served,h.up,h.current,h.connected⟩
  · next c hc =>
    obtain rfl := h.current c hc
    have hemit : Tended c connected (w.lift (·.emit .disconnectServer)) :=
      h.restated (.of_emit (o := .disconnectServer) rfl rfl rfl rfl rfl) (.inl rfl)
    exact hemit.deliver closing

theorem setServerError_m_state (s : TunnelProxySocketServer) (error : Error) :
    (s.setServerError error).m_state = s.m_state := by
  rw [setServerError]
  split
  · rfl
  · rfl

theorem Tended.refuse (h : Tended connection connected w) :
    Tended connection connected (refuse env closing w) :=
  h.disconnectServer.restated (setServerError_restated _ _) (.inl (setServerError_m_state _ _))

theorem Tended.slot (h : Tended connection True w) {signal : JsonRpcClient.Signal}
    (hfresh : ∀ a, announcedAddress signal = some a →
      w.server.m_tunnelProxySockets.value a = none)
    (hstanding : ∀ a, announcedAddress signal = some a → w.server.m_connection.isSome = true) :
    Tended connection True (Host.slot env closing signal w) := by
  cases signal with
  | finished reply =>
    have hrestated := finished_restated env w.server reply
    simp only [TunnelProxySocketServer.slot] at hrestated
    simp only [Host.slot]
    cases hf : w.server.finishedSlot reply with
    | onHelloFinished =>
      rw [hf] at hrestated
      simp only [Host.onHelloFinished]
      split
      · exact h.refuse
      · next hsuccess =>
        refine h.restated hrestated (.inr ?_)
        change (w.server.onHelloFinished env reply).m_state ≠ .StateDisconnected
        rw [TunnelProxySocketServer.onHelloFinished,if_neg hsuccess]
        have hstate := setState_m_state (w.server.setRemoteProxy env
          ((w.server.m_jsonClient.reply reply).m_response.value "params").toMap) .StateRegister
        exact fun hdown => State.noConfusion (hstate.symm.trans hdown)
    | onServerRegistrationFinished =>
      rw [hf] at hrestated
      simp only [Host.onServerRegistrationFinished]
      split
      · exact h.refuse
      · next hsuccess =>
        split
        · exact h.refuse
        · next herror =>
          refine h.restated hrestated (.inr ?_)
          change (w.server.onServerRegistrationFinished env reply).m_state ≠ .StateDisconnected
          rw [TunnelProxySocketServer.onServerRegistrationFinished,if_neg hsuccess]
          simp only [if_neg herror]
          have hstate := setState_m_state w.server .StateRunning
          exact fun hdown => State.noConfusion (hstate.symm.trans hdown)
    | disconnectFinished => exact h
    | pingFinished => exact h
  | tunnelEstablished clientName clientUuid => exact h
  | tunnelProxyClientConnected clientName clientUuid clientPeerAddress socketAddress =>
    obtain ⟨c,hc⟩ := Option.isSome_iff_exists.mp (hstanding socketAddress rfl)
    exact ⟨clientConnected_accounted h.accounted _ _ _ (hfresh socketAddress rfl),
      fun _ => ⟨c,hc,h.connected trivial c hc⟩,h.up,h.current,h.connected⟩
  | tunnelProxyClientDisonnected socketAddress =>
    have hconnection : (w.server.onTunnelProxyClientDisconnected socketAddress).m_connection =
        w.server.m_connection ∧ (w.server.onTunnelProxyClientDisconnected socketAddress).m_state =
          w.server.m_state := by
      rw [onTunnelProxyClientDisconnected]
      split
      · exact ⟨rfl,rfl⟩
      · exact ⟨rfl,rfl⟩
    refine h.of_server (clientDisconnected_accounted h.accounted socketAddress) ?_ hconnection.1
      (.inl hconnection.2)
    intro hkeys hempty
    obtain ⟨a,ha⟩ := List.exists_mem_of_ne_nil _ hkeys
    obtain ⟨socket,hv⟩ := (QHash.mem_keys _ a).mp ha
    have hv : (w.server.onTunnelProxyClientDisconnected socketAddress).m_tunnelProxySockets.value a =
        some socket := hv
    rw [clientDisconnected_value] at hv
    split at hv
    · cases hv
    · have hmem : a ∈ w.server.m_tunnelProxySockets.keys := (QHash.mem_keys _ a).mpr ⟨socket,hv⟩
      rw [hempty] at hmem
      cases hmem

section Handled

theorem onSignal_handled (w : Host) (x : ProxyConnection.Signal) :
    (onSignal env w x).handled = w.handled := by
  cases x with
  | connectedChanged connected =>
    simp only [onSignal]
    split
    · rfl
    · rfl
  | stateChanged state => rfl

theorem deliver_handled (w : Host) (connection : Nat) (signals : List SocketSignal) :
    (Host.deliver env connection w signals).handled = w.handled := by
  have hsignals : ∀ (signals : List ProxyConnection.Signal) (w : Host),
      (signals.foldl (onSignal env) w).handled = w.handled := by
    intro signals
    induction signals with
    | nil => exact fun w => rfl
    | cons x signals ih => exact fun w => (ih _).trans (onSignal_handled w x)
  induction signals generalizing w with
  | nil => rfl
  | cons x signals ih => exact (ih _).trans (hsignals _ _)

theorem refuse_handled (w : Host) : (Host.refuse env closing w).handled = w.handled := by
  have hdisconnect : (Host.disconnectServer env closing w).handled = w.handled := by
    rw [Host.disconnectServer]
    split
    · rfl
    · exact deliver_handled _ _ _
  exact hdisconnect

theorem slot_handled (signal : JsonRpcClient.Signal) (w : Host) :
    (Host.slot env closing signal w).handled = w.handled := by
  cases signal with
  | finished reply =>
    simp only [Host.slot]
    cases w.server.finishedSlot reply with
    | onHelloFinished =>
      simp only [Host.onHelloFinished]
      split
      · exact refuse_handled w
      · rfl
    | onServerRegistrationFinished =>
      simp only [Host.onServerRegistrationFinished]
      split
      · exact refuse_handled w
      · split
        · exact refuse_handled w
        · rfl
    | disconnectFinished => rfl
    | pingFinished => rfl
  | _ => rfl

end Handled

/-- The server is tended to, if the clients that it has been told of were announced as they must be. -/
def Kept (connection : Nat) (w : Host) : Prop :=
  Fresh w.handled → Standing w.handled → Tended connection True w

theorem handle_kept (h : Kept connection w) (packet : QByteArray) :
    Kept connection (JsonRpcClient.handle env (owner env closing) packet w) := by
  simp only [JsonRpcClient.handle]
  split
  · intro hfresh hstanding
    have ht := h hfresh hstanding
    exact ht.restated (.of_eq rfl rfl rfl rfl) (.inl rfl)
  · next signal _ =>
    intro hfresh hstanding
    generalize hu : (owner env closing).setClient w
      (processDataPacket env ((owner env closing).client w) packet).1 = u at hfresh hstanding ⊢
    have hhandled : ((owner env closing).slot signal u).handled =
        w.handled ++ [(signal,u.server)] := by
      have hslot : ((owner env closing).slot signal u).handled = u.handled ++ [(signal,u.server)] :=
        slot_handled signal (u.note signal)
      exact hu ▸ hslot
    rw [hhandled] at hfresh hstanding
    have ht : Tended connection True u := by
      have hw := h (fun x hx => hfresh x (List.mem_append_left _ hx))
        fun x hx => hstanding x (List.mem_append_left _ hx)
      exact hu ▸ hw.restated (.of_eq rfl rfl rfl rfl) (.inl rfl)
    have hlast : (signal,u.server) ∈ w.handled ++ [(signal,u.server)] :=
      List.mem_append_right _ (List.mem_singleton_self _)
    have hnoted : Tended connection True (u.note signal) :=
      ⟨ht.accounted,ht.served,ht.up,ht.current,ht.connected⟩
    exact hnoted.slot (hfresh _ hlast) (hstanding _ hlast)

theorem jsonData_kept (h : Kept connection w) (data : QByteArray) :
    Kept connection (Host.jsonData env closing w data) := by
  rw [Host.jsonData]
  split
  · intro hfresh hstanding
    have ht := h hfresh hstanding
    exact ⟨ht.accounted,ht.served,ht.up,ht.current,ht.connected⟩
  · refine JsonRpcClient.processData_preserves (P := Kept connection)
      (fun packet w hw => handle_kept hw packet) (fun w b hw => ?_) h data
    exact fun hfresh hstanding => (hw hfresh hstanding).restated (.of_eq rfl rfl rfl rfl) (.inl rfl)

theorem Kept.traffic (h : Kept connection w) {o : Output} (ho : o.socketMarks = []) :
    Kept connection (w.lift (·.emit o)) :=
  fun hfresh hstanding => (h hfresh hstanding).of_server
    ((h hfresh hstanding).accounted.of_emit ho rfl rfl) id rfl (.inl rfl)

theorem Kept.setDataBuffer (h : Kept connection w) (m_dataBuffer : QByteArray) :
    Kept connection (w.setDataBuffer m_dataBuffer) := fun hfresh hstanding =>
  have ht := h hfresh hstanding
  ⟨⟨ht.accounted.bracketed,ht.accounted.table,ht.accounted.entry,ht.accounted.retired⟩,ht.served,
    ht.up,ht.current,ht.connected⟩

theorem processFrame_kept (h : Kept connection w) (frame : SlipDataProcessor.Frame) :
    Kept connection (Host.processFrame env closing w frame) := by
  have hlogged := h.traffic (o := .frameReceived frame) rfl
  simp only [Host.processFrame]
  split
  · exact jsonData_kept (hlogged.traffic (o := .jsonReceived frame.data) rfl) _
  · split
    · exact hlogged
    · next socket _ => exact hlogged.traffic (o := .dataReceived socket frame.data) rfl

theorem slipData_kept (h : Kept connection w) (data : QByteArray) :
    Kept connection (Host.slipData env closing w data) := by
  have hclose : ∀ (buf : QByteArray) (w : Host), Kept connection w →
      Kept connection (Host.closeFrame env closing buf w).2 := by
    intro buf w h
    simp only [Host.closeFrame]
    split
    · exact h
    · exact processFrame_kept h _
  exact (Delimited.run_preserves _ _ hclose _ h data).setDataBuffer _

theorem dataAvailable_kept (h : Kept connection w) (data : QByteArray) :
    Kept connection (Host.onConnectionDataAvailable env closing w data) := by
  have hkeep : Kept connection w.restartKeepAlive := fun hfresh hstanding =>
    (h hfresh hstanding).restated (.of_eq rfl rfl rfl rfl) (.inl rfl)
  simp only [Host.onConnectionDataAvailable]
  split
  · exact (jsonData_kept hkeep data).setDataBuffer []
  · exact slipData_kept hkeep data

theorem openConnection_tended (h : Tended connection False w) {serverUrl : QUrl}
    (hvalid : ¬(!serverUrl.isValid || serverUrl.toString.isEmpty) = true) :
    Tended w.server.connections False (w.openConnection serverUrl) := by
  have hclean : Accounted { w.server with m_serverUrl := serverUrl }.cleanUp :=
    cleanUp_accounted (h.accounted.restated (.of_eq rfl rfl rfl rfl))
  have hkeys : { w.server with m_serverUrl := serverUrl }.cleanUp.m_tunnelProxySockets.keys = [] :=
    cleanUp_sockets _
  have hserver : Accounted (w.openConnection serverUrl).server ∧
      (w.openConnection serverUrl).server.m_tunnelProxySockets.keys = [] ∧
        (w.openConnection serverUrl).server.m_connection = some w.server.connections := by
    rw [openConnection,TunnelProxySocketServer.startServer,if_neg hvalid]
    exact ⟨hclean.of_emit (o := .connectServer
        { w.server with m_serverUrl := serverUrl }.cleanUp.connections serverUrl) rfl rfl rfl,hkeys,
      congrArg some (cleanUp_connections { w.server with m_serverUrl := serverUrl })⟩
  obtain ⟨haccounted,hkeys,hconnection⟩ := hserver
  have hcurrent : ∀ c, (w.openConnection serverUrl).server.m_connection = some c →
      c = w.server.connections := fun c hc => Option.some.inj (hc.symm.trans hconnection)
  refine ⟨haccounted,fun hne => absurd hkeys hne,fun c hc hup => ?_,hcurrent,fun hf => hf.elim⟩
  rw [hcurrent c hc,openConnection_connection] at hup
  exact absurd hup Bool.false_ne_true

theorem startServer_tended (h : Tended connection False w) (serverUrl : QUrl)
    (during : List SocketState) :
    ∃ connection, Tended connection False (Host.startServer env w serverUrl during) := by
  rw [Host.startServer]
  split
  · exact ⟨connection,h⟩
  · next hvalid =>
    exact ⟨w.server.connections,((openConnection_tended h hvalid).deliver _).restated
      (.of_eq rfl rfl rfl rfl) (.inl rfl)⟩

theorem reconnectTimeout_tended (h : Tended connection False w) (during : List SocketState) :
    ∃ connection, Tended connection False (Host.reconnectTimeout env w during) := by
  have hticked : Tended connection False (w.lift fun s =>
      { s with m_reconnectTimer := s.m_reconnectTimer.timeout s.now }) :=
    h.restated (.of_eq rfl rfl rfl rfl) (.inl rfl)
  simp only [Host.reconnectTimeout]
  split
  · generalize (w.lift fun s =>
      { s with m_reconnectTimer := s.m_reconnectTimer.timeout s.now }) = v at hticked ⊢
    split
    · exact ⟨connection,hticked.restated (.of_eq rfl rfl rfl rfl) (.inl rfl)⟩
    · split
      · exact startServer_tended hticked _ during
      · exact ⟨connection,hticked⟩
  · exact ⟨connection,h⟩

theorem keepAliveTimeout_m_state (env : Qt) (s : TunnelProxySocketServer) :
    (s.keepAliveTimeout env).m_state = s.m_state := by
  simp only [TunnelProxySocketServer.keepAliveTimeout]
  split
  · split
    · rfl
    · rfl
  · rfl

def Connected (w : Host) : Event → Prop
  | .dataReceived connection _ _ => (w.connection connection).m_connected = true
  | _ => True

theorem step_tended (h : Tended connection False w) {event : Event} (hcurrent : Current w event)
    (hconnected : Connected w event) (hfresh : Fresh (step env w event).handled)
    (hstanding : Standing (step env w event).handled) :
    ∃ connection, Tended connection False (step env w event) := by
  have hcrash : Tended connection False w.crash :=
    ⟨h.accounted,h.served,h.up,h.current,h.connected⟩
  cases event with
  | startServer serverUrl during => exact startServer_tended h serverUrl during
  | stopServer closing =>
    have hstopped : Tended connection False (w.lift fun s =>
        { s with m_enabled := false, m_reconnectTimer := s.m_reconnectTimer.stop }) :=
      h.restated (.of_eq rfl rfl rfl rfl) (.inl rfl)
    simp only [Host.step,Host.stopServer]
    split
    · exact ⟨connection,hstopped.disconnectServer⟩
    · exact ⟨connection,hstopped⟩
  | reconnectTimeout during => exact reconnectTimeout_tended h during
  | keepAliveTimeout =>
    simp only [Host.step,Host.keepAliveTimeout]
    split
    · exact ⟨connection,hcrash⟩
    · exact ⟨connection,h.restated (keepAliveTimeout_restated env _)
        (.inl (keepAliveTimeout_m_state env _))⟩
  | requestSocketDisconnect socketAddress =>
    simp only [Host.step,Host.requestSocketDisconnect]
    split
    · exact ⟨connection,hcrash⟩
    · exact ⟨connection,h.restated (request_restated _ _ _) (.inl rfl)⟩
  | writeData socketAddress data =>
    simp only [Host.step,Host.writeData]
    split
    · exact ⟨connection,h⟩
    · next socket _ =>
      exact ⟨connection,h.restated
        (.of_emit (o := .sendData (socket.writeData data)) rfl rfl rfl rfl rfl) (.inl rfl)⟩
  | socket c signals =>
    obtain rfl := h.current c hcurrent
    exact ⟨c,h.deliver signals⟩
  | dataReceived c data closing =>
    obtain rfl := h.current c hcurrent
    have hsteady : Tended c True w := by
      refine ⟨h.accounted,h.served,h.up,h.current,fun _ d hd => ?_⟩
      rw [h.current d hd]
      exact hconnected
    have hkept : Kept c (step env w (.dataReceived c data closing)) :=
      dataAvailable_kept (fun _ _ => hsteady) data
    have ht := hkept hfresh hstanding
    exact ⟨c,ht.accounted,ht.served,ht.up,ht.current,fun hf => hf.elim⟩
  | elapse ms => exact ⟨connection,h.restated (.of_eq rfl rfl rfl rfl) (.inl rfl)⟩

instance (w : Host) : DecidablePred (Connected w)
  | .dataReceived connection _ _ =>
    inferInstanceAs (Decidable ((w.connection connection).m_connected = true))
  | .socket _ _ => inferInstanceAs (Decidable True)
  | .startServer _ _ => inferInstanceAs (Decidable True)
  | .stopServer _ => inferInstanceAs (Decidable True)
  | .reconnectTimeout _ => inferInstanceAs (Decidable True)
  | .keepAliveTimeout => inferInstanceAs (Decidable True)
  | .requestSocketDisconnect _ => inferInstanceAs (Decidable True)
  | .writeData _ _ => inferInstanceAs (Decidable True)
  | .elapse _ => inferInstanceAs (Decidable True)

/-- Announced sockets are retired once at most, and those that are not yet retired are the ones of the
table, which is empty without a connected connection. -/
structure Retired (w : Host) : Prop where
  once : WellBracketed announced w.server.marks
  outstanding : ∀ a, w.server.m_tunnelProxySockets.value a = Sessions.table w.server.marks a
  disconnected : ∀ socket, .clientDisconnected socket ∈ w.server.output →
    socket.m_connected = false
  lost : (∀ c, w.server.m_connection = some c → (w.connection c).m_connected = false) →
    w.server.m_tunnelProxySockets.keys = []
  down : w.server.m_state = .StateDisconnected → w.server.m_tunnelProxySockets.keys = []

theorem Tended.retired (h : Tended connection connected w) : Retired w := by
  refine ⟨h.accounted.bracketed,h.accounted.table,h.accounted.retired,fun hlost => ?_,
    fun hdown => ?_⟩
  · by_contra hkeys
    obtain ⟨c,hc,hup⟩ := h.served hkeys
    exact Bool.false_ne_true ((hlost c hc).symm.trans hup)
  · by_contra hkeys
    obtain ⟨c,hc,hup⟩ := h.served hkeys
    exact h.up c hc hup hdown

theorem emptied_reported (env : Qt) : Reported env fun s => s.m_tunnelProxySockets.keys = [] where
  disconnecting s h := h
  changed s connected h := by
    cases connected with
    | true => exact (connected_restated env s).sockets ▸ h
    | false => exact cleanUp_sockets _
  stateChanged s state h := (stateChanged_restated s state).sockets ▸ h

theorem startServer_emptied (w : Host) {serverUrl : QUrl} (hvalid : serverUrl.isValid = true)
    (hurl : serverUrl.toString.isEmpty = false) (during : List SocketState) :
    (Host.startServer env w serverUrl during).server.m_tunnelProxySockets.keys = [] := by
  have hcond : ¬(!serverUrl.isValid || serverUrl.toString.isEmpty) = true := by
    rw [hvalid,hurl]
    decide
  have hopened : (w.openConnection serverUrl).server.m_tunnelProxySockets.keys = [] := by
    rw [openConnection,TunnelProxySocketServer.startServer,if_neg hcond]
    exact cleanUp_sockets { w.server with m_serverUrl := serverUrl }
  rw [Host.startServer,if_neg hcond]
  exact (emptied_reported env).deliver hopened _ _

/-- A socket is retired once, when its client leaves or the connection is lost or replaced, as long
as no client is announced after a response in the same data has closed the connection. -/
theorem sockets_retired (env : Qt) (serverUuid : QUuid) (serverName : String)
    (connectionType : ConnectionType) (events : List Event)
    (hcurrent : Runs.Along (step env) Current (new serverUuid serverName connectionType) events)
    (hconnected : Runs.Along (step env) Connected (new serverUuid serverName connectionType) events)
    (hfresh : Runs.Along (step env) (fun w event => Fresh (step env w event).handled)
      (new serverUuid serverName connectionType) events)
    (hstanding : Runs.Along (step env) (fun w event => Standing (step env w event).handled)
      (new serverUuid serverName connectionType) events) :
    Runs.Always (step env) Retired (new serverUuid serverName connectionType) events ∧
      (∀ (w : Host) (serverUrl : QUrl) (during : List SocketState), serverUrl.isValid = true →
        serverUrl.toString.isEmpty = false →
          (Host.startServer env w serverUrl during).server.m_tunnelProxySockets.keys = []) ∧
      ∀ (w : Host) (closing : List SocketSignal) (socketAddress : UInt16),
        (Host.slot env closing (.tunnelProxyClientDisonnected socketAddress)
          w).server.m_tunnelProxySockets.value socketAddress = none := by
  have hnew : ∃ connection, Tended connection False (new serverUuid serverName connectionType) := by
    refine ⟨0,.of_clean ⟨.nil,fun a => QHash.value_empty a,fun a socket ha => ?_,fun socket hm => ?_⟩
      rfl rfl⟩
    · exact absurd ((QHash.value_empty a).symm.trans ha) (by simp)
    · cases hm
  have hall := Runs.along_and.mpr ⟨Runs.along_and.mpr ⟨hcurrent,hconnected⟩,
    Runs.along_and.mpr ⟨hfresh,hstanding⟩⟩
  refine ⟨?_,fun w serverUrl during hvalid hurl => startServer_emptied w hvalid hurl during,
    fun w closing socketAddress => ?_⟩
  · have htended := Runs.always_of_along (I := fun w => ∃ connection, Tended connection False w)
      hnew ?_ hall
    · exact htended.imp fun w ⟨connection,h⟩ => h.retired
    · exact fun w event ⟨connection,h⟩ hevent =>
        step_tended h hevent.1.1 hevent.1.2 hevent.2.1 hevent.2.2
  · exact (clientDisconnected_value w.server socketAddress socketAddress).trans (if_pos rfl)

def connectedRun : List Event :=
  [.startServer ⟨"tcp://127.0.0.1:2213",true⟩ [.HostLookupState,.ConnectingState],
    .socket 0 [.stateChanged .ConnectedState]]

def connectedNotification : QVariantMap :=
  [("id",.number 0 0),("notification",.string "TunnelProxy.ClientConnected"),
    ("params",.map [("clientName",.string "client"),("clientPeerAddress",.string "10.0.0.1"),
      ("clientUuid",.string (uuidText 5)),("socketAddress",.number 1 0)])]

def refusedHello : QVariantMap :=
  [("error",.string "Invalid"),("id",.number 0 0),("status",.string "error")]

def closingSignals : List SocketSignal :=
  [.stateChanged .ClosingState,.stateChanged .UnconnectedState,.disconnected]

def line (m : QVariantMap) : QByteArray := QJsonDocument.toJson (.map m) ++ [JsonPackets.newline]

def lostRun : List Event :=
  connectedRun ++ [.dataReceived 0 (line helloResponse) [],
    .dataReceived 0 (line registerServerResponse) [],
    .dataReceived 0 (encoded [⟨0,line connectedNotification⟩]) [],.socket 0 closingSignals]

theorem sockets_retired_sample :
    Runs.Always
        (step (Qt.onDocuments [helloResponse,registerServerResponse,connectedNotification])) Retired
        (new ⟨1⟩ "server" .ConnectionTypeTcpSocket) lostRun ∧
      (∀ (w : Host) (serverUrl : QUrl) (during : List SocketState), serverUrl.isValid = true →
        serverUrl.toString.isEmpty = false →
          (Host.startServer (Qt.onDocuments [helloResponse,registerServerResponse,
            connectedNotification]) w serverUrl during).server.m_tunnelProxySockets.keys = []) ∧
      ∀ (w : Host) (closing : List SocketSignal) (socketAddress : UInt16),
        (Host.slot (Qt.onDocuments [helloResponse,registerServerResponse,connectedNotification])
          closing (.tunnelProxyClientDisonnected socketAddress)
            w).server.m_tunnelProxySockets.value socketAddress = none :=
  sockets_retired _ _ _ _ lostRun (by decide +kernel) (by decide +kernel) (by decide +kernel)
    (by decide +kernel)

def refusedRun : List Event :=
  connectedRun ++
    [.dataReceived 0 (line refusedHello ++ line connectedNotification) closingSignals]

theorem refused_announcement :
    Runs.Along (step (Qt.onDocuments [refusedHello,connectedNotification])) Current
        (new ⟨1⟩ "server" .ConnectionTypeTcpSocket) refusedRun ∧
      Runs.Along (step (Qt.onDocuments [refusedHello,connectedNotification])) Connected
        (new ⟨1⟩ "server" .ConnectionTypeTcpSocket) refusedRun ∧
      Runs.Along (step (Qt.onDocuments [refusedHello,connectedNotification]))
        (fun w event => Fresh
          (step (Qt.onDocuments [refusedHello,connectedNotification]) w event).handled)
        (new ⟨1⟩ "server" .ConnectionTypeTcpSocket) refusedRun ∧
      ¬Runs.Always (step (Qt.onDocuments [refusedHello,connectedNotification])) Retired
        (new ⟨1⟩ "server" .ConnectionTypeTcpSocket) refusedRun := by
  refine ⟨by decide +kernel,by decide +kernel,by decide +kernel,fun h => ?_⟩
  have hlast := h.last.down (by decide +kernel)
  exact absurd hlast (by decide +kernel)

end Host

end RemoteProxy.TunnelProxySocketServer
