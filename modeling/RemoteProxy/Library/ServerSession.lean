import RemoteProxy.Library.FrameStream
import RemoteProxy.Library.Session

namespace RemoteProxy.TunnelProxySocketServer

open JsonPackets JsonRpcClient Handshake SlipDataProcessor

variable {env : Qt} {s t : TunnelProxySocketServer}

section Slots

theorem setState_m_state (s : TunnelProxySocketServer) (state : State) :
    (s.setState state).m_state = state := by
  have hrunning (t : TunnelProxySocketServer) (running : Bool) :
      (t.setRunning running).m_state = t.m_state := by
    rw [setRunning]
    split <;> rfl
  have hreconnect (t : TunnelProxySocketServer) : t.reconnectIfDown.m_state = t.m_state := by
    rw [reconnectIfDown]
    split <;> rfl
  rw [setState]
  split
  · next h => exact h
  · rw [hreconnect,hrunning]
    rfl

theorem request_m_state (s : TunnelProxySocketServer) (call : JsonRpcClient → Called)
    (slot : FinishedSlot) : (s.request call slot).m_state = s.m_state := rfl

structure SameSession (s t : TunnelProxySocketServer) : Prop where
  jsonClient : t.m_jsonClient = s.m_jsonClient
  finishedSlot : t.finishedSlot = s.finishedSlot
  sockets : t.m_tunnelProxySockets = s.m_tunnelProxySockets

theorem SameSession.trans {u : TunnelProxySocketServer} (h : SameSession s t)
    (h' : SameSession t u) : SameSession s u :=
  ⟨h'.jsonClient.trans h.jsonClient,h'.finishedSlot.trans h.finishedSlot,
    h'.sockets.trans h.sockets⟩

theorem setState_same (s : TunnelProxySocketServer) (state : State) :
    SameSession s (s.setState state) := by
  have hrunning (t : TunnelProxySocketServer) (running : Bool) :
      SameSession t (t.setRunning running) := by
    rw [setRunning]
    split <;> exact ⟨rfl,rfl,rfl⟩
  have hreconnect (t : TunnelProxySocketServer) : SameSession t t.reconnectIfDown := by
    rw [reconnectIfDown]
    split <;> exact ⟨rfl,rfl,rfl⟩
  rw [setState]
  split
  · exact ⟨rfl,rfl,rfl⟩
  · have hset : SameSession s ({ s with m_state := state }.emit (.stateChanged state)) :=
      ⟨rfl,rfl,rfl⟩
    exact (hset.trans (hrunning _ _)).trans (hreconnect _)

def Output.isStatus : Output → Bool
  | .stateChanged _ => true
  | .runningChanged _ => true
  | .serverErrorOccurred _ => true
  | .disconnectServer => true
  | .sendData _ => true
  | _ => false

structure Restated (s t : TunnelProxySocketServer) : Prop where
  sockets : t.m_tunnelProxySockets = s.m_tunnelProxySockets
  connection : t.m_connection = s.m_connection
  dataBuffer : t.m_dataBuffer = s.m_dataBuffer
  told : ∃ told, t.output = s.output ++ told ∧ ∀ o ∈ told, Output.isStatus o = true

theorem Restated.trans {u : TunnelProxySocketServer} (h : Restated s t) (h' : Restated t u) :
    Restated s u := by
  obtain ⟨told,he,htold⟩ := h.told
  obtain ⟨told',he',htold'⟩ := h'.told
  refine ⟨h'.sockets.trans h.sockets,h'.connection.trans h.connection,
    h'.dataBuffer.trans h.dataBuffer,told ++ told',?_,?_⟩
  · rw [he',he,List.append_assoc]
  · exact fun o ho => (List.mem_append.mp ho).elim (htold o) (htold' o)

theorem Restated.of_eq (hsockets : t.m_tunnelProxySockets = s.m_tunnelProxySockets)
    (hconnection : t.m_connection = s.m_connection) (hbuffer : t.m_dataBuffer = s.m_dataBuffer)
    (houtput : t.output = s.output) : Restated s t :=
  ⟨hsockets,hconnection,hbuffer,[],houtput.trans (List.append_nil _).symm,
    fun _ h => absurd h List.not_mem_nil⟩

theorem Restated.of_emit {o : Output} (ho : o.isStatus = true)
    (hsockets : t.m_tunnelProxySockets = s.m_tunnelProxySockets)
    (hconnection : t.m_connection = s.m_connection) (hbuffer : t.m_dataBuffer = s.m_dataBuffer)
    (houtput : t.output = s.output ++ [o]) : Restated s t :=
  ⟨hsockets,hconnection,hbuffer,[o],houtput,fun _ h => List.mem_singleton.mp h ▸ ho⟩

theorem setState_restated (s : TunnelProxySocketServer) (state : State) :
    Restated s (s.setState state) := by
  have hrunning (t : TunnelProxySocketServer) (running : Bool) :
      Restated t (t.setRunning running) := by
    rw [setRunning]
    split
    · exact .of_eq rfl rfl rfl rfl
    · exact .of_emit (o := .runningChanged running) rfl rfl rfl rfl rfl
  have hreconnect (t : TunnelProxySocketServer) : Restated t t.reconnectIfDown := by
    rw [reconnectIfDown]
    split
    · exact .of_eq rfl rfl rfl rfl
    · exact .of_eq rfl rfl rfl rfl
  rw [setState]
  split
  · exact .of_eq rfl rfl rfl rfl
  · have hset : Restated s ({ s with m_state := state }.emit (.stateChanged state)) :=
      .of_emit (o := .stateChanged state) rfl rfl rfl rfl rfl
    exact (hset.trans (hrunning _ _)).trans (hreconnect _)

theorem setServerError_restated (s : TunnelProxySocketServer) (error : Error) :
    Restated s (s.setServerError error) := by
  rw [setServerError]
  split
  · exact .of_eq rfl rfl rfl rfl
  · exact .of_emit (o := .serverErrorOccurred error) rfl rfl rfl rfl rfl

theorem refuse_restated (s : TunnelProxySocketServer) : Restated s s.refuse := by
  have hemit : Restated s (s.emit .disconnectServer) :=
    .of_emit (o := .disconnectServer) rfl rfl rfl rfl rfl
  exact hemit.trans (setServerError_restated _ _)

theorem request_restated (s : TunnelProxySocketServer) (call : JsonRpcClient → Called)
    (finished : FinishedSlot) : Restated s (s.request call finished) :=
  .of_emit (o := .sendData (call s.m_jsonClient).data) rfl rfl rfl rfl rfl

theorem finished_restated (env : Qt) (s : TunnelProxySocketServer) (reply : Nat) :
    Restated s (slot env (.finished reply) s) := by
  simp only [slot]
  cases s.finishedSlot reply with
  | onHelloFinished =>
    simp only [onHelloFinished]
    split
    · exact refuse_restated s
    · have hremote : Restated s (s.setRemoteProxy env
          ((s.m_jsonClient.reply reply).m_response.value "params").toMap) :=
        .of_eq rfl rfl rfl rfl
      exact (hremote.trans (setState_restated _ _)).trans (request_restated _ _ _)
  | onServerRegistrationFinished =>
    simp only [onServerRegistrationFinished]
    split
    · exact refuse_restated s
    · split
      · exact refuse_restated s
      · exact (setState_restated s _).trans (.of_eq rfl rfl rfl rfl)
  | disconnectFinished => exact .of_eq rfl rfl rfl rfl
  | pingFinished => exact .of_eq rfl rfl rfl rfl

theorem stateChanged_restated (s : TunnelProxySocketServer) (state : SocketState) :
    Restated s (s.onConnectionStateChanged state) := by
  cases state with
  | ConnectedState => exact (setState_restated s _).trans (.of_eq rfl rfl rfl rfl)
  | BoundState => exact .of_eq rfl rfl rfl rfl
  | ListeningState => exact .of_eq rfl rfl rfl rfl
  | _ => exact setState_restated s _

theorem connected_restated (env : Qt) (s : TunnelProxySocketServer) :
    Restated s (s.onConnectionChanged env true) := by
  have hset : Restated s { s.setState .StateConnected with m_serverError := .ErrorNoError } :=
    (setState_restated s _).trans (.of_eq rfl rfl rfl rfl)
  exact (hset.trans (setState_restated _ _)).trans (request_restated _ _ _)

theorem cleanUp_restated (s : TunnelProxySocketServer) :
    Restated { s.m_tunnelProxySockets.keys.foldl onTunnelProxyClientDisconnected s with
      m_connection := none } s.cleanUp := by
  have hcleared : Restated { s.m_tunnelProxySockets.keys.foldl onTunnelProxyClientDisconnected s with
      m_connection := none }
      { s.m_tunnelProxySockets.keys.foldl onTunnelProxyClientDisconnected s with
        m_connection := none
        m_remoteProxyServer := ""
        m_remoteProxyServerName := ""
        m_remoteProxyServerVersion := ""
        m_remoteProxyApiVersion := "" } := .of_eq rfl rfl rfl rfl
  exact hcleared.trans (setState_restated _ _)

theorem clientDisconnected_value (s : TunnelProxySocketServer) (socketAddress a : UInt16) :
    (s.onTunnelProxyClientDisconnected socketAddress).m_tunnelProxySockets.value a =
      if a = socketAddress then none else s.m_tunnelProxySockets.value a := by
  rw [onTunnelProxyClientDisconnected]
  split
  · next hnone =>
    split
    · next he => rw [he,hnone]
    · rfl
  · exact QHash.value_remove _ _ _

theorem retireAll_value (addresses : List UInt16) (s : TunnelProxySocketServer) (a : UInt16) :
    (addresses.foldl onTunnelProxyClientDisconnected s).m_tunnelProxySockets.value a =
      if a ∈ addresses then none else s.m_tunnelProxySockets.value a := by
  induction addresses generalizing s with
  | nil => exact (if_neg List.not_mem_nil).symm
  | cons socketAddress addresses ih =>
    rw [List.foldl_cons,ih,clientDisconnected_value]
    by_cases ha : a = socketAddress
    · simp [ha]
    · simp [ha]

theorem cleanUp_sockets (s : TunnelProxySocketServer) : s.cleanUp.m_tunnelProxySockets.keys = [] := by
  rw [(cleanUp_restated s).sockets]
  refine List.eq_nil_iff_forall_not_mem.mpr fun a ha => ?_
  obtain ⟨socket,hv⟩ := (QHash.mem_keys _ a).mp ha
  have hall := (retireAll_value s.m_tunnelProxySockets.keys s a).symm.trans hv
  split at hall
  · cases hall
  · next hmem => exact hmem ((QHash.mem_keys _ a).mpr ⟨socket,hall⟩)

theorem cleanUp_connection (s : TunnelProxySocketServer) : s.cleanUp.m_connection = none :=
  (cleanUp_restated s).connection

theorem keepAliveTimeout_restated (env : Qt) (s : TunnelProxySocketServer) :
    Restated s (s.keepAliveTimeout env) := by
  simp only [keepAliveTimeout]
  split
  · have hticked : Restated s
        { s with m_keepAliveTimer := s.m_keepAliveTimer.timeout s.now } :=
      .of_eq rfl rfl rfl rfl
    split
    · exact hticked.trans (request_restated _ _ _)
    · exact .of_eq rfl rfl rfl rfl
  · exact .of_eq rfl rfl rfl rfl

theorem refuse_same (s : TunnelProxySocketServer) :
    SameSession s s.refuse ∧ s.refuse.m_state = s.m_state := by
  rw [refuse,setServerError]
  split
  · exact ⟨⟨rfl,rfl,rfl⟩,rfl⟩
  · exact ⟨⟨rfl,rfl,rfl⟩,rfl⟩

theorem finished_refused (reply : Nat)
    (h : env.toString ((s.m_jsonClient.reply reply).m_response.value "status") ≠ "success") :
    SameSession s (slot env (.finished reply) s) ∧
      (slot env (.finished reply) s).m_state = s.m_state := by
  simp only [slot]
  cases s.finishedSlot reply with
  | onHelloFinished =>
    simp only [onHelloFinished,if_pos h]
    exact refuse_same s
  | onServerRegistrationFinished =>
    simp only [onServerRegistrationFinished,if_pos h]
    exact refuse_same s
  | disconnectFinished => exact ⟨⟨rfl,rfl,rfl⟩,rfl⟩
  | pingFinished => exact ⟨⟨rfl,rfl,rfl⟩,rfl⟩

theorem notified_same {dataMap : QVariantMap} {signal : Signal}
    (h : notificationSignal env dataMap = some signal) (s : TunnelProxySocketServer) :
    (slot env signal s).m_state = s.m_state ∧ (slot env signal s).finishedSlot = s.finishedSlot ∧
      (slot env signal s).m_jsonClient = s.m_jsonClient := by
  cases signal with
  | finished reply => exact absurd h (notificationSignal_ne_finished dataMap reply)
  | tunnelEstablished => exact ⟨rfl,rfl,rfl⟩
  | tunnelProxyClientConnected => exact ⟨rfl,rfl,rfl⟩
  | tunnelProxyClientDisonnected socketAddress =>
    simp only [slot,onTunnelProxyClientDisconnected]
    split <;> exact ⟨rfl,rfl,rfl⟩

end Slots

theorem handle_cases (env : Qt) (s : TunnelProxySocketServer) (packet : QByteArray) :
    handle env (owner env) packet s = s ∨
    ∃ jsonDoc, env.fromJson packet = .ok jsonDoc ∧
      ((∃ reply, s.m_jsonClient.m_replies.value (commandIdOf env jsonDoc.toMap) = some reply ∧
        handle env (owner env) packet s = slot env (.finished reply)
          { s with
            m_jsonClient := s.m_jsonClient.finishReply reply jsonDoc.toMap
              (commandIdOf env jsonDoc.toMap) }) ∨
      (s.m_jsonClient.m_replies.value (commandIdOf env jsonDoc.toMap) = none ∧
        (handle env (owner env) packet s).m_state = s.m_state ∧
        (handle env (owner env) packet s).finishedSlot = s.finishedSlot ∧
        (handle env (owner env) packet s).m_jsonClient =
          s.m_jsonClient.forget (commandIdOf env jsonDoc.toMap))) := by
  rcases JsonRpcClient.handle_cases env (owner env) s packet with
    h | ⟨jsonDoc,hj,⟨reply,hr,h⟩ | ⟨hr,u,hu,h⟩⟩
  · exact .inl h
  · exact .inr ⟨jsonDoc,hj,.inl ⟨reply,hr,h⟩⟩
  · refine .inr ⟨jsonDoc,hj,.inr ⟨hr,?_⟩⟩
    rcases h with h | ⟨signal,hn,h⟩
    · rw [h,hu]
      exact ⟨rfl,rfl,rfl⟩
    · obtain ⟨h1,h2,h3⟩ := notified_same hn u
      change (handle env (owner env) packet s) = slot env signal u at h
      rw [h,h1,h2,h3,hu]
      exact ⟨rfl,rfl,rfl⟩

section Session

structure Sound (s : TunnelProxySocketServer) : Prop where
  onlyZero : OnlyZero s.m_jsonClient
  running : s.m_state = .StateRunning → s.m_jsonClient.m_replies.value 0 = none

structure Awaiting (slot : FinishedSlot) (s : TunnelProxySocketServer) : Prop where
  notRunning : s.m_state ≠ .StateRunning
  onlyZero : OnlyZero s.m_jsonClient
  awaited : ∃ reply, s.m_jsonClient.m_replies.value 0 = some reply ∧ s.finishedSlot reply = slot

theorem Awaiting.sound {slot : FinishedSlot} (h : Awaiting slot s) : Sound s :=
  ⟨h.onlyZero,fun hr => absurd hr h.notRunning⟩

def Requested (s : TunnelProxySocketServer) : Prop := Sent "RegisterServer" s.m_jsonClient

structure Greeting (s : TunnelProxySocketServer) : Prop where
  awaiting : Awaiting .onHelloFinished s
  notRequested : ¬Requested s

theorem request_awaiting {nameSpace method : String} {params : QVariantMap} {slipEnabled : Bool}
    {slot : FinishedSlot} (h : OnlyZero s.m_jsonClient) (hn : s.m_state ≠ .StateRunning) :
    Awaiting slot (s.request (call env nameSpace method params slipEnabled) slot) := by
  obtain ⟨hzero,hvalue⟩ := h.call env nameSpace method params slipEnabled
  exact ⟨hn,hzero,s.m_jsonClient.created,hvalue,Function.update_self ..⟩

theorem connected_request (env : Qt) (s : TunnelProxySocketServer) :
    ∃ u : TunnelProxySocketServer,
      s.onConnectionChanged env true = u.request (callHello env) .onHelloFinished ∧
        u.m_state = .StateInitializing ∧ u.m_jsonClient = s.m_jsonClient := by
  refine ⟨_,rfl,setState_m_state _ _,?_⟩
  rw [(setState_same _ _).jsonClient]
  exact (setState_same s _).jsonClient

theorem greeting_connected (env : Qt) (h : s.m_jsonClient = .new) :
    Greeting (s.onConnectionChanged env true) ∧
      (s.onConnectionChanged env true).m_jsonClient.m_dataBuffer = [] := by
  obtain ⟨u,he,hstate,hclient⟩ := connected_request env s
  rw [h] at hclient
  have hzero : OnlyZero u.m_jsonClient := by
    rw [hclient]
    exact ⟨rfl,fun k _ => QHash.value_empty k⟩
  rw [he]
  refine ⟨⟨request_awaiting hzero (by rw [hstate]; decide),?_⟩,?_⟩
  · rintro ⟨reply,hr,hm⟩
    have hcreated : reply < u.m_jsonClient.created + 1 := hr
    have hmethod : (Function.update u.m_jsonClient.reply u.m_jsonClient.created
        ((JsonReply.new u.m_jsonClient.m_commandId "RemoteProxy" "Hello" []).requestMap.2)
          reply).m_method = "RegisterServer" := hm
    rw [hclient] at hcreated hmethod
    have hreply : reply = 0 := Nat.lt_one_iff.mp hcreated
    rw [hreply] at hmethod
    exact absurd hmethod (by decide)
  · change u.m_jsonClient.m_dataBuffer = []
    rw [hclient]
    rfl

theorem Greeting.connectedState (h : Greeting s) :
    Greeting (s.onConnectionStateChanged .ConnectedState) := by
  have hsame := setState_same s .StateConnected
  refine ⟨⟨?_,?_,?_⟩,?_⟩
  · change (s.setState .StateConnected).m_state ≠ _
    rw [setState_m_state]
    decide
  · exact hsame.jsonClient ▸ h.awaiting.onlyZero
  · change ∃ reply, (s.setState .StateConnected).m_jsonClient.m_replies.value 0 = some reply ∧
      (s.setState .StateConnected).finishedSlot reply = _
    rw [hsame.jsonClient,hsame.finishedSlot]
    exact h.awaiting.awaited
  · change ¬Sent "RegisterServer" (s.setState .StateConnected).m_jsonClient
    rw [hsame.jsonClient]
    exact h.notRequested

/-- The connection has been established and its socket may have reported its state. -/
def Connected (env : Qt) (s t : TunnelProxySocketServer) : Prop :=
  t = s.onConnectionChanged env true ∨
    t = (s.onConnectionChanged env true).onConnectionStateChanged .ConnectedState

theorem Connected.greeting (ht : Connected env s t) (h : s.m_jsonClient = .new) :
    Greeting t ∧ t.m_jsonClient.m_dataBuffer = [] := by
  obtain ⟨hgreeting,hbuf⟩ := greeting_connected env h
  rcases ht with rfl | rfl
  · exact ⟨hgreeting,hbuf⟩
  · refine ⟨hgreeting.connectedState,?_⟩
    change (setState _ .StateConnected).m_jsonClient.m_dataBuffer = []
    rw [(setState_same _ _).jsonClient]
    exact hbuf

theorem sound_handle (h : Sound s) (packet : QByteArray) :
    Sound (handle env (owner env) packet s) := by
  rcases handle_cases env s packet with
    he | ⟨jsonDoc,hj,⟨reply,hr,he⟩ | ⟨hr,hstate,-,hclient⟩⟩
  · rw [he]
    exact h
  · generalize hu : ({ s with
      m_jsonClient := s.m_jsonClient.finishReply reply jsonDoc.toMap
        (commandIdOf env jsonDoc.toMap) } : TunnelProxySocketServer) = u at he
    have hid := h.onlyZero.awaited hr
    have hzero : OnlyZero u.m_jsonClient := hu ▸ h.onlyZero.finishReply _ _ _
    have hnone : u.m_jsonClient.m_replies.value 0 = none := by
      rw [← hu,← hid]
      exact (QHash.value_remove _ _ _).trans (if_pos rfl)
    have hsame {v : TunnelProxySocketServer} (hv : SameSession u v) : Sound v := by
      refine ⟨by rw [hv.jsonClient]; exact hzero,fun _ => ?_⟩
      rw [hv.jsonClient]
      exact hnone
    rw [he]
    simp only [slot]
    cases u.finishedSlot reply with
    | onHelloFinished =>
      simp only [onHelloFinished]
      split
      · exact hsame (refuse_same u).1
      · refine Awaiting.sound (request_awaiting ?_ ?_)
        · rw [(setState_same _ _).jsonClient]
          exact hzero
        · rw [setState_m_state]
          decide
    | onServerRegistrationFinished =>
      simp only [onServerRegistrationFinished]
      split
      · exact hsame (refuse_same u).1
      · split
        · exact hsame (refuse_same u).1
        · have hv := setState_same u .StateRunning
          exact hsame ⟨hv.jsonClient,hv.finishedSlot,hv.sockets⟩
    | disconnectFinished => exact hsame ⟨rfl,rfl,rfl⟩
    | pingFinished => exact hsame ⟨rfl,rfl,rfl⟩
  · refine ⟨?_,fun hrun => ?_⟩
    · rw [hclient]
      exact ⟨h.onlyZero.commandId,h.onlyZero.remove _⟩
    · rw [hstate] at hrun
      rw [hclient]
      refine (QHash.value_remove _ _ _).trans ?_
      split
      · rfl
      · exact h.running hrun

theorem running_handle (h : Sound s) (hrun : s.m_state = .StateRunning) (packet : QByteArray) :
    (handle env (owner env) packet s).m_state = .StateRunning := by
  rcases handle_cases env s packet with
    he | ⟨jsonDoc,hj,⟨reply,hr,he⟩ | ⟨hr,hstate,-⟩⟩
  · rw [he]
    exact hrun
  · rw [h.onlyZero.awaited hr,h.running hrun] at hr
    exact absurd hr (by simp)
  · exact hstate.trans hrun

/-- Packets depend neither on the timers nor on what is still in a buffer. -/
structure Alike (s t : TunnelProxySocketServer) : Prop where
  state : t.m_state = s.m_state
  finishedSlot : t.finishedSlot = s.finishedSlot
  commandId : t.m_jsonClient.m_commandId = s.m_jsonClient.m_commandId
  replies : t.m_jsonClient.m_replies = s.m_jsonClient.m_replies
  reply : t.m_jsonClient.reply = s.m_jsonClient.reply
  created : t.m_jsonClient.created = s.m_jsonClient.created

theorem Alike.onlyZero (h : Alike s t) (hs : OnlyZero s.m_jsonClient) : OnlyZero t.m_jsonClient :=
  ⟨h.commandId.trans hs.commandId,by rw [h.replies]; exact hs.others⟩

theorem Alike.sound (h : Alike s t) (hs : Sound s) : Sound t := by
  refine ⟨h.onlyZero hs.onlyZero,?_⟩
  rw [h.state,h.replies]
  exact hs.running

theorem Alike.awaiting {slot : FinishedSlot} (h : Alike s t) (hs : Awaiting slot s) :
    Awaiting slot t := by
  refine ⟨by rw [h.state]; exact hs.notRunning,h.onlyZero hs.onlyZero,?_⟩
  rw [h.replies,h.finishedSlot]
  exact hs.awaited

theorem Alike.requested (h : Alike s t) : Requested t ↔ Requested s := by
  rw [Requested,Sent,h.created,h.reply]
  rfl

def receiver (env : Qt) : Receiver TunnelProxySocketServer where
  buffer s := s.m_jsonClient.m_dataBuffer
  json s chunk :=
    { ({ s with m_keepAliveTimer := s.m_keepAliveTimer.start s.now } :
        TunnelProxySocketServer).jsonData env chunk with m_dataBuffer := [] }
  direct s chunk :=
    ({ s with m_keepAliveTimer := s.m_keepAliveTimer.start s.now } :
      TunnelProxySocketServer).slipData env chunk
  ready s := s.m_state = .StateRunning
  requested := Requested

theorem onConnectionDataAvailable_eq (s : TunnelProxySocketServer) (chunk : QByteArray) :
    s.onConnectionDataAvailable env chunk = (receiver env).step s chunk := by
  by_cases h : s.m_state = .StateRunning
  · rw [Receiver.step_direct _ (decide_eq_true h)]
    exact if_neg (not_not.mpr h)
  · rw [Receiver.step_json _ (decide_eq_false h)]
    exact if_pos h

theorem processFrame_preserves {P : TunnelProxySocketServer → Prop}
    (hemit : ∀ s o, P s → P (s.emit o)) (hhandle : ∀ s p, P s → P (handle env (owner env) p s))
    (hbuffer : ∀ s b, P s → P { s with m_jsonClient := { s.m_jsonClient with m_dataBuffer := b } })
    (h : P s) (frame : Frame) : P (s.processFrame env frame) := by
  rw [processFrame]
  split
  · exact processData_preserves (fun p s => hhandle s p) hbuffer (hemit _ _ (hemit _ _ h)) _
  · split
    · exact hemit _ _ h
    · exact hemit _ _ (hemit _ _ h)

theorem slipData_preserves {P : TunnelProxySocketServer → Prop}
    (hemit : ∀ s o, P s → P (s.emit o)) (hhandle : ∀ s p, P s → P (handle env (owner env) p s))
    (hbuffer : ∀ s b, P s → P { s with m_jsonClient := { s.m_jsonClient with m_dataBuffer := b } })
    (hclear : ∀ s b, P s → P { s with m_dataBuffer := b }) (h : P s) (data : QByteArray) :
    P (s.slipData env data) := by
  have hfold : ∀ (frames : List Frame) (s : TunnelProxySocketServer), P s →
      P (frames.foldl (processFrame env) s) := by
    intro frames
    induction frames with
    | nil => exact fun s h => h
    | cons frame frames ih =>
      exact fun s h => ih _ (processFrame_preserves hemit hhandle hbuffer h frame)
  rw [slipData_eq]
  exact hclear _ _ (hfold _ _ h)

theorem slipData_sound (h : Sound s) (data : QByteArray) : Sound (s.slipData env data) := by
  refine slipData_preserves (P := Sound) (fun s o h => ?_) (fun s p h => sound_handle h p)
    (fun s b h => ?_) (fun s b h => ?_) h data
  · exact ⟨h.onlyZero,h.running⟩
  · exact ⟨⟨h.onlyZero.commandId,h.onlyZero.others⟩,h.running⟩
  · exact ⟨h.onlyZero,h.running⟩

theorem slipData_running (h : Sound s) (hrun : s.m_state = .StateRunning) (data : QByteArray) :
    (s.slipData env data).m_state = .StateRunning := by
  refine (slipData_preserves (P := fun s => Sound s ∧ s.m_state = .StateRunning)
    (fun s o h => ?_) (fun s p h => ?_) (fun s b h => ?_) (fun s b h => ?_) ⟨h,hrun⟩ data).2
  · exact ⟨⟨h.1.onlyZero,h.1.running⟩,h.2⟩
  · exact ⟨sound_handle h.1 p,running_handle h.1 h.2 p⟩
  · exact ⟨⟨⟨h.1.onlyZero.commandId,h.1.onlyZero.others⟩,h.1.running⟩,h.2⟩
  · exact ⟨⟨h.1.onlyZero,h.1.running⟩,h.2⟩

variable {hello register : Response env}

theorem hello_taken (h : Greeting s) {p : QByteArray} (hp : PacketOf p hello.object) :
    Awaiting .onServerRegistrationFinished (handle env (owner env) p s) := by
  obtain ⟨reply,hr,hslot⟩ := h.awaiting.awaited
  rw [handle_response (owner env) hello hp hr]
  have hzero : OnlyZero (s.m_jsonClient.finishReply reply hello.dataMap 0) :=
    h.awaiting.onlyZero.finishReply _ _ _
  have hresponse := finishReply_m_response s.m_jsonClient reply hello.dataMap 0
  change Awaiting _ (slot env (.finished reply) { s with
    m_jsonClient := s.m_jsonClient.finishReply reply hello.dataMap 0 })
  simp only [slot,hslot,onHelloFinished,hresponse,hello.success,ne_eq,not_true_eq_false,if_false]
  refine request_awaiting ?_ ?_
  · rw [(setState_same _ _).jsonClient]
    exact hzero
  · rw [setState_m_state]
    decide

theorem register_taken (h : Awaiting .onServerRegistrationFinished s)
    (haccepted : env.toString ((register.dataMap.value "params").toMap.value "tunnelProxyError") =
      "TunnelProxyErrorNoError") {p : QByteArray} (hp : PacketOf p register.object) :
    (handle env (owner env) p s).m_state = .StateRunning := by
  obtain ⟨reply,hr,hslot⟩ := h.awaited
  rw [handle_response (owner env) register hp hr]
  have hresponse := finishReply_m_response s.m_jsonClient reply register.dataMap 0
  change (slot env (.finished reply) { s with
    m_jsonClient := s.m_jsonClient.finishReply reply register.dataMap 0 }).m_state = _
  simp only [slot,hslot,onServerRegistrationFinished,hresponse,register.success,haccepted,ne_eq,
    not_true_eq_false,if_false]
  exact setState_m_state _ _

theorem fragment_handle {p : QByteArray}
    (hp : Fragment hello.object p ∨ Fragment register.object p) (s : TunnelProxySocketServer) :
    (handle env (owner env) p s).m_state = s.m_state ∧
      (Requested (handle env (owner env) p s) → Requested s) := by
  rcases handle_cases env s p with
    he | ⟨jsonDoc,hj,⟨reply,hr,he⟩ | ⟨hr,hstate,-,hclient⟩⟩
  · rw [he]
    exact ⟨rfl,id⟩
  · have hstatus : env.toString (jsonDoc.toMap.value "status") ≠ "success" := by
      rcases hp with hp | hp
      · exact hello.fragment p hp jsonDoc hj
      · exact register.fragment p hp jsonDoc hj
    generalize hu : ({ s with
      m_jsonClient := s.m_jsonClient.finishReply reply jsonDoc.toMap
        (commandIdOf env jsonDoc.toMap) } : TunnelProxySocketServer) = u at he
    have hresponse : (u.m_jsonClient.reply reply).m_response = jsonDoc.toMap :=
      hu ▸ finishReply_m_response _ _ _ _
    obtain ⟨hsame,hstate⟩ := finished_refused (s := u) reply
      (by rw [hresponse]; exact hstatus)
    rw [he,hstate,Requested,hsame.jsonClient,← hu]
    exact ⟨rfl,sent_finishReply.mp⟩
  · rw [hstate,Requested,hclient]
    exact ⟨rfl,id⟩

theorem talks (hello : Response env) {register : Response env}
    (haccepted : env.toString ((register.dataMap.value "params").toMap.value "tunnelProxyError") =
      "TunnelProxyErrorNoError") :
    Talks (receiver env) (handle env (owner env)) Alike hello.object register.object Greeting
      (Awaiting .onServerRegistrationFinished) Sound where
  buffer s chunk := by
    simp only [receiver,jsonData]
    rw [JsonRpcClient.processData_eq]
    rfl
  json s chunk := by
    refine ⟨{ s with m_keepAliveTimer := s.m_keepAliveTimer.start s.now },
      ⟨rfl,rfl,rfl,rfl,rfl,rfl⟩,?_⟩
    simp only [receiver,jsonData]
    rw [JsonRpcClient.processData_eq]
    exact ⟨rfl,rfl,rfl,rfl,rfl,rfl⟩
  ready_alike s t h := by
    simp only [receiver,h.state]
  requested_alike s t h := h.requested
  greeting_alike s t h hs := ⟨h.awaiting hs.awaiting,fun hr => hs.notRequested (h.requested.mp hr)⟩
  registering_alike s t h hs := h.awaiting hs
  sound_alike s t h hs := h.sound hs
  greeting s h := ⟨decide_eq_false h.awaiting.notRunning,h.notRequested⟩
  registering s h := decide_eq_false h.notRunning
  hello_taken s p h hp := hello_taken h hp
  register_taken s p h hp := decide_eq_true (register_taken h haccepted hp)
  fragment s p hp := by
    obtain ⟨h1,h2⟩ := fragment_handle hp s
    refine ⟨?_,h2⟩
    simp only [receiver,h1]
  sound s p h := sound_handle h p
  sound_direct s chunk h := by
    refine slipData_sound ?_ chunk
    exact ⟨h.onlyZero,h.running⟩
  stays s chunk h hrun := by
    have hstate : s.m_state = .StateRunning := of_decide_eq_true hrun
    have hsound : Sound { s with m_keepAliveTimer := s.m_keepAliveTimer.start s.now } :=
      ⟨h.onlyZero,h.running⟩
    exact decide_eq_true (slipData_running hsound hstate chunk)

end Session

end RemoteProxy.TunnelProxySocketServer
