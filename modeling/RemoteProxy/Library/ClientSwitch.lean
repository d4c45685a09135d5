import RemoteProxy.Library.Session
import RemoteProxy.Library.TunnelProxyRemoteConnection

namespace RemoteProxy.TunnelProxyRemoteConnection

open JsonPackets JsonRpcClient Handshake

variable {env : Qt} {s t : TunnelProxyRemoteConnection}

section Slots

/-- What neither a change of state nor a request to disconnect touches. -/
structure SameSession (s t : TunnelProxyRemoteConnection) : Prop where
  jsonClient : t.m_jsonClient = s.m_jsonClient
  finishedSlot : t.finishedSlot = s.finishedSlot

theorem setState_same (s : TunnelProxyRemoteConnection) (state : State) :
    SameSession s (s.setState state) ∧ (s.setState state).m_state = state := by
  rw [setState]
  split
  · next h => exact ⟨⟨rfl,rfl⟩,h⟩
  · dsimp only
    split
    · exact ⟨⟨rfl,rfl⟩,rfl⟩
    · exact ⟨⟨rfl,rfl⟩,rfl⟩

theorem disconnectServer_same (s : TunnelProxyRemoteConnection) :
    SameSession s s.disconnectServer ∧ s.disconnectServer.m_state = s.m_state := by
  rw [disconnectServer]
  split
  · exact ⟨⟨rfl,rfl⟩,rfl⟩
  · exact ⟨⟨rfl,rfl⟩,rfl⟩

theorem finished_refused (reply : Nat)
    (h : env.toString ((s.m_jsonClient.reply reply).m_response.value "status") ≠ "success") :
    SameSession s (slot env (.finished reply) s) ∧
      (slot env (.finished reply) s).m_state = s.m_state := by
  simp only [slot]
  cases s.finishedSlot reply with
  | onHelloFinished =>
    simp only [onHelloFinished,if_pos h]
    exact disconnectServer_same s
  | onClientRegistrationFinished =>
    simp only [onClientRegistrationFinished,if_pos h]
    exact disconnectServer_same s

theorem notified_same {dataMap : QVariantMap} {signal : Signal}
    (h : notificationSignal env dataMap = some signal) (s : TunnelProxyRemoteConnection) :
    slot env signal s = s := by
  cases signal with
  | finished reply => exact absurd h (notificationSignal_ne_finished dataMap reply)
  | tunnelEstablished => rfl
  | tunnelProxyClientConnected => rfl
  | tunnelProxyClientDisonnected => rfl

end Slots

theorem handle_cases (env : Qt) (s : TunnelProxyRemoteConnection) (packet : QByteArray) :
    handle env (owner env) packet s = s ∨
    ∃ jsonDoc, env.fromJson packet = .ok jsonDoc ∧
      ((∃ reply, s.m_jsonClient.m_replies.value (commandIdOf env jsonDoc.toMap) = some reply ∧
        handle env (owner env) packet s = slot env (.finished reply)
          { s with
            m_jsonClient := s.m_jsonClient.finishReply reply jsonDoc.toMap
              (commandIdOf env jsonDoc.toMap) }) ∨
      (s.m_jsonClient.m_replies.value (commandIdOf env jsonDoc.toMap) = none ∧
        handle env (owner env) packet s =
          { s with m_jsonClient := s.m_jsonClient.forget (commandIdOf env jsonDoc.toMap) })) := by
  rcases JsonRpcClient.handle_cases env (owner env) s packet with
    h | ⟨jsonDoc,hj,⟨reply,hr,h⟩ | ⟨hr,u,hu,h⟩⟩
  · exact .inl h
  · exact .inr ⟨jsonDoc,hj,.inl ⟨reply,hr,h⟩⟩
  · refine .inr ⟨jsonDoc,hj,.inr ⟨hr,?_⟩⟩
    rcases h with h | ⟨signal,hn,h⟩
    · rw [h,hu]
      rfl
    · change (handle env (owner env) packet s) = slot env signal u at h
      rw [h,notified_same hn,hu]
      rfl

section Session

structure Awaiting (slot : FinishedSlot) (s : TunnelProxyRemoteConnection) : Prop where
  notRemoteConnected : s.m_state ≠ .StateRemoteConnected
  onlyZero : OnlyZero s.m_jsonClient
  awaited : ∃ reply, s.m_jsonClient.m_replies.value 0 = some reply ∧ s.finishedSlot reply = slot

def Requested (s : TunnelProxyRemoteConnection) : Prop := Sent "RegisterClient" s.m_jsonClient

structure Greeting (s : TunnelProxyRemoteConnection) : Prop where
  awaiting : Awaiting .onHelloFinished s
  notRequested : ¬Requested s

theorem request_awaiting {nameSpace method : String} {params : QVariantMap} {slipEnabled : Bool}
    {slot : FinishedSlot} (h : OnlyZero s.m_jsonClient) (hn : s.m_state ≠ .StateRemoteConnected) :
    Awaiting slot (s.request (call env nameSpace method params slipEnabled) slot) := by
  obtain ⟨hzero,hvalue⟩ := h.call env nameSpace method params slipEnabled
  exact ⟨hn,hzero,s.m_jsonClient.created,hvalue,Function.update_self ..⟩

theorem Awaiting.setState {slot : FinishedSlot} (h : Awaiting slot s) {state : State}
    (hn : state ≠ .StateRemoteConnected) : Awaiting slot (s.setState state) := by
  obtain ⟨hsame,hstate⟩ := setState_same s state
  refine ⟨by rw [hstate]; exact hn,by rw [hsame.jsonClient]; exact h.onlyZero,?_⟩
  rw [hsame.jsonClient,hsame.finishedSlot]
  exact h.awaited

/-- The connection has been established and its socket may have reported its state. -/
def Connected (env : Qt) (s t : TunnelProxyRemoteConnection) : Prop :=
  t = s.onConnectionChanged env true ∨
    t = (s.onConnectionChanged env true).onConnectionStateChanged .ConnectedState

theorem Connected.greeting (ht : Connected env s t) (h : s.m_jsonClient = .new) :
    Greeting t ∧ t.m_jsonClient.m_dataBuffer = [] := by
  obtain ⟨u,he,hstate,hclient⟩ : ∃ u : TunnelProxyRemoteConnection,
      s.onConnectionChanged env true = u.request (callHello env) .onHelloFinished ∧
        u.m_state = .StateInitializing ∧ u.m_jsonClient = .new := by
    refine ⟨_,rfl,(setState_same _ _).2,?_⟩
    rw [(setState_same _ _).1.jsonClient,(setState_same _ _).1.jsonClient]
    exact h
  have hzero : OnlyZero u.m_jsonClient := by
    rw [hclient]
    exact ⟨rfl,fun k _ => QHash.value_empty k⟩
  have hawaiting : Awaiting .onHelloFinished (s.onConnectionChanged env true) := by
    rw [he]
    exact request_awaiting hzero (by rw [hstate]; decide)
  have hnot : ¬Requested (s.onConnectionChanged env true) := by
    rw [he]
    rintro ⟨reply,hr,hm⟩
    have hcreated : reply < u.m_jsonClient.created + 1 := hr
    have hmethod : (Function.update u.m_jsonClient.reply u.m_jsonClient.created
        ((JsonReply.new u.m_jsonClient.m_commandId "RemoteProxy" "Hello" []).requestMap.2)
          reply).m_method = "RegisterClient" := hm
    rw [hclient] at hcreated hmethod
    have hreply : reply = 0 := Nat.lt_one_iff.mp hcreated
    rw [hreply] at hmethod
    exact absurd hmethod (by decide)
  have hbuf : (s.onConnectionChanged env true).m_jsonClient.m_dataBuffer = [] := by
    rw [he]
    change u.m_jsonClient.m_dataBuffer = []
    rw [hclient]
    rfl
  rcases ht with rfl | rfl
  · exact ⟨⟨hawaiting,hnot⟩,hbuf⟩
  · have hsame := (setState_same (s.onConnectionChanged env true) .StateConnected).1
    refine ⟨⟨hawaiting.setState (by decide),?_⟩,?_⟩
    · change ¬Sent "RegisterClient"
        (TunnelProxyRemoteConnection.setState _ .StateConnected).m_jsonClient
      rw [hsame.jsonClient]
      exact hnot
    · change (TunnelProxyRemoteConnection.setState _ .StateConnected).m_jsonClient.m_dataBuffer = []
      rw [hsame.jsonClient]
      exact hbuf

theorem onlyZero_handle (h : OnlyZero s.m_jsonClient) (packet : QByteArray) :
    OnlyZero (handle env (owner env) packet s).m_jsonClient := by
  rcases handle_cases env s packet with he | ⟨jsonDoc,hj,⟨reply,hr,he⟩ | ⟨hr,he⟩⟩
  · rw [he]
    exact h
  · generalize hu : ({ s with
      m_jsonClient := s.m_jsonClient.finishReply reply jsonDoc.toMap
        (commandIdOf env jsonDoc.toMap) } : TunnelProxyRemoteConnection) = u at he
    have hzero : OnlyZero u.m_jsonClient := hu ▸ h.finishReply _ _ _
    have hrefused : OnlyZero u.disconnectServer.m_jsonClient := by
      rw [(disconnectServer_same u).1.jsonClient]
      exact hzero
    rw [he]
    simp only [slot]
    cases u.finishedSlot reply with
    | onHelloFinished =>
      simp only [onHelloFinished]
      split
      · exact hrefused
      · refine Awaiting.onlyZero (request_awaiting ?_ ?_)
        · rw [(setState_same _ _).1.jsonClient]
          exact hzero
        · rw [(setState_same _ _).2]
          decide
    | onClientRegistrationFinished =>
      simp only [onClientRegistrationFinished]
      split
      · exact hrefused
      · split
        · exact hrefused
        · rw [(setState_same _ _).1.jsonClient]
          exact hzero
  · rw [he]
    exact ⟨h.commandId,h.remove _⟩

/-- Packets depend neither on what has been emitted nor on what is still in the buffer. -/
structure Alike (s t : TunnelProxyRemoteConnection) : Prop where
  state : t.m_state = s.m_state
  finishedSlot : t.finishedSlot = s.finishedSlot
  commandId : t.m_jsonClient.m_commandId = s.m_jsonClient.m_commandId
  replies : t.m_jsonClient.m_replies = s.m_jsonClient.m_replies
  reply : t.m_jsonClient.reply = s.m_jsonClient.reply
  created : t.m_jsonClient.created = s.m_jsonClient.created

theorem Alike.onlyZero (h : Alike s t) (hs : OnlyZero s.m_jsonClient) : OnlyZero t.m_jsonClient :=
  ⟨h.commandId.trans hs.commandId,by rw [h.replies]; exact hs.others⟩

theorem Alike.awaiting {slot : FinishedSlot} (h : Alike s t) (hs : Awaiting slot s) :
    Awaiting slot t := by
  refine ⟨by rw [h.state]; exact hs.notRemoteConnected,h.onlyZero hs.onlyZero,?_⟩
  rw [h.replies,h.finishedSlot]
  exact hs.awaited

theorem Alike.requested (h : Alike s t) : Requested t ↔ Requested s := by
  rw [Requested,Sent,h.created,h.reply]
  rfl

def receiver (env : Qt) : Receiver TunnelProxyRemoteConnection where
  buffer s := s.m_jsonClient.m_dataBuffer
  json := jsonData env
  direct s chunk := s.emit (.dataReady chunk)
  ready s := s.m_state = .StateRemoteConnected
  requested := Requested

theorem onConnectionDataAvailable_eq (s : TunnelProxyRemoteConnection) (chunk : QByteArray) :
    s.onConnectionDataAvailable env chunk = (receiver env).step s chunk := by
  by_cases h : s.m_state = .StateRemoteConnected
  · rw [Receiver.step_direct _ (decide_eq_true h)]
    exact if_neg (not_not.mpr h)
  · rw [Receiver.step_json _ (decide_eq_false h)]
    exact if_pos h

variable {hello register : Response env}

theorem hello_taken (h : Greeting s) {p : QByteArray} (hp : PacketOf p hello.object) :
    Awaiting .onClientRegistrationFinished (handle env (owner env) p s) := by
  obtain ⟨reply,hr,hslot⟩ := h.awaiting.awaited
  rw [handle_response (owner env) hello hp hr]
  have hzero : OnlyZero (s.m_jsonClient.finishReply reply hello.dataMap 0) :=
    h.awaiting.onlyZero.finishReply _ _ _
  have hresponse := finishReply_m_response s.m_jsonClient reply hello.dataMap 0
  change Awaiting _ (slot env (.finished reply) { s with
    m_jsonClient := s.m_jsonClient.finishReply reply hello.dataMap 0 })
  simp only [slot,hslot,onHelloFinished,hresponse,hello.success,ne_eq,not_true_eq_false,if_false]
  refine request_awaiting ?_ ?_
  · rw [(setState_same _ _).1.jsonClient]
    exact hzero
  · rw [(setState_same _ _).2]
    decide

theorem register_taken (h : Awaiting .onClientRegistrationFinished s)
    (haccepted : env.toString ((register.dataMap.value "params").toMap.value "tunnelProxyError") =
      "TunnelProxyErrorNoError") {p : QByteArray} (hp : PacketOf p register.object) :
    (handle env (owner env) p s).m_state = .StateRemoteConnected := by
  obtain ⟨reply,hr,hslot⟩ := h.awaited
  rw [handle_response (owner env) register hp hr]
  have hresponse := finishReply_m_response s.m_jsonClient reply register.dataMap 0
  change (slot env (.finished reply) { s with
    m_jsonClient := s.m_jsonClient.finishReply reply register.dataMap 0 }).m_state = _
  simp only [slot,hslot,onClientRegistrationFinished,hresponse,register.success,haccepted,ne_eq,
    not_true_eq_false,if_false]
  exact (setState_same _ _).2

theorem fragment_handle {p : QByteArray}
    (hp : Fragment hello.object p ∨ Fragment register.object p)
    (s : TunnelProxyRemoteConnection) :
    (handle env (owner env) p s).m_state = s.m_state ∧
      (Requested (handle env (owner env) p s) → Requested s) := by
  rcases handle_cases env s p with he | ⟨jsonDoc,hj,⟨reply,hr,he⟩ | ⟨hr,he⟩⟩
  · rw [he]
    exact ⟨rfl,id⟩
  · have hstatus : env.toString (jsonDoc.toMap.value "status") ≠ "success" := by
      rcases hp with hp | hp
      · exact hello.fragment p hp jsonDoc hj
      · exact register.fragment p hp jsonDoc hj
    generalize hu : ({ s with
      m_jsonClient := s.m_jsonClient.finishReply reply jsonDoc.toMap
        (commandIdOf env jsonDoc.toMap) } : TunnelProxyRemoteConnection) = u at he
    have hresponse : (u.m_jsonClient.reply reply).m_response = jsonDoc.toMap :=
      hu ▸ finishReply_m_response _ _ _ _
    obtain ⟨hsame,hstate⟩ := finished_refused (s := u) reply (by rw [hresponse]; exact hstatus)
    rw [he,hstate,Requested,hsame.jsonClient,← hu]
    exact ⟨rfl,sent_finishReply.mp⟩
  · rw [he]
    exact ⟨rfl,id⟩

theorem talks (hello : Response env) {register : Response env}
    (haccepted : env.toString ((register.dataMap.value "params").toMap.value "tunnelProxyError") =
      "TunnelProxyErrorNoError") :
    Talks (receiver env) (handle env (owner env)) Alike hello.object register.object Greeting
      (Awaiting .onClientRegistrationFinished) fun s => OnlyZero s.m_jsonClient where
  buffer s chunk := by
    simp only [receiver,jsonData]
    rw [JsonRpcClient.processData_eq]
    rfl
  json s chunk := by
    refine ⟨s.emit (.jsonReceived chunk),⟨rfl,rfl,rfl,rfl,rfl,rfl⟩,?_⟩
    simp only [receiver,jsonData]
    rw [JsonRpcClient.processData_eq]
    exact ⟨rfl,rfl,rfl,rfl,rfl,rfl⟩
  ready_alike s t h := by
    simp only [receiver,h.state]
  requested_alike s t h := h.requested
  greeting_alike s t h hs := ⟨h.awaiting hs.awaiting,fun hr => hs.notRequested (h.requested.mp hr)⟩
  registering_alike s t h hs := h.awaiting hs
  sound_alike s t h hs := h.onlyZero hs
  greeting s h := ⟨decide_eq_false h.awaiting.notRemoteConnected,h.notRequested⟩
  registering s h := decide_eq_false h.notRemoteConnected
  hello_taken s p h hp := hello_taken h hp
  register_taken s p h hp := decide_eq_true (register_taken h haccepted hp)
  fragment s p hp := by
    obtain ⟨h1,h2⟩ := fragment_handle hp s
    refine ⟨?_,h2⟩
    simp only [receiver,h1]
  sound s p h := onlyZero_handle h p
  sound_direct s chunk h := h
  stays s chunk h hready := hready

end Session

section Data

def dataReady (s : TunnelProxyRemoteConnection) : QByteArray :=
  s.output.flatMap fun
    | .dataReady data => data
    | _ => []

def jsonReceived (s : TunnelProxyRemoteConnection) : QByteArray :=
  s.output.flatMap fun
    | .jsonReceived data => data
    | _ => []

structure SameData (s t : TunnelProxyRemoteConnection) : Prop where
  dataReady : t.dataReady = s.dataReady
  jsonReceived : t.jsonReceived = s.jsonReceived

theorem SameData.trans {u : TunnelProxyRemoteConnection} (h : SameData s t) (h' : SameData t u) :
    SameData s u :=
  ⟨h'.dataReady.trans h.dataReady,h'.jsonReceived.trans h.jsonReceived⟩

theorem dataReady_emit (s : TunnelProxyRemoteConnection) (data : QByteArray) :
    (s.emit (.dataReady data)).dataReady = s.dataReady ++ data ∧
      (s.emit (.dataReady data)).jsonReceived = s.jsonReceived := by
  simp [dataReady,jsonReceived,emit]

theorem jsonReceived_emit (s : TunnelProxyRemoteConnection) (data : QByteArray) :
    (s.emit (.jsonReceived data)).dataReady = s.dataReady ∧
      (s.emit (.jsonReceived data)).jsonReceived = s.jsonReceived ++ data := by
  simp [dataReady,jsonReceived,emit]

theorem setState_data (s : TunnelProxyRemoteConnection) (state : State) :
    SameData s (s.setState state) := by
  rw [setState]
  split
  · exact ⟨rfl,rfl⟩
  · dsimp only
    split
    · constructor <;> simp [dataReady,jsonReceived,emit]
    · constructor <;> simp [dataReady,jsonReceived,emit]

theorem disconnectServer_data (s : TunnelProxyRemoteConnection) : SameData s s.disconnectServer := by
  rw [disconnectServer]
  split
  · constructor <;> simp [dataReady,jsonReceived,emit]
  · exact ⟨rfl,rfl⟩

theorem request_data (s : TunnelProxyRemoteConnection) (call : JsonRpcClient → Called)
    (slot : FinishedSlot) : SameData s (s.request call slot) := by
  constructor <;> simp [dataReady,jsonReceived,request,emit]

theorem slot_data (signal : Signal) (s : TunnelProxyRemoteConnection) :
    SameData s (slot env signal s) := by
  cases signal with
  | finished reply =>
    simp only [slot]
    cases s.finishedSlot reply with
    | onHelloFinished =>
      simp only [onHelloFinished]
      split
      · exact disconnectServer_data s
      · have hproxy : SameData s (s.setRemoteProxy env
            (((s.m_jsonClient.reply reply).m_response.value "params").toMap)) := ⟨rfl,rfl⟩
        exact (hproxy.trans (setState_data _ _)).trans (request_data _ _ _)
    | onClientRegistrationFinished =>
      simp only [onClientRegistrationFinished]
      split
      · exact disconnectServer_data s
      · split
        · exact disconnectServer_data s
        · exact setState_data s _
  | tunnelEstablished => exact ⟨rfl,rfl⟩
  | tunnelProxyClientConnected => exact ⟨rfl,rfl⟩
  | tunnelProxyClientDisonnected => exact ⟨rfl,rfl⟩

theorem jsonData_data (env : Qt) (s : TunnelProxyRemoteConnection) (data : QByteArray) :
    (s.jsonData env data).dataReady = s.dataReady ∧
      (s.jsonData env data).jsonReceived = s.jsonReceived ++ data := by
  have hsame : SameData (s.emit (.jsonReceived data)) (s.jsonData env data) := by
    refine processData_preserves (P := SameData (s.emit (.jsonReceived data))) ?_
      (fun t b h => ⟨h.dataReady,h.jsonReceived⟩) ⟨rfl,rfl⟩ data
    intro packet t h
    simp only [handle]
    split
    · exact ⟨h.dataReady,h.jsonReceived⟩
    · refine SameData.trans ?_ (slot_data _ _)
      exact ⟨h.dataReady,h.jsonReceived⟩
  obtain ⟨h1,h2⟩ := jsonReceived_emit s data
  exact ⟨hsame.dataReady.trans h1,hsame.jsonReceived.trans h2⟩

theorem data_early {pre : List QByteArray}
    (hfirst : ∀ part, part <+: pre → part ≠ pre →
      (receiver env).ready ((receiver env).receive s part) = false) :
    ((receiver env).receive s pre).dataReady = s.dataReady ∧
      ((receiver env).receive s pre).jsonReceived = s.jsonReceived ++ pre.flatten := by
  induction pre generalizing s with
  | nil => exact ⟨rfl,(List.append_nil _).symm⟩
  | cons chunk pre ih =>
    have hready : (receiver env).ready s = false := hfirst [] List.nil_prefix (by simp)
    have hstep := (receiver env).step_json hready chunk
    obtain ⟨h1,h2⟩ := jsonData_data env s chunk
    obtain ⟨h3,h4⟩ := ih (s := (receiver env).step s chunk) fun part hp hn =>
      hfirst (chunk :: part) ((List.prefix_cons_inj chunk).mpr hp) (by simpa using hn)
    rw [hstep] at h3 h4
    refine ⟨?_,?_⟩
    · change ((receiver env).receive ((receiver env).step s chunk) pre).dataReady = _
      rw [hstep]
      exact h3.trans h1
    · change ((receiver env).receive ((receiver env).step s chunk) pre).jsonReceived = _
      rw [hstep,h4]
      change (s.jsonData env chunk).jsonReceived ++ pre.flatten = _
      rw [h2,List.flatten_cons,List.append_assoc]

theorem data_connected (hready : (receiver env).ready s = true) (chunks : List QByteArray) :
    ((receiver env).receive s chunks).dataReady = s.dataReady ++ chunks.flatten ∧
      ((receiver env).receive s chunks).jsonReceived = s.jsonReceived := by
  induction chunks generalizing s with
  | nil => exact ⟨(List.append_nil _).symm,rfl⟩
  | cons chunk chunks ih =>
    have hstep := (receiver env).step_direct hready chunk
    obtain ⟨h1,h2⟩ := dataReady_emit s chunk
    obtain ⟨h3,h4⟩ := ih (s := s.emit (.dataReady chunk)) hready
    refine ⟨?_,?_⟩
    · change ((receiver env).receive ((receiver env).step s chunk) chunks).dataReady = _
      rw [hstep]
      change ((receiver env).receive (s.emit (.dataReady chunk)) chunks).dataReady = _
      rw [h3,h1,List.flatten_cons,List.append_assoc]
    · change ((receiver env).receive ((receiver env).step s chunk) chunks).jsonReceived = _
      rw [hstep]
      exact h4.trans h2

end Data

def receive (env : Qt) (s : TunnelProxyRemoteConnection) (chunks : List QByteArray) :
    TunnelProxyRemoteConnection :=
  chunks.foldl (onConnectionDataAvailable env) s

/-- The tunnel is up, `p` has been handed on, and only the responses went to the JSON client. -/
structure Switched (env : Qt) (s : TunnelProxyRemoteConnection) (chunks : List QByteArray)
    (responses p : QByteArray) : Prop where
  state : (receive env s chunks).m_state = .StateRemoteConnected
  dataReady : (receive env s chunks).dataReady = s.dataReady ++ p
  jsonReceived : (receive env s chunks).jsonReceived = s.jsonReceived ++ responses

theorem receive_eq (s : TunnelProxyRemoteConnection) (chunks : List QByteArray) :
    receive env s chunks = (receiver env).receive s chunks := by
  rw [receive,Receiver.receive]
  congr 1
  funext s chunk
  exact onConnectionDataAvailable_eq s chunk

/-- The payload is handed on, and nothing else, exactly when no chunk ends behind a closing brace
inside a response, none between the second response and its line break, and one behind that. -/
theorem client_switch_iff (hello register : Response env)
    (haccepted : env.toString ((register.dataMap.value "params").toMap.value "tunnelProxyError") =
      "TunnelProxyErrorNoError")
    (hs : s.m_jsonClient = .new) (ht : Connected env s t) {p : QByteArray}
    {chunks : List QByteArray}
    (hstream : chunks.flatten = stream [hello.object,register.object] ++ p)
    (hcausal : Causal (receiver env) hello.object [] t chunks) :
    Switched env t chunks (stream [hello.object,register.object]) p ↔
      Uncut hello.object register.object chunks ∧
      ¬Boundary chunks (answered hello.object register.object) ∧
      Boundary chunks (stream [hello.object,register.object]) := by
  have law := (talks hello haccepted).lawful
  obtain ⟨hgreeting,hbuf⟩ := ht.greeting hs
  rw [← switch_clean_iff law hgreeting.awaiting.onlyZero hgreeting hbuf hcausal hstream]
  constructor
  · intro h
    have hready : (receiver env).ready ((receiver env).receive t chunks) = true := by
      rw [← receive_eq]
      exact decide_eq_true h.state
    obtain ⟨pre,post,rfl,hr,hfirst⟩ := switch (law.greeting t hgreeting).1 hready
    refine ⟨pre,post,rfl,?_,hr,hfirst⟩
    have hjson := h.jsonReceived
    rw [receive_eq,Receiver.receive_append,(data_connected hr post).2,(data_early hfirst).2] at hjson
    exact List.append_cancel_left hjson
  · rintro ⟨pre,post,rfl,hp,hr,hfirst⟩
    rw [List.flatten_append,hp,List.append_cancel_left_eq] at hstream
    have hready := ready_receive law (sound_receive law hgreeting.awaiting.onlyZero pre) hr post
    obtain ⟨h1,h2⟩ := data_connected hr post
    obtain ⟨h3,h4⟩ := data_early hfirst
    refine ⟨?_,?_,?_⟩
    · rw [receive_eq,Receiver.receive_append]
      exact of_decide_eq_true hready
    · rw [receive_eq,Receiver.receive_append,h1,h3,hstream]
    · rw [receive_eq,Receiver.receive_append,h2,h4,hp]

section Run

def registerClientResponse : QVariantMap :=
  [("id",.number 0 0),("params",.map [("tunnelProxyError",.string "TunnelProxyErrorNoError")]),
    ("status",.string "success")]

def helloLine : Response (Qt.onDocuments [helloResponse,registerClientResponse]) :=
  .onDocuments (CompactObject.ofMap helloResponse helloResponse_compact) helloResponse
    rfl (by decide +kernel) rfl rfl

def registerLine : Response (Qt.onDocuments [helloResponse,registerClientResponse]) :=
  .onDocuments (CompactObject.ofMap registerClientResponse (by decide +kernel))
    registerClientResponse rfl (by decide +kernel) rfl rfl

instance : DecidablePred (receiver env).requested := fun s =>
  inferInstanceAs (Decidable (Sent "RegisterClient" s.m_jsonClient))

def greeted : TunnelProxyRemoteConnection :=
  (new ⟨1⟩ "client").onConnectionChanged
    (Qt.onDocuments [helloResponse,registerClientResponse]) true

def separateChunks : List QByteArray :=
  [stream [helloLine.object],stream [registerLine.object],ascii "payload"]

def coalescedChunks : List QByteArray :=
  [stream [helloLine.object],stream [registerLine.object] ++ ascii "payload"]

theorem client_switch_iff_separate :
    Switched (Qt.onDocuments [helloResponse,registerClientResponse]) greeted separateChunks
        (stream [helloLine.object,registerLine.object]) (ascii "payload") ↔
      Uncut helloLine.object registerLine.object separateChunks ∧
      ¬Boundary separateChunks (answered helloLine.object registerLine.object) ∧
      Boundary separateChunks (stream [helloLine.object,registerLine.object]) := by
  apply client_switch_iff helloLine registerLine rfl rfl (.inl rfl) (by decide +kernel)
  rw [causal_iff]
  decide +kernel

theorem client_coalesced_lost :
    coalescedChunks.flatten =
      stream [helloLine.object,registerLine.object] ++ ascii "payload" ∧
    Causal (receiver (Qt.onDocuments [helloResponse,registerClientResponse])) helloLine.object []
      greeted coalescedChunks ∧
    ¬Switched (Qt.onDocuments [helloResponse,registerClientResponse]) greeted coalescedChunks
      (stream [helloLine.object,registerLine.object]) (ascii "payload") := by
  refine ⟨by decide +kernel,?_,fun h => ?_⟩
  · rw [causal_iff]
    decide +kernel
  · have hstate : (receive (Qt.onDocuments [helloResponse,registerClientResponse]) greeted
        coalescedChunks).m_state = .StateRegister := by decide +kernel
    exact absurd (hstate.symm.trans h.state) (by decide)

end Run

end RemoteProxy.TunnelProxyRemoteConnection
