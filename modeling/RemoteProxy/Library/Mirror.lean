import Mathlib.Algebra.GroupWithZero.Nat
import RemoteProxy.Library.Following
import RemoteProxy.Library.ServerMessages

namespace RemoteProxy

/-- The data that the application is given from the client whose uuid reads `clientUuid`. -/
def Notice.dataOf (clientUuid : String) : Notice → Option QByteArray
  | .data uuid _ chunk => if uuid = clientUuid then some chunk else none
  | _ => none

namespace Mirror

open Sessions SlipDataProcessor TunnelProxyServer TunnelProxySocketServer Uplink

variable {env : Environment} {host : ObjectId} {s s' : TunnelProxyServer}
  {events : List TunnelProxyServer.Event} {library : TunnelProxySocketServer}
  {libraryEvents : List TunnelProxySocketServer.Event} {unread : QByteArray}

def messagesSince (s s' : TunnelProxyServer) (host : ObjectId) : List Message :=
  (messagesTo s' host).drop (messagesTo s host).length

/-- What happens at the proxy from `s` on, where a server is registered, and at the server, which
reads what it is sent meanwhile but for what is still `unread`. -/
structure Listening (env : Environment) (host : ObjectId) (s : TunnelProxyServer)
    (events : List TunnelProxyServer.Event) (library : TunnelProxySocketServer)
    (libraryEvents : List TunnelProxySocketServer.Event) (unread : QByteArray) : Prop where
  reachable : Reachable env s
  fresh : FreshRun env s events
  serving : Serving s host
  freeAddresses : FreeAddresses (s.run env events)
  addresses : ∀ mark ∈ marksTo (s.run env events) host, mark.1 ≠ 0x0000
  legible : ∀ message ∈ messagesSince s (s.run env events) host, message.isJson = true →
    Legible env message
  following : Following env s.notificationIds.length (marksTo s host) library
  buffer : library.m_dataBuffer = []
  asks : ∀ event ∈ libraryEvents, event.asks = true → 0 < s.notificationIds.length
  counted : (s.run env events).notificationIds.length < 2 ^ 31
  read : bytesTo host (s.run env events).output = bytesTo host s.output ++
    (libraryEvents.flatMap Event.chunk ++ unread)

theorem mem_messagesTo {o : ObjectId} {message : Message} (hm : message ∈ messagesTo s o) :
    ∃ data, .sent o message data ∈ s.output := by
  obtain ⟨x,hx,hmessage⟩ := List.mem_filterMap.mp hm
  cases x with
  | sent y m data =>
    simp only [messageTo] at hmessage
    split at hmessage
    · next hy =>
      obtain rfl := Option.some.inj hmessage
      exact ⟨data,hy ▸ hx⟩
    · cases hmessage
  | killed => cases hmessage
  | assertFailed => cases hmessage

theorem messages_numbered (hr : Reachable env s) (hr' : Reachable env s') {new : List Output}
    (hout : s'.output = s.output ++ new) (hlt : s'.notificationIds.length < 2 ^ 31)
    {o : ObjectId} {id : Int32} {nameSpace method : String} {params : QVariantMap}
    (hm : .notification id nameSpace method params ∈ new.filterMap (messageTo o))
    (hpos : 0 < s.notificationIds.length) : id ≠ 0 := by
  have hall : s'.notificationIds =
      s.notificationIds ++ new.filterMap Output.notificationId? := by
    rw [notificationIds,hout,List.filterMap_append]
    rfl
  have hnodup : s'.notificationIds.Nodup := by
    refine List.Nodup.of_map Int32.toInt ?_
    rw [notificationIds_toInt hr' hlt]
    exact List.nodup_range.map fun _ _ => Int.ofNat_inj.mp
  rw [hall] at hnodup
  have hnew : id ∈ new.filterMap Output.notificationId? := by
    obtain ⟨x,hx,hmessage⟩ := List.mem_filterMap.mp hm
    refine List.mem_filterMap.mpr ⟨x,hx,?_⟩
    cases x with
    | sent y m data =>
      simp only [messageTo] at hmessage
      split at hmessage
      · obtain rfl := Option.some.inj hmessage
        rfl
      · cases hmessage
    | killed => cases hmessage
    | assertFailed => cases hmessage
  have hzero : (0 : Int32) ∈ s.notificationIds := by
    rw [(counters_balanced hr).notificationIds]
    exact List.mem_map.mpr ⟨0,List.mem_range.mpr hpos,rfl⟩
  exact fun hid => (List.nodup_append.mp hnodup).2.2 0 hzero id hnew hid.symm

theorem Listening.deliverable
    (h : Listening env host s events library libraryEvents unread) :
    let messages := messagesSince s (s.run env events) host
    messagesTo (s.run env events) host = messagesTo s host ++ messages ∧
      Deliverable env s.notificationIds.length (marksTo s host) messages ∧
      reassemble library.m_dataBuffer (libraryEvents.flatMap Event.chunk ++ unread) =
        ([],messages.map (Message.frame env)) := by
  have hr' := h.reachable.run h.fresh
  have hc := reachable_consistent h.reachable
  have hspeaks : Speaks host s :=
    ⟨hc.announced host (.inl h.serving.live),h.serving.isServer,h.serving.slipEnabled⟩
  have hframes := run_frames h.reachable hspeaks h.fresh
  obtain ⟨messages,hmessages,hraw,hbytes⟩ := hframes.encoded
  have hsince : messagesSince s (s.run env events) host = messages := by
    rw [messagesSince,hmessages,List.drop_left]
  have hmarks : marksTo (s.run env events) host =
      marksTo s host ++ messages.filterMap markOf := by
    have hall : (messagesTo (s.run env events) host).filterMap markOf =
        (messagesTo s host).filterMap markOf ++ messages.filterMap markOf := by
      rw [hmessages,List.filterMap_append]
    exact hall
  have hmem : ∀ message ∈ messages, ∃ data,
      .sent host message data ∈ (s.run env events).output := by
    intro message hm
    refine mem_messagesTo ?_
    rw [hmessages]
    exact List.mem_append_right _ hm
  intro since
  have hsame : since = messages := hsince
  rw [hsame]
  refine ⟨hmessages,⟨hraw,?_,?_,?_,?_,?_⟩,?_⟩
  · exact fun message hm => h.legible message (hsince.symm ▸ hm)
  · intro message hm
    obtain ⟨data,hsent⟩ := hmem message hm
    exact (says_noticed env).reachable hr' _ hsent
  · intro id nameSpace method params hm
    obtain ⟨new,hout,-⟩ := hframes
    have hnew : messages = new.filterMap (messageTo host) := by
      have hboth := hmessages
      rw [messagesTo,hout,List.filterMap_append] at hboth
      exact (List.append_cancel_left hboth).symm
    exact messages_numbered h.reachable hr' hout h.counted (hnew ▸ hm)
  · rw [← hmarks]
    exact (steps_streams (reachable_steps hr') h.freeAddresses).wellBracketed host
  · intro mark hm
    refine h.addresses mark ?_
    rw [hmarks]
    exact List.mem_append_right _ hm
  · have hread := h.read
    rw [hbytes] at hread
    rw [h.buffer,← List.append_cancel_left hread,reassemble_encoded]

theorem Listening.heard (h : Listening env host s events library libraryEvents unread) :
    let library' := Runs.run (step env.toQt) library libraryEvents
    ∃ heard unheard, messagesSince s (s.run env events) host = heard ++ unheard ∧
      notices env library' = notices env library ++ heard.filterMap (Message.notice env) ∧
      (∀ a, (library'.m_tunnelProxySockets.value a).map
          (fun socket => env.uuidToString socket.m_clientUuid) =
        table (marksTo s host ++ heard.filterMap markOf) a) ∧
      (unread = [] → unheard = []) := by
  obtain ⟨-,hd,hunread⟩ := h.deliverable
  obtain ⟨heard,unheard,hall,hfollowing,hnotices,hrest⟩ :=
    run_follows h.following hd h.asks hunread
  refine ⟨heard,unheard,hall,hnotices,hfollowing.shown,fun hnone => ?_⟩
  rw [hnone] at hrest
  exact List.map_eq_nil_iff.mp (congrArg Prod.snd hrest).symm

theorem Listening.told (h : Listening env host s events library libraryEvents unread)
    {before after : List TunnelProxyServer.Event} (hsplit : events = before ++ after) {u : QUuid}
    (hserver : (s.run env before).m_tunnelProxyServerConnections.value u = some host) (a : UInt16)
    (clientUuid : String) : table (marksTo (s.run env before) host) a = some clientUuid ↔
      ∃ client, ((s.run env before).clientConnection client).m_serverConnection = some host ∧
        address (s.run env before) client = a ∧
        env.uuidToString ((s.run env before).clientConnection client).m_clientUuid =
          clientUuid := by
  obtain ⟨hbefore,hafter⟩ := freshRun_append (hsplit ▸ h.fresh)
  have hr := h.reachable.run hbefore
  obtain ⟨new,hout⟩ := run_output hr hafter
  have hrun : s.run env events = (s.run env before).run env after := by
    rw [hsplit]
    exact List.foldl_append
  refine marksTo_attached hr (fun x hx => ?_) hserver a clientUuid
  refine h.freeAddresses x ?_
  rw [hrun,hout]
  exact List.mem_append_left new hx

/-- A server is told, event by event, who is attached to it and what its clients send; of that the
application hears in that order, and its sockets are the clients as of the last message that has
been read to its end. -/
theorem server_follows (h : Listening env host s events library libraryEvents unread) :
    let library' := Runs.run (step env.toQt) library libraryEvents
    (∀ before after u, events = before ++ after →
      (s.run env before).m_tunnelProxyServerConnections.value u = some host → ∀ a clientUuid,
        table (marksTo (s.run env before) host) a = some clientUuid ↔
          ∃ client, ((s.run env before).clientConnection client).m_serverConnection = some host ∧
            address (s.run env before) client = a ∧
            env.uuidToString ((s.run env before).clientConnection client).m_clientUuid =
              clientUuid) ∧
      (messagesSince s (s.run env events) host).filterMap Message.clientData =
        Conduit.along (TunnelProxyServer.step env) (clientDataFrom host) s events ∧
      ∃ heard unheard, messagesSince s (s.run env events) host = heard ++ unheard ∧
        notices env library' = notices env library ++ heard.filterMap (Message.notice env) ∧
        (∀ a, (library'.m_tunnelProxySockets.value a).map
            (fun socket => env.uuidToString socket.m_clientUuid) =
          table (marksTo s host ++ heard.filterMap markOf) a) ∧
        (unread = [] → unheard = []) := by
  obtain ⟨hmessages,-,-⟩ := h.deliverable
  refine ⟨fun before after u hsplit hserver a clientUuid => h.told hsplit hserver a clientUuid,?_,
    h.heard⟩
  have hdata := run_clientDataTo host h.reachable h.fresh
  rw [clientDataTo,hmessages,List.filterMap_append] at hdata
  exact List.append_cancel_left hdata

/-- Once a server has read all that it has been sent, its sockets are the clients that are attached
to it at the proxy. -/
theorem sockets_mirrored (h : Listening env host s events library libraryEvents [])
    {u : QUuid}
    (hserver : (s.run env events).m_tunnelProxyServerConnections.value u = some host) :
    let library' := Runs.run (step env.toQt) library libraryEvents
    ∀ a clientUuid, (∃ socket, library'.m_tunnelProxySockets.value a = some socket ∧
        env.uuidToString socket.m_clientUuid = clientUuid) ↔
      ∃ client, ((s.run env events).clientConnection client).m_serverConnection = some host ∧
        address (s.run env events) client = a ∧
        env.uuidToString ((s.run env events).clientConnection client).m_clientUuid =
          clientUuid := by
  intro library' a clientUuid
  obtain ⟨hmessages,-,-⟩ := h.deliverable
  obtain ⟨heard,unheard,hall,-,hshown,hread⟩ := h.heard
  rw [hread rfl,List.append_nil] at hall
  have hmarks : marksTo s host ++ heard.filterMap markOf = marksTo (s.run env events) host := by
    have hsplit := congrArg (List.filterMap markOf) hmessages
    rw [List.filterMap_append,hall] at hsplit
    exact hsplit.symm
  have hstream := marksTo_attached (h.reachable.run h.fresh) h.freeAddresses hserver a clientUuid
  have htable := hshown a
  rw [hmarks] at htable
  rw [← htable,Option.map_eq_some_iff] at hstream
  exact hstream

theorem notice_dataOf (clientUuid : String) (message : Message) :
    (message.notice env).bind (Notice.dataOf clientUuid) = message.dataOf env clientUuid := by
  cases message with
  | notification id nameSpace method params =>
    simp only [Message.notice]
    split
    · rfl
    · split
      · rfl
      · rfl
  | _ => rfl

/-- What the application is given from a client is what came from that client while it was attached,
chunk by chunk and in order; nothing is missing once all has been read. -/
theorem clients_heard (h : Listening env host s events library libraryEvents unread)
    (clientUuid : String) :
    let library' := Runs.run (step env.toQt) library libraryEvents
    ∃ later, (notices env library').filterMap (Notice.dataOf clientUuid) ++ later =
        (notices env library).filterMap (Notice.dataOf clientUuid) ++
          Conduit.along (TunnelProxyServer.step env) (offered env host clientUuid) s events ∧
      (unread = [] → later = []) := by
  obtain ⟨hmessages,-,-⟩ := h.deliverable
  obtain ⟨heard,unheard,hall,hnotices,-,hread⟩ := h.heard
  have hsent : Conduit.along (TunnelProxyServer.step env) (offered env host clientUuid) s events =
      (messagesSince s (s.run env events) host).filterMap (Message.dataOf env clientUuid) := by
    have hpassed : passed env host clientUuid (s.run env events) = passed env host clientUuid s ++
        Conduit.along (TunnelProxyServer.step env) (offered env host clientUuid) s events :=
      run_passed h.reachable h.fresh
    rw [passed,hmessages,List.filterMap_append] at hpassed
    exact (List.append_cancel_left hpassed).symm
  have htold : (heard.filterMap (Message.notice env)).filterMap (Notice.dataOf clientUuid) =
      heard.filterMap (Message.dataOf env clientUuid) := by
    rw [List.filterMap_filterMap]
    exact List.filterMap_congr fun message _ => notice_dataOf clientUuid message
  refine ⟨unheard.filterMap (Message.dataOf env clientUuid),?_,fun hnone => ?_⟩
  · rw [hnotices,hsent,hall,List.filterMap_append,List.filterMap_append,htold,List.append_assoc]
  · rw [hread hnone,List.filterMap_nil]

section Run

def connectedDocument : QVariantMap :=
  [("id",.ofNat 0),("notification",.string "TunnelProxy.ClientConnected"),
    ("params",.map [("clientName",.string "client"),("clientUuid",.string (uuidText 7)),
      ("clientPeerAddress",.string "10.0.0.2"),("socketAddress",.ofNat 1)])]

def disconnectedDocument : QVariantMap :=
  [("id",.ofNat 1),("notification",.string "TunnelProxy.ClientDisconnected"),
    ("params",.map [("socketAddress",.ofNat 1)])]

def visitEnvironment : Environment :=
  { sampleEnvironment true with
    toQt := Qt.onDocuments [registerServerRequest,registerClientRequest,connectedDocument,
      disconnectedDocument] }

def lonely : TunnelProxyServer := TunnelProxyServer.new.run visitEnvironment
  [.clientConnected ⟨1⟩ "10.0.0.1",.dataAvailable ⟨1⟩ (request true registerServerRequest)]

def visit : List TunnelProxyServer.Event :=
  [.clientConnected ⟨2⟩ "10.0.0.2",.dataAvailable ⟨2⟩ (request true registerClientRequest),
    .dataAvailable ⟨2⟩ [0xC0,0x01],.dataAvailable ⟨2⟩ (ascii "bye"),.clientDisconnected ⟨2⟩]

def waiting : TunnelProxySocketServer :=
  { TunnelProxySocketServer.new ⟨5⟩ "server" with m_state := .StateRunning }

def visitBytes : QByteArray :=
  (bytesTo ⟨1⟩ (lonely.run visitEnvironment visit).output).drop
    (bytesTo ⟨1⟩ lonely.output).length

def visitReads : List TunnelProxySocketServer.Event :=
  [.received (visitBytes.take 5),.elapse 7,.received ((visitBytes.drop 5).take 190),
    .received (visitBytes.drop 195)]

set_option maxRecDepth 100000 in
theorem visit_messages : messagesSince lonely (lonely.run visitEnvironment visit) ⟨1⟩ =
    [.notification 0 "TunnelProxy" "ClientConnected"
        [("clientName",.string "client"),("clientUuid",.string (uuidText 7)),
          ("clientPeerAddress",.string "10.0.0.2"),("socketAddress",.ofNat 1)],
      .tunnelData ⟨7⟩ 1 [0xC0,0x01],.tunnelData ⟨7⟩ 1 (ascii "bye"),
      .notification 1 "TunnelProxy" "ClientDisconnected" [("socketAddress",.ofNat 1)]] := rfl

theorem visit_legible {message : Message}
    (hm : message ∈ messagesSince lonely (lonely.run visitEnvironment visit) ⟨1⟩)
    (hjson : message.isJson = true) : Legible visitEnvironment message := by
  rw [visit_messages] at hm
  simp only [List.mem_cons,List.not_mem_nil,or_false] at hm
  rcases hm with rfl | rfl | rfl | rfl
  · exact ⟨⟨CompactObject.ofMap connectedDocument (by decide +kernel),rfl⟩,
      connectedDocument,rfl,rfl,rfl,rfl,kept_onDocuments _ _⟩
  · cases hjson
  · cases hjson
  · exact ⟨⟨CompactObject.ofMap disconnectedDocument (by decide +kernel),rfl⟩,
      disconnectedDocument,rfl,rfl,rfl,rfl,kept_onDocuments _ _⟩

theorem lonely_serving : Reachable visitEnvironment lonely ∧ Serving lonely ⟨1⟩ := by
  have hreachable : Reachable visitEnvironment lonely := Reachable.new.run (by decide +kernel)
  have hregistered : lonely.m_tunnelProxyServerConnections.value ⟨5⟩ = some ⟨1⟩ := by
    decide +kernel
  have hconsistent := reachable_consistent hreachable
  obtain ⟨hlive,hserver,huuid⟩ := (hconsistent.server_iff ⟨5⟩ ⟨1⟩).mp hregistered
  exact ⟨hreachable,hlive,hserver,huuid ▸ hregistered,by decide +kernel⟩

theorem waiting_follows :
    Following visitEnvironment lonely.notificationIds.length (marksTo lonely ⟨1⟩) waiting := by
  have hnone : marksTo lonely ⟨1⟩ = [] := by decide +kernel
  rw [hnone]
  exact Sound.following ⟨⟨rfl,fun _ _ => rfl⟩,fun _ => rfl⟩ rfl rfl rfl

theorem visit_listening :
    Listening visitEnvironment ⟨1⟩ lonely visit waiting visitReads [] where
  reachable := lonely_serving.1
  fresh := by decide +kernel
  serving := lonely_serving.2
  freeAddresses := by decide +kernel
  addresses := by decide +kernel
  legible _ := visit_legible
  following := waiting_follows
  buffer := rfl
  asks event he hasks := by
    simp only [visitReads,List.mem_cons,List.not_mem_nil,or_false] at he
    rcases he with rfl | rfl | rfl | rfl <;> cases hasks
  counted := by decide +kernel
  read := by decide +kernel

theorem server_follows_visit :
    let env := visitEnvironment
    let library' := Runs.run (step env.toQt) waiting visitReads
    (∀ before after u, visit = before ++ after →
      (lonely.run env before).m_tunnelProxyServerConnections.value u = some ⟨1⟩ →
      ∀ a clientUuid, table (marksTo (lonely.run env before) ⟨1⟩) a = some clientUuid ↔
        ∃ client, ((lonely.run env before).clientConnection client).m_serverConnection =
            some ⟨1⟩ ∧
          address (lonely.run env before) client = a ∧
          env.uuidToString ((lonely.run env before).clientConnection client).m_clientUuid =
            clientUuid) ∧
      (messagesSince lonely (lonely.run env visit) ⟨1⟩).filterMap Message.clientData =
        Conduit.along (TunnelProxyServer.step env) (clientDataFrom ⟨1⟩) lonely visit ∧
      ∃ heard unheard, messagesSince lonely (lonely.run env visit) ⟨1⟩ = heard ++ unheard ∧
        notices env library' = notices env waiting ++ heard.filterMap (Message.notice env) ∧
        (∀ a, (library'.m_tunnelProxySockets.value a).map
            (fun socket => env.uuidToString socket.m_clientUuid) =
          table (marksTo lonely ⟨1⟩ ++ heard.filterMap markOf) a) ∧
        (([] : QByteArray) = [] → unheard = []) :=
  server_follows visit_listening

theorem sockets_mirrored_visit :
    let library' := Runs.run (step visitEnvironment.toQt) waiting visitReads
    ∀ a clientUuid, (∃ socket, library'.m_tunnelProxySockets.value a = some socket ∧
        visitEnvironment.uuidToString socket.m_clientUuid = clientUuid) ↔
      ∃ client, ((lonely.run visitEnvironment visit).clientConnection client).m_serverConnection =
          some ⟨1⟩ ∧
        address (lonely.run visitEnvironment visit) client = a ∧
        visitEnvironment.uuidToString
            ((lonely.run visitEnvironment visit).clientConnection client).m_clientUuid =
          clientUuid :=
  sockets_mirrored (u := ⟨5⟩) visit_listening (by decide +kernel)

theorem clients_heard_visit :
    let library' := Runs.run (step visitEnvironment.toQt) waiting visitReads
    ∃ later, (notices visitEnvironment library').filterMap (Notice.dataOf (uuidText 7)) ++ later =
        (notices visitEnvironment waiting).filterMap (Notice.dataOf (uuidText 7)) ++
          Conduit.along (TunnelProxyServer.step visitEnvironment)
            (offered visitEnvironment ⟨1⟩ (uuidText 7)) lonely visit ∧
      (([] : QByteArray) = [] → later = []) :=
  clients_heard visit_listening (uuidText 7)

end Run

end Mirror

end RemoteProxy
