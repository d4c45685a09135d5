import RemoteProxy.Foundation.Runs
import RemoteProxy.Library.Notifications
import RemoteProxy.Library.ServerSession
import RemoteProxy.Library.SlipMessages

namespace RemoteProxy

open JsonPackets JsonRpcClient Sessions TunnelProxyServer

/-- What is said of its clients to a server, and by its tunnel server to the application. -/
inductive Notice where
  | connected (clientName clientUuid clientPeerAddress : String) (socketAddress : UInt16)
  | data (clientUuid : String) (socketAddress : UInt16) (data : QByteArray)
  | disconnected (socketAddress : UInt16)
  deriving DecidableEq

def textIn (params : QVariantMap) (key : String) : String :=
  match params.value key with
  | .string text => text
  | _ => ""

def Message.notice (env : Environment) : Message → Option Notice
  | .notification _ nameSpace method params =>
    if nameSpace = "TunnelProxy" ∧ method = "ClientConnected" then
      some (.connected (textIn params "clientName") (textIn params "clientUuid")
        (textIn params "clientPeerAddress") (addressIn params))
    else if nameSpace = "TunnelProxy" ∧ method = "ClientDisconnected" then
      some (.disconnected (addressIn params))
    else none
  | .tunnelData clientUuid socketAddress data =>
    some (.data (env.uuidToString clientUuid) socketAddress data)
  | _ => none

structure Kept (env : Qt) (params read : QVariantMap) : Prop where
  text : ∀ key text, params.value key = .string text → env.toString (read.value key) = text
  uuid : ∀ key clientUuid, params.value key = .string (env.uuidToString clientUuid) →
    env.toUuid (read.value key) = clientUuid
  number : ∀ key (a : UInt16), params.value key = .ofNat a.toNat →
    env.toUInt (read.value key) = a.toNat

def Reads (env : Qt) (dataMap : QVariantMap) : Message → Prop
  | .notification id nameSpace method params =>
    env.toInt (dataMap.value "id") = some id.toInt ∧ dataMap.contains "notification" = true ∧
      env.toString (dataMap.value "notification") = nameSpace ++ "." ++ method ∧
      Kept env params (dataMap.value "params").toMap
  | _ => dataMap.contains "notification" = false

/-- The text of a message is one line, and Qt reads what has been written. -/
structure Legible (env : Environment) (message : Message) : Prop where
  compact : ∃ object : CompactObject, object.text = env.toJson (JsonRpcServer.toVariant message)
  read : ∃ dataMap, env.fromJson (env.toJson (JsonRpcServer.toVariant message) ++ [newline]) =
    .ok (.map dataMap) ∧ Reads env.toQt dataMap message

theorem kept_onDocuments (documents : List QVariantMap) (params : QVariantMap) :
    Kept (Qt.onDocuments documents) params params := by
  refine ⟨fun key text h => ?_,fun key clientUuid h => ?_,fun key a h => ?_⟩
  · rw [h]
    rfl
  · rw [h]
    exact uuidOf_uuidText clientUuid.toNat
  · rw [h]
    rfl

def Noticed (env : Environment) : Message → Prop
  | .notification _ nameSpace method params => nameSpace = "TunnelProxy" ∧
    (method = "ClientConnected" ∧ (∃ s client, params = clientConnectedParams env s client) ∨
      method = "ClientDisconnected" ∧ ∃ s client, params = clientDisconnectedParams s client)
  | _ => True

def Output.noticed (env : Environment) : Output → Prop
  | .sent _ message _ => Noticed env message
  | _ => True

theorem says_noticed (env : Environment) : Says env (Output.noticed env) where
  quiet x hx := by
    cases x with
    | sent o m data =>
      cases m with
      | notification => exact hx.elim
      | _ => trivial
    | _ => trivial
  tunnelData _ _ _ _ _ := trivial
  connected s client _ _ _ := ⟨rfl,.inl ⟨rfl,s,client,rfl⟩⟩
  disconnected s client _ _ _ := ⟨rfl,.inr ⟨rfl,s,client,rfl⟩⟩

namespace TunnelProxySocketServer

variable {env : Environment} {n : Nat} {marks : List ClientMark}
  {library : TunnelProxySocketServer}

def Output.notice (env : Environment) : Output → Option Notice
  | .clientConnected socket => some (.connected socket.m_clientName
      (env.uuidToString socket.m_clientUuid) socket.m_clientPeerAddress socket.m_socketAddress)
  | .dataReceived socket data =>
    some (.data (env.uuidToString socket.m_clientUuid) socket.m_socketAddress data)
  | .clientDisconnected socket => some (.disconnected socket.m_socketAddress)
  | _ => none

def notices (env : Environment) (library : TunnelProxySocketServer) : List Notice :=
  library.output.filterMap (Output.notice env)

/-- A server that runs and has heard of its clients what the marks say; `n` notifications have been
sent before. -/
structure Following (env : Environment) (n : Nat) (marks : List ClientMark)
    (library : TunnelProxySocketServer) : Prop where
  running : library.m_state = .StateRunning
  onlyZero : OnlyZero library.m_jsonClient
  awaited : ∀ reply, library.m_jsonClient.m_replies.value 0 = some reply → 0 < n ∧
    (library.finishedSlot reply = .pingFinished ∨ library.finishedSlot reply = .disconnectFinished)
  jsonBuffer : library.m_jsonClient.m_dataBuffer = []
  shown : ∀ a, (library.m_tunnelProxySockets.value a).map
    (fun socket => env.uuidToString socket.m_clientUuid) = table marks a
  addressed : ∀ a socket, library.m_tunnelProxySockets.value a = some socket →
    socket.m_socketAddress = a

theorem Sound.following (h : Sound library) (hrunning : library.m_state = .StateRunning)
    (hnone : library.m_tunnelProxySockets = ∅) (hbuffer : library.m_jsonClient.m_dataBuffer = []) :
    Following env n [] library := by
  refine ⟨hrunning,h.onlyZero,fun reply hr => ?_,hbuffer,fun a => ?_,fun a socket ha => ?_⟩
  · rw [h.running hrunning] at hr
    cases hr
  · rw [hnone]
    rfl
  · rw [hnone] at ha
    cases ha

theorem notices_emit (library : TunnelProxySocketServer) (o : Output) :
    notices env (library.emit o) = notices env library ++ (Output.notice env o).toList := by
  rw [notices,emit,List.filterMap_append]
  cases ho : Output.notice env o <;> simp [notices,ho]

section Slots

theorem Following.congr {t : TunnelProxySocketServer} (h : Following env n marks library)
    (hstate : t.m_state = library.m_state) (hclient : t.m_jsonClient = library.m_jsonClient)
    (hslot : t.finishedSlot = library.finishedSlot)
    (hsockets : t.m_tunnelProxySockets = library.m_tunnelProxySockets) :
    Following env n marks t := by
  refine ⟨hstate.trans h.running,hclient ▸ h.onlyZero,?_,hclient ▸ h.jsonBuffer,?_,?_⟩
  · rw [hclient,hslot]
    exact h.awaited
  · rw [hsockets]
    exact h.shown
  · rw [hsockets]
    exact h.addressed

theorem Following.client (h : Following env n marks library) {c : JsonRpcClient}
    (honly : OnlyZero c) (hbuffer : c.m_dataBuffer = [])
    (hreplies : ∀ reply, c.m_replies.value 0 = some reply →
      library.m_jsonClient.m_replies.value 0 = some reply) :
    Following env n marks { library with m_jsonClient := c } :=
  ⟨h.running,honly,fun reply hr => h.awaited reply (hreplies reply hr),hbuffer,h.shown,h.addressed⟩

theorem Following.marked (h : Following env n marks library) {mark : ClientMark}
    (hmark : after (table marks mark.1) mark.2 = table marks mark.1) :
    Following env n (marks ++ [mark]) library := by
  refine ⟨h.running,h.onlyZero,h.awaited,h.jsonBuffer,fun a => ?_,h.addressed⟩
  rw [table_append,h.shown]
  split
  · next ha => rw [ha,hmark]
  · rfl

theorem clientConnected_follows (h : Following env n marks library) (clientName : String)
    (clientUuid : QUuid) (clientPeerAddress : String) (a : UInt16) :
    let t := library.onTunnelProxyClientConnected clientName clientUuid clientPeerAddress a
    Following env n (marks ++ [(a,.opened (env.uuidToString clientUuid))]) t ∧
      notices env t = notices env library ++
        [.connected clientName (env.uuidToString clientUuid) clientPeerAddress a] := by
  refine ⟨⟨h.running,h.onlyZero,h.awaited,h.jsonBuffer,fun b => ?_,fun b socket hb => ?_⟩,?_⟩
  · rw [table_append]
    refine (congrArg (Option.map _) (QHash.value_insert _ _ _ _)).trans ?_
    split
    · rfl
    · exact h.shown b
  · have hb := (QHash.value_insert _ _ _ _).symm.trans hb
    split at hb
    · next hba =>
      rw [← Option.some.inj hb,hba]
      rfl
    · exact h.addressed b socket hb
  · exact notices_emit _ _

theorem clientDisconnected_follows (h : Following env n marks library) {a : UInt16}
    (hopen : table marks a ≠ none) :
    let t := library.onTunnelProxyClientDisconnected a
    Following env n (marks ++ [(a,.closed)]) t ∧
      notices env t = notices env library ++ [.disconnected a] := by
  obtain ⟨clientUuid,hu⟩ := Option.ne_none_iff_exists'.mp hopen
  have hshown := (h.shown a).trans hu
  obtain ⟨socket,hsocket,-⟩ := Option.map_eq_some_iff.mp hshown
  have haddress := h.addressed a socket hsocket
  simp only [onTunnelProxyClientDisconnected,hsocket]
  refine ⟨⟨h.running,h.onlyZero,h.awaited,h.jsonBuffer,fun b => ?_,fun b other hb => ?_⟩,?_⟩
  · rw [table_append]
    refine (congrArg (Option.map _) (QHash.value_remove _ _ _)).trans ?_
    split
    · rfl
    · exact h.shown b
  · have hb := (QHash.value_remove _ _ _).symm.trans hb
    split at hb
    · cases hb
    · exact h.addressed b other hb
  · rw [notices_emit]
    exact congrArg (fun x => notices env library ++ [Notice.disconnected x]) haddress

end Slots

section Json

theorem jsonData_line (env : Environment) (library : TunnelProxySocketServer)
    (hbuffer : library.m_jsonClient.m_dataBuffer = []) (object : CompactObject) :
    let t := handle env.toQt (owner env.toQt) (object.text ++ [newline]) library
    library.jsonData env.toQt (object.text ++ [newline]) =
      { t with m_jsonClient := { t.m_jsonClient with m_dataBuffer := [] } } := by
  have hcut : JsonPackets.processData record library.m_jsonClient.m_dataBuffer
      (object.text ++ [newline]) [] = ([],[object.text ++ [newline]]) := by
    rw [hbuffer]
    exact flush_line record 0 object []
  intro t
  rw [jsonData,JsonRpcClient.processData_eq]
  simp only [owner,hcut,List.foldl_cons,List.foldl_nil]
  rfl

theorem Following.finished (h : Following env n marks library) {reply : Nat}
    (hr : library.m_jsonClient.m_replies.value 0 = some reply) :
    ∀ t : TunnelProxySocketServer, t.finishedSlot = library.finishedSlot →
      slot env.toQt (.finished reply) t = t := by
  intro t ht
  obtain ⟨-,hslot⟩ := h.awaited reply hr
  rw [slot,ht]
  rcases hslot with hslot | hslot
  · rw [hslot]
  · rw [hslot]

theorem Following.packet (h : Following env n marks library) (packet : QByteArray) :
    Following env n marks { library with
      m_jsonClient := (processDataPacket env.toQt library.m_jsonClient packet).1 } := by
  have honly := h.onlyZero.processDataPacket env.toQt packet
  rcases processDataPacket_cases env.toQt library.m_jsonClient packet with
    hp | ⟨jsonDoc,-,⟨reply,-,hp⟩ | ⟨-,hp⟩⟩
  · rw [hp]
    exact h
  · rw [hp] at honly ⊢
    refine h.client honly h.jsonBuffer fun reply hr => ?_
    have hr := (QHash.value_remove _ _ _).symm.trans hr
    split at hr
    · cases hr
    · exact hr
  · rw [hp] at honly ⊢
    refine h.client honly h.jsonBuffer fun reply hr => ?_
    have hr := (QHash.value_remove _ _ _).symm.trans hr
    split at hr
    · cases hr
    · exact hr

theorem response_follows (h : Following env n marks library) {packet : QByteArray}
    {dataMap : QVariantMap} (hj : env.fromJson packet = .ok (.map dataMap))
    (hnone : dataMap.contains "notification" = false) :
    handle env.toQt (owner env.toQt) packet library = { library with
      m_jsonClient := (processDataPacket env.toQt library.m_jsonClient packet).1 } := by
  have hsignal : notificationSignal env.toQt dataMap = none := by
    rw [notificationSignal,if_neg (by simp [hnone])]
  rcases processDataPacket_cases env.toQt library.m_jsonClient packet with
    hp | ⟨jsonDoc,hj',⟨reply,hr,hp⟩ | ⟨-,hp⟩⟩
  · simp only [JsonRpcClient.handle,owner,hp]
  · rw [h.onlyZero.awaited hr] at hr
    simp only [JsonRpcClient.handle,owner,hp]
    exact h.finished hr _ rfl
  · obtain rfl : .map dataMap = jsonDoc := by
      rw [hj] at hj'
      exact Except.ok.inj hj'
    simp only [QVariant.toMap,hsignal] at hp
    simp only [JsonRpcClient.handle,owner,hp]

theorem notification_handled (h : Following env n marks library) {packet : QByteArray}
    {dataMap : QVariantMap} {id : Int32} (hid : 0 < n → id ≠ 0)
    (hj : env.fromJson packet = .ok (.map dataMap))
    (hecho : env.toInt (dataMap.value "id") = some id.toInt) (notification : Notification)
    (hcontains : dataMap.contains "notification" = true)
    (hmethod : env.toString (dataMap.value "notification") = notification.method) :
    handle env.toQt (owner env.toQt) packet library =
      slot env.toQt (notification.signal env.toQt (dataMap.value "params").toMap)
        { library with
          m_jsonClient := (processDataPacket env.toQt library.m_jsonClient packet).1 } := by
  have hunawaited : library.m_jsonClient.m_replies.value id.toInt = none := by
    by_cases hzero : id = 0
    · subst hzero
      cases hr : library.m_jsonClient.m_replies.value 0 with
      | none => exact hr
      | some reply => exact absurd rfl (hid (h.awaited reply hr).1)
    · exact h.onlyZero.others _ fun hint => hzero (Int32.toInt_inj.mp hint)
  obtain ⟨hp,-⟩ := processDataPacket_unknown hj hecho hunawaited
  have hsignal := Subscription.notificationSignal_of hcontains hmethod
  simp only [JsonRpcClient.handle,owner,hp,hsignal]

end Json

section Messages

structure Expected (env : Environment) (n : Nat) (marks : List ClientMark) (message : Message) :
    Prop where
  framed : ∀ payload, message ≠ .payload payload
  legible : message.isJson = true → Legible env message
  noticed : Noticed env message
  numbered : ∀ id nameSpace method params,
    message = .notification id nameSpace method params → 0 < n → id ≠ 0
  fits : ∀ mark, markOf message = some mark →
    Fits env.uuidToString (table marks mark.1) mark.2 ∧ mark.1 ≠ 0x0000

theorem processFrame_json (h : Following env n marks library) {message : Message}
    (hjson : message.isJson = true) (hlegible : Legible env message) :
    ∃ start, Following env n marks start ∧ notices env start = notices env library ∧
      let packet := env.toJson (JsonRpcServer.toVariant message) ++ [newline]
      let t := JsonRpcClient.handle env.toQt (owner env.toQt) packet start
      library.processFrame env.toQt (message.frame env) =
        { t with m_jsonClient := { t.m_jsonClient with m_dataBuffer := [] } } := by
  have hframe : message.frame env =
      ⟨0x0000,env.toJson (JsonRpcServer.toVariant message) ++ [newline]⟩ := by
    cases message with
    | tunnelData => cases hjson
    | payload => cases hjson
    | _ => rfl
  obtain ⟨object,htext⟩ := hlegible.compact
  have hstart : Following env n marks ((library.emit (.frameReceived (message.frame env))).emit
      (.jsonReceived (message.frame env).data)) := h.congr rfl rfl rfl rfl
  refine ⟨_,hstart,?_,?_⟩
  · rw [notices_emit,notices_emit]
    simp [Output.notice]
  · have hline := jsonData_line env _ hstart.jsonBuffer object
    rw [htext,hframe] at hline
    rw [processFrame,hframe,if_pos rfl]
    exact hline

theorem Following.cleared (h : Following env n marks library) :
    Following env n marks { library with
      m_jsonClient := { library.m_jsonClient with m_dataBuffer := [] } } :=
  h.client ⟨h.onlyZero.commandId,h.onlyZero.others⟩ rfl fun _ hr => hr

theorem response_frame_follows (h : Following env n marks library) {message : Message}
    (hjson : message.isJson = true) (hlegible : Legible env message)
    (hresponse : ∀ dataMap, Reads env.toQt dataMap message →
      dataMap.contains "notification" = false) :
    Following env n marks (library.processFrame env.toQt (message.frame env)) ∧
      notices env (library.processFrame env.toQt (message.frame env)) = notices env library := by
  obtain ⟨start,hstart,hnotices,heq⟩ := processFrame_json h hjson hlegible
  obtain ⟨dataMap,hj,hreads⟩ := hlegible.read
  have hhandled := response_follows hstart hj (hresponse dataMap hreads)
  rw [heq,hhandled]
  exact ⟨(hstart.packet _).cleared,hnotices⟩

theorem notice_connected (env : Environment) (s : TunnelProxyServer) (o : ObjectId)
    (id : Int32) :
    Message.notice env
        (.notification id "TunnelProxy" "ClientConnected" (clientConnectedParams env s o)) =
      some (.connected (s.client o).m_name (env.uuidToString (s.client o).m_uuid)
        (s.client o).m_peerAddress (s.clientConnection o).m_socketAddress) := by
  have ha : addressIn (clientConnectedParams env s o) = (s.clientConnection o).m_socketAddress :=
    addressIn_ofNat _ _ rfl
  simp only [Message.notice,and_self,if_true,ha]
  rfl

theorem notice_disconnected (env : Environment) (s : TunnelProxyServer) (o : ObjectId)
    (id : Int32) :
    Message.notice env
        (.notification id "TunnelProxy" "ClientDisconnected" (clientDisconnectedParams s o)) =
      some (.disconnected (s.clientConnection o).m_socketAddress) := by
  have ha : addressIn (clientDisconnectedParams s o) = (s.clientConnection o).m_socketAddress :=
    addressIn_ofNat _ _ rfl
  simp [Message.notice,ha]

theorem slot_connected {s : TunnelProxyServer} {o : ObjectId} {read : QVariantMap}
    (h : Kept env.toQt (clientConnectedParams env s o) read) :
    slot env.toQt (Notification.ClientConnected.signal env.toQt read) =
      fun t => t.onTunnelProxyClientConnected (s.client o).m_name (s.client o).m_uuid
        (s.client o).m_peerAddress (s.clientConnection o).m_socketAddress := by
  have hname := h.text "clientName" _ rfl
  have haddress := h.text "clientPeerAddress" _ rfl
  have huuid := h.uuid "clientUuid" _ rfl
  have hnumber := h.number "socketAddress" _ rfl
  funext t
  simp only [Notification.signal,slot,hname,haddress,huuid,hnumber,UInt16.ofNat_toNat]

theorem slot_disconnected {s : TunnelProxyServer} {o : ObjectId} {read : QVariantMap}
    (h : Kept env.toQt (clientDisconnectedParams s o) read) :
    slot env.toQt (Notification.ClientDisconnected.signal env.toQt read) =
      fun t => t.onTunnelProxyClientDisconnected (s.clientConnection o).m_socketAddress := by
  have hnumber := h.number "socketAddress" _ rfl
  funext t
  simp only [Notification.signal,slot,hnumber,UInt16.ofNat_toNat]

theorem notification_follows (h : Following env n marks library) {id : Int32}
    {nameSpace method : String} {params : QVariantMap}
    (he : Expected env n marks (.notification id nameSpace method params)) :
    let message := Message.notification id nameSpace method params
    let t := library.processFrame env.toQt (message.frame env)
    Following env n (marks ++ (markOf message).toList) t ∧
      notices env t = notices env library ++ (message.notice env).toList := by
  have hlegible := he.legible rfl
  obtain ⟨start,hstart,hnotices,heq⟩ := processFrame_json h rfl hlegible
  obtain ⟨dataMap,hj,hecho,hcontains,hmethod,hkept⟩ := hlegible.read
  have hid := he.numbered id nameSpace method params rfl
  intro message t
  have ht : t = _ := heq
  obtain ⟨rfl,hnotice⟩ := he.noticed
  rcases hnotice with ⟨rfl,s,client,rfl⟩ | ⟨rfl,s,client,rfl⟩
  · have hhandled := notification_handled hstart hid hj hecho .ClientConnected hcontains
      hmethod
    obtain ⟨hfollowing,htold⟩ := clientConnected_follows (hstart.packet _)
      (s.client client).m_name (s.client client).m_uuid (s.client client).m_peerAddress
      (s.clientConnection client).m_socketAddress
    rw [hhandled,slot_connected hkept] at ht
    rw [ht,markOf_connected env s client id,notice_connected env s client id]
    exact ⟨hfollowing.cleared,htold.trans (congrArg (· ++ _) hnotices)⟩
  · have hhandled := notification_handled hstart hid hj hecho .ClientDisconnected hcontains
      hmethod
    have hmark := markOf_disconnected s client id
    obtain ⟨hopen,-⟩ := he.fits _ hmark
    obtain ⟨hfollowing,htold⟩ := clientDisconnected_follows (hstart.packet _) hopen
    rw [hhandled,slot_disconnected hkept] at ht
    rw [ht,hmark,notice_disconnected env s client id]
    exact ⟨hfollowing.cleared,htold.trans (congrArg (· ++ _) hnotices)⟩

theorem tunnelData_follows (h : Following env n marks library) {clientUuid : QUuid} {a : UInt16}
    {data : QByteArray} (he : Expected env n marks (.tunnelData clientUuid a data)) :
    let t := library.processFrame env.toQt ⟨a,data⟩
    Following env n (marks ++ [(a,.used clientUuid)]) t ∧
      notices env t = notices env library ++ [.data (env.uuidToString clientUuid) a data] := by
  obtain ⟨hopen,hne⟩ := he.fits _ rfl
  have hopen : table marks a = some (env.uuidToString clientUuid) := hopen
  obtain ⟨socket,hsocket,huuid⟩ := Option.map_eq_some_iff.mp ((h.shown a).trans hopen)
  have haddress := h.addressed a socket hsocket
  have hvalue : (library.emit (.frameReceived ⟨a,data⟩)).m_tunnelProxySockets.value a =
      some socket := hsocket
  simp only [processFrame,if_neg hne,hvalue]
  refine ⟨(h.marked rfl).congr rfl rfl rfl rfl,?_⟩
  rw [notices_emit,notices_emit]
  simp [Output.notice,huuid,haddress]

theorem message_follows (h : Following env n marks library) {message : Message}
    (he : Expected env n marks message) :
    let t := library.processFrame env.toQt (message.frame env)
    Following env n (marks ++ (markOf message).toList) t ∧
      notices env t = notices env library ++ (message.notice env).toList := by
  cases message with
  | response commandId params =>
    obtain ⟨hfollowing,hnotices⟩ := response_frame_follows h rfl (he.legible rfl) fun _ hr => hr
    simp only [markOf,Message.notice,Option.toList_none,List.append_nil]
    exact ⟨hfollowing,hnotices⟩
  | errorResponse commandId error =>
    obtain ⟨hfollowing,hnotices⟩ := response_frame_follows h rfl (he.legible rfl) fun _ hr => hr
    simp only [markOf,Message.notice,Option.toList_none,List.append_nil]
    exact ⟨hfollowing,hnotices⟩
  | notification id nameSpace method params => exact notification_follows h he
  | tunnelData clientUuid a data => exact tunnelData_follows h he
  | payload data => exact absurd rfl (he.framed data)

end Messages

section Run

/-- What the server does between two reads, and what its timer and its application have it do. -/
inductive Event where
  | received (chunk : QByteArray)
  | writeData (socket : TunnelProxySocket) (data : QByteArray)
  | requestSocketDisconnect (socketAddress : UInt16)
  | keepAliveTimeout
  | elapse (ms : Nat)

def step (env : Qt) (library : TunnelProxySocketServer) : Event → TunnelProxySocketServer
  | .received chunk => library.onConnectionDataAvailable env chunk
  | .writeData socket data => library.writeData socket data
  | .requestSocketDisconnect socketAddress => library.requestSocketDisconnect env socketAddress
  | .keepAliveTimeout => library.keepAliveTimeout env
  | .elapse ms => { library with now := library.now + ms }

def Event.chunk : Event → QByteArray
  | .received chunk => chunk
  | _ => []

def Event.asks : Event → Bool
  | .requestSocketDisconnect _ => true
  | .keepAliveTimeout => true
  | _ => false

theorem request_follows (h : Following env n marks library) (hpos : 0 < n)
    (nameSpace method : String) (params : QVariantMap) (slipEnabled : Bool) {finished : FinishedSlot}
    (hfinished : finished = .pingFinished ∨ finished = .disconnectFinished) :
    let t := library.request (call env.toQt nameSpace method params slipEnabled) finished
    Following env n marks t ∧ notices env t = notices env library := by
  obtain ⟨honly,hreply⟩ := h.onlyZero.call env.toQt nameSpace method params slipEnabled
  refine ⟨⟨h.running,honly,fun reply hr => ⟨hpos,?_⟩,h.jsonBuffer,h.shown,h.addressed⟩,?_⟩
  · obtain rfl := Option.some.inj (hreply.symm.trans hr)
    have hslot : (library.request (call env.toQt nameSpace method params slipEnabled)
        finished).finishedSlot library.m_jsonClient.created = finished :=
      Function.update_self _ _ _
    rw [hslot]
    exact hfinished
  · rw [notices,request]
    exact (List.filterMap_append ..).trans (List.append_nil _)

structure Deliverable (env : Environment) (n : Nat) (marks : List ClientMark)
    (messages : List Message) : Prop where
  framed : ∀ message ∈ messages, ∀ payload, message ≠ .payload payload
  legible : ∀ message ∈ messages, message.isJson = true → Legible env message
  noticed : ∀ message ∈ messages, Noticed env message
  numbered : ∀ id nameSpace method params,
    .notification id nameSpace method params ∈ messages → 0 < n → id ≠ 0
  bracketed : WellBracketed env.uuidToString (marks ++ messages.filterMap markOf)
  addresses : ∀ mark ∈ messages.filterMap markOf, mark.1 ≠ 0x0000

theorem Deliverable.split {heard unheard : List Message}
    (h : Deliverable env n marks (heard ++ unheard)) : Deliverable env n marks heard ∧
      Deliverable env n (marks ++ heard.filterMap markOf) unheard := by
  obtain ⟨hframed,hlegible,hnoticed,hnumbered,hbracketed,haddresses⟩ := h
  rw [List.filterMap_append] at hbracketed haddresses
  rw [← List.append_assoc] at hbracketed
  constructor
  · exact ⟨fun x hx => hframed x (List.mem_append_left _ hx),
      fun x hx => hlegible x (List.mem_append_left _ hx),
      fun x hx => hnoticed x (List.mem_append_left _ hx),
      fun id nameSpace method params hx =>
        hnumbered id nameSpace method params (List.mem_append_left _ hx),
      hbracketed.before,fun mark hm => haddresses mark (List.mem_append_left _ hm)⟩
  · exact ⟨fun x hx => hframed x (List.mem_append_right _ hx),
      fun x hx => hlegible x (List.mem_append_right _ hx),
      fun x hx => hnoticed x (List.mem_append_right _ hx),
      fun id nameSpace method params hx =>
        hnumbered id nameSpace method params (List.mem_append_right _ hx),
      hbracketed,fun mark hm => haddresses mark (List.mem_append_right _ hm)⟩

theorem Deliverable.expected {message : Message} {messages : List Message}
    (h : Deliverable env n marks (message :: messages)) : Expected env n marks message := by
  refine ⟨h.framed _ List.mem_cons_self,h.legible _ List.mem_cons_self,
    h.noticed _ List.mem_cons_self,?_,fun mark hmark => ?_⟩
  · rintro id nameSpace method params rfl
    exact h.numbered id nameSpace method params List.mem_cons_self
  · have hsplit : (message :: messages).filterMap markOf = mark :: messages.filterMap markOf :=
      List.filterMap_cons_some hmark
    have hbracketed := h.bracketed
    rw [hsplit] at hbracketed
    exact ⟨hbracketed.fits,h.addresses mark (hsplit ▸ List.mem_cons_self)⟩

theorem messages_follow (h : Following env n marks library) {messages : List Message}
    (hd : Deliverable env n marks messages) :
    let t := (messages.map (Message.frame env)).foldl (processFrame env.toQt) library
    Following env n (marks ++ messages.filterMap markOf) t ∧
      notices env t = notices env library ++ messages.filterMap (Message.notice env) := by
  induction messages generalizing library marks with
  | nil => exact ⟨(List.append_nil marks).symm ▸ h,(List.append_nil _).symm⟩
  | cons message messages ih =>
    have hmarks : [message].filterMap markOf = (markOf message).toList := by
      cases hm : markOf message <;> simp [hm]
    have hnotices : [message].filterMap (Message.notice env) = (message.notice env).toList := by
      cases hm : message.notice env <;> simp [hm]
    have hboth : Deliverable env n marks ([message] ++ messages) := hd
    obtain ⟨-,hrest⟩ := hboth.split
    obtain ⟨hone,htold⟩ := message_follows h hd.expected
    rw [hmarks] at hrest
    obtain ⟨hall,hmore⟩ := ih hone hrest
    rw [← List.singleton_append,List.filterMap_append,List.filterMap_append,hmarks,hnotices,
      ← List.append_assoc,← List.append_assoc,← htold]
    exact ⟨hall,hmore⟩

theorem received_follows (h : Following env n marks library) {messages : List Message}
    (hd : Deliverable env n marks messages) {chunk rest : QByteArray}
    (hunread : reassemble library.m_dataBuffer (chunk ++ rest) =
      ([],messages.map (Message.frame env))) :
    let t := library.onConnectionDataAvailable env.toQt chunk
    ∃ heard unheard, messages = heard ++ unheard ∧
      Following env n (marks ++ heard.filterMap markOf) t ∧
      notices env t = notices env library ++ heard.filterMap (Message.notice env) ∧
      reassemble t.m_dataBuffer rest = ([],unheard.map (Message.frame env)) := by
  intro t
  rw [reassemble_append,Prod.mk.injEq] at hunread
  obtain ⟨hbuffer,hframes⟩ := hunread
  obtain ⟨heard,unheard,rfl,hheard,hunheard⟩ := List.map_eq_append_iff.mp hframes.symm
  have ht : t = slipData env.toQt { library with
      m_keepAliveTimer := library.m_keepAliveTimer.start library.now } chunk :=
    if_neg (not_not.mpr h.running)
  have hstart : Following env n marks { library with
      m_keepAliveTimer := library.m_keepAliveTimer.start library.now } := h.congr rfl rfl rfl rfl
  obtain ⟨hall,htold⟩ := messages_follow hstart hd.split.1
  rw [slipData_eq,← hheard] at ht
  refine ⟨heard,unheard,rfl,?_,?_,?_⟩
  · rw [ht]
    exact hall.congr rfl rfl rfl rfl
  · rw [ht]
    exact htold
  · have hkept : t.m_dataBuffer = (reassemble library.m_dataBuffer chunk).1 := by rw [ht]
    rw [hkept]
    exact Prod.ext hbuffer hunheard.symm

theorem silent_follows (h : Following env n marks library) {event : Event}
    (hchunk : ∀ chunk, event ≠ .received chunk) (hasks : event.asks = true → 0 < n) :
    let t := library.step env.toQt event
    Following env n marks t ∧ notices env t = notices env library ∧
      t.m_dataBuffer = library.m_dataBuffer := by
  cases event with
  | received chunk => exact absurd rfl (hchunk chunk)
  | writeData socket data =>
    refine ⟨h.congr rfl rfl rfl rfl,?_,rfl⟩
    exact (notices_emit library _).trans (List.append_nil _)
  | requestSocketDisconnect socketAddress =>
    obtain ⟨hnext,hnotices⟩ := request_follows h (hasks rfl) "TunnelProxy" "DisconnectClient"
      [("socketAddress",.ofNat socketAddress.toNat)] true (.inr rfl)
    exact ⟨hnext,hnotices,rfl⟩
  | keepAliveTimeout =>
    simp only [step,keepAliveTimeout]
    split
    · rw [if_pos h.running]
      have hticked : Following env n marks { library with
          m_keepAliveTimer := library.m_keepAliveTimer.timeout library.now } :=
        h.congr rfl rfl rfl rfl
      obtain ⟨hnext,hnotices⟩ := request_follows hticked (hasks rfl) "TunnelProxy" "Ping"
        [("timestamp",.ofNat (library.now / 1000))] true (.inl rfl)
      exact ⟨hnext,hnotices,rfl⟩
    · exact ⟨h,rfl,rfl⟩
  | elapse ms => exact ⟨h.congr rfl rfl rfl rfl,rfl,rfl⟩

theorem run_follows (h : Following env n marks library) {messages : List Message}
    (hd : Deliverable env n marks messages) {events : List Event}
    (hasks : ∀ event ∈ events, event.asks = true → 0 < n) {rest : QByteArray}
    (hunread : reassemble library.m_dataBuffer (events.flatMap Event.chunk ++ rest) =
      ([],messages.map (Message.frame env))) :
    let t := Runs.run (step env.toQt) library events
    ∃ heard unheard, messages = heard ++ unheard ∧
      Following env n (marks ++ heard.filterMap markOf) t ∧
      notices env t = notices env library ++ heard.filterMap (Message.notice env) ∧
      reassemble t.m_dataBuffer rest = ([],unheard.map (Message.frame env)) := by
  induction events generalizing library marks messages with
  | nil =>
    exact ⟨[],messages,rfl,(List.append_nil marks).symm ▸ h,(List.append_nil _).symm,hunread⟩
  | cons event events ih =>
    have hasks' := fun e he => hasks e (List.mem_cons_of_mem event he)
    rw [List.flatMap_cons,List.append_assoc] at hunread
    have hone : ∃ heard unheard, messages = heard ++ unheard ∧
        Following env n (marks ++ heard.filterMap markOf) (library.step env.toQt event) ∧
        notices env (library.step env.toQt event) =
          notices env library ++ heard.filterMap (Message.notice env) ∧
        reassemble (library.step env.toQt event).m_dataBuffer
          (events.flatMap Event.chunk ++ rest) = ([],unheard.map (Message.frame env)) := by
      by_cases hchunk : ∃ chunk, event = .received chunk
      · obtain ⟨chunk,rfl⟩ := hchunk
        exact received_follows h hd hunread
      · obtain ⟨hnext,hnotices,hbuffer⟩ := silent_follows h (fun chunk he => hchunk ⟨chunk,he⟩)
          (hasks event List.mem_cons_self)
        have hnone : event.chunk = [] := by
          cases event with
          | received chunk => exact absurd ⟨chunk,rfl⟩ hchunk
          | _ => rfl
        rw [hnone,List.nil_append] at hunread
        refine ⟨[],messages,rfl,?_,?_,hbuffer ▸ hunread⟩
        · rw [List.filterMap_nil,List.append_nil]
          exact hnext
        · rw [hnotices,List.filterMap_nil,List.append_nil]
    obtain ⟨first,later,rfl,hnext,htold,hlater⟩ := hone
    obtain ⟨heard,unheard,rfl,hlast,hmore,hrest⟩ := ih hnext hd.split.2 hasks' hlater
    refine ⟨first ++ heard,unheard,(List.append_assoc ..).symm,?_,?_,hrest⟩
    · rw [List.filterMap_append,← List.append_assoc]
      exact hlast
    · rw [List.filterMap_append,← List.append_assoc,← htold]
      exact hmore

end Run

end TunnelProxySocketServer

end RemoteProxy
