import RemoteProxy.Library.FrameStream
import RemoteProxy.Proxy.Downlink

namespace RemoteProxy.Uplink

open SlipDataProcessor TunnelProxyServer

variable {env : Environment} {qt : Qt} {s s' : TunnelProxyServer} {server : ObjectId}
  {library : TunnelProxySocketServer}

inductive Item where
  | data (client : ObjectId) (data : QByteArray)
  | response (commandId : Int) (params : QVariantMap)
  | errorResponse (commandId : Int) (error : String)
  | notification (nameSpace method : String) (params : QVariantMap)

def send (env : Environment) (server : ObjectId) (s : TunnelProxyServer) :
    Item → TunnelProxyServer
  | .data client data => onClientDataAvailable env s client data
  | .response commandId params => JsonRpcServer.sendResponse env s server commandId params
  | .errorResponse commandId error => JsonRpcServer.sendErrorResponse env s server commandId error
  | .notification nameSpace method params =>
    JsonRpcServer.sendNotification env s nameSpace method params server

def bytesTo (server : ObjectId) (output : List Output) : QByteArray :=
  output.flatMap fun
    | .sent clientId _ data => if clientId = server then data else []
    | _ => []

structure Attached (s : TunnelProxyServer) (server client : ObjectId) : Prop where
  live : s.live client
  isClient : s.isClient client
  attached : (s.clientConnection client).m_serverConnection = some server

instance (s : TunnelProxyServer) (server client : ObjectId) : Decidable (Attached s server client) :=
  decidable_of_iff (s.m_proxyClients.value client = some client ∧
      (s.client client).m_type = .TypeClient ∧
      (s.clientConnection client).m_serverConnection = some server)
    ⟨fun ⟨h1,h2,h3⟩ => ⟨h1,h2,h3⟩,fun ⟨h1,h2,h3⟩ => ⟨h1,h2,h3⟩⟩

def address (s : TunnelProxyServer) (client : ObjectId) : UInt16 :=
  (s.clientConnection client).m_socketAddress

section Proxy

def messageFrame (env : Environment) (message : Message) : Frame :=
  ⟨0x0000,env.toJson (JsonRpcServer.toVariant message) ++ [JsonPackets.newline]⟩

def frame (env : Environment) (s : TunnelProxyServer) : Item → Frame
  | .data client data => ⟨address s client,data⟩
  | .response commandId params => messageFrame env (.response commandId params)
  | .errorResponse commandId error => messageFrame env (.errorResponse commandId error)
  | .notification nameSpace method params =>
    messageFrame env (.notification s.m_notificationId nameSpace method params)

def frames (env : Environment) (server : ObjectId) : TunnelProxyServer → List Item → List Frame
  | _, [] => []
  | s, item :: items => frame env s item :: frames env server (send env server s item) items

theorem Attached.congr (h : SameRoutes s s') {client : ObjectId} (ha : Attached s server client) :
    Attached s' server client := by
  refine ⟨(h.same.live_iff client).mpr ha.live,(h.same.isClient_iff client).mpr ha.isClient,?_⟩
  rw [h.same.clientConnection]
  exact ha.attached

theorem address_congr (h : SameRoutes s s') (client : ObjectId) :
    address s' client = address s client := by
  rw [address,address,h.same.clientConnection]

theorem sendMessage_sent (env : Environment) (h : Serving s server) (message : Message) :
    SameRoutes s (JsonRpcServer.sendMessage env s server message) ∧
      (JsonRpcServer.sendMessage env s server message).output =
        s.output ++ [.sent server message (serializeData (buildFrame (messageFrame env message)))] := by
  have hframe : JsonRpcServer.jsonFrame env (s.client server).m_slipEnabled message =
      serializeData (buildFrame (messageFrame env message)) := by
    simp only [JsonRpcServer.jsonFrame,h.slipEnabled,if_true]
    rfl
  rw [JsonRpcServer.sendMessage,hframe]
  exact ⟨⟨SameRegistry.sendData s _ _ _,fun o => (sendData_client s _ _ _ o).1⟩,rfl⟩

theorem dataAvailable_sent (hc : Consistent [] s) (h : Serving s server) {client : ObjectId}
    (ha : Attached s server client) (data : QByteArray) :
    SameRoutes s (onClientDataAvailable env s client data) ∧
      ∃ message, (onClientDataAvailable env s client data).output =
        s.output ++ [.sent server message
          (serializeData (buildFrame ⟨address s client,data⟩))] := by
  obtain ⟨htype,huuid⟩ := addRxDataCount_same (s.client client) s.now data.length
  obtain ⟨hslip,-⟩ := addRxDataCount_slip (s.client client) s.now data.length
  have h1 : SameRoutes s (s.setClient client ((s.client client).addRxDataCount s.now data.length)) :=
    SameRoutes.setClient s htype huuid hslip
  have hentry : s.m_tunnelProxyClientConnections.value (s.client client).m_uuid = some client :=
    (hc.client_iff _ client).mpr ⟨ha.live,ha.isClient,rfl⟩
  have htransport : (s.serverConnection server).m_transportClient = server :=
    hc.serverTransport server ⟨h.isServer,.inl h.live⟩
  have hrx : onClientDataAvailable env s client data = tunnelToServer
      (s.setClient client ((s.client client).addRxDataCount s.now data.length)) client data := by
    have hlive : s.m_proxyClients.value client = some client := ha.live
    have hclient := (ha.congr h1).isClient
    simp only [isClient] at hclient
    simp only [onClientDataAvailable,hlive,hclient]
  rw [hrx]
  generalize ht : s.setClient client ((s.client client).addRxDataCount s.now data.length) = t at *
  have hentry' : t.m_tunnelProxyClientConnections.value (t.client client).m_uuid = some client := by
    rw [h1.same.clientConnections,h1.same.uuid,hentry]
  have hout : t.output = s.output := by rw [← ht]; rfl
  simp only [tunnelToServer,hentry',ha.attached,h1.same.serverConnection,htransport,
    h1.same.clientConnection]
  have hsent (bytes : QByteArray) : SameRoutes t (t.sendData server (.tunnelData
      (t.client client).m_uuid (s.clientConnection client).m_socketAddress data) bytes) :=
    ⟨SameRegistry.sendData t _ _ _,fun o => (sendData_client t _ _ _ o).1⟩
  refine ⟨h1.trans ⟨(hsent _).same.trans (SameRegistry.counted _ _),(hsent _).slipEnabled⟩,?_⟩
  refine ⟨.tunnelData (t.client client).m_uuid (s.clientConnection client).m_socketAddress data,?_⟩
  rw [← hout]
  rfl

theorem send_sent (env : Environment) (hc : Consistent [] s) (h : Serving s server) {item : Item}
    (hitem : ∀ client data, item = .data client data → Attached s server client) :
    SameRoutes s (send env server s item) ∧
      ∃ message, (send env server s item).output =
        s.output ++ [.sent server message (serializeData (buildFrame (frame env s item)))] := by
  cases item with
  | data client data => exact dataAvailable_sent hc h (hitem client data rfl) data
  | response commandId params =>
    obtain ⟨h1,h2⟩ := sendMessage_sent env h (.response commandId params)
    exact ⟨h1,_,h2⟩
  | errorResponse commandId error =>
    obtain ⟨h1,h2⟩ := sendMessage_sent env h (.errorResponse commandId error)
    exact ⟨h1,_,h2⟩
  | notification nameSpace method params =>
    have hcount : SameRoutes s { s with m_notificationId := s.m_notificationId + 1 } :=
      ⟨⟨rfl,rfl,rfl,rfl,fun _ => rfl,fun _ => rfl,rfl,rfl,rfl⟩,fun _ => rfl⟩
    obtain ⟨h1,h2⟩ := sendMessage_sent env (h.congr hcount)
      (.notification s.m_notificationId nameSpace method params)
    exact ⟨hcount.trans h1,_,h2⟩

theorem sends_sent (hc : Consistent [] s) (h : Serving s server) {items : List Item}
    (hitems : ∀ client data, .data client data ∈ items → Attached s server client) :
    bytesTo server (items.foldl (send env server) s).output =
      bytesTo server s.output ++ TunnelProxySocketServer.encoded (frames env server s items) := by
  induction items generalizing s with
  | nil => exact (List.append_nil _).symm
  | cons item items ih =>
    obtain ⟨h1,message,h2⟩ := send_sent env hc h
      (fun client data he => hitems client data (he ▸ List.mem_cons_self ..))
    have ih := ih (hc.congr h1.same) (h.congr h1)
      fun client data hm => (hitems client data (List.mem_cons_of_mem item hm)).congr h1
    rw [List.foldl_cons,ih,h2,frames]
    simp [bytesTo,TunnelProxySocketServer.encoded]

theorem frames_known (hc : Consistent [] s) (h : Serving s server) {items : List Item}
    (hitems : ∀ client data, .data client data ∈ items → Attached s server client)
    {f : Frame} (hf : f ∈ frames env server s items) :
    f.socketAddress = 0x0000 ∨ ∃ client, Attached s server client ∧
      f.socketAddress = address s client := by
  induction items generalizing s with
  | nil => simp [frames] at hf
  | cons item items ih =>
    have hitem : ∀ client data, item = .data client data → Attached s server client :=
      fun client data he => hitems client data (he ▸ List.mem_cons_self ..)
    obtain ⟨h1,-⟩ := send_sent env hc h hitem
    rcases List.mem_cons.mp hf with rfl | hf
    · cases item with
      | data client data => exact .inr ⟨client,hitem client data rfl,rfl⟩
      | response => exact .inl rfl
      | errorResponse => exact .inl rfl
      | notification => exact .inl rfl
    · rcases ih (hc.congr h1.same) (h.congr h1)
        (fun client data hm => (hitems client data (List.mem_cons_of_mem item hm)).congr h1) hf with
        h0 | ⟨client,ha,he⟩
      · exact .inl h0
      · exact .inr ⟨client,ha.congr h1.symm,he.trans (address_congr h1 client)⟩

end Proxy

section Library

inductive Handed where
  | json (payload : QByteArray)
  | data (address : UInt16) (data : QByteArray)
  deriving DecidableEq, Repr

def handed : TunnelProxySocketServer.Output → Option Handed
  | .jsonReceived payload => some (.json payload)
  | .dataReceived socket data => some (.data socket.m_socketAddress data)
  | _ => none

def handedFrame (frame : Frame) : Handed :=
  if frame.socketAddress = 0x0000 then .json frame.data else .data frame.socketAddress frame.data

def handedOn (library : TunnelProxySocketServer) : List Handed := library.output.filterMap handed

open TunnelProxySocketServer

theorem handedOn_traffic (library : TunnelProxySocketServer) :
    handedOn library = library.traffic.filterMap handed := by
  rw [handedOn,traffic,List.filterMap_filter]
  refine congrArg (fun f => library.output.filterMap f) (funext fun o => ?_)
  cases o <;> rfl

structure Ready (s : TunnelProxyServer) (server : ObjectId) (library : TunnelProxySocketServer) :
    Prop where
  running : library.m_state = .StateRunning
  sockets : ∀ client, Attached s server client →
    ∃ socket, library.m_tunnelProxySockets.value (address s client) = some socket ∧
      socket.m_socketAddress = address s client

theorem handedOn_processFrame (h : Ready s server library) {f : Frame}
    (hf : f.socketAddress = 0x0000 ∨
      ∃ client, Attached s server client ∧ f.socketAddress = address s client) :
    handedOn (library.processFrame qt f) = handedOn library ++ [handedFrame f] := by
  rw [TunnelProxySocketServer.processFrame,handedFrame]
  by_cases h0 : f.socketAddress = 0x0000
  · rw [if_pos h0,if_pos h0,handedOn_traffic,traffic_jsonData,handedOn_traffic]
    simp [traffic_emit,Output.isTraffic]
    rfl
  · obtain ⟨client,ha,he⟩ := hf.resolve_left h0
    obtain ⟨socket,hsocket,hsame⟩ := h.sockets client ha
    have hvalue : (library.emit (.frameReceived f)).m_tunnelProxySockets.value f.socketAddress =
        some socket := by
      rw [he]
      exact hsocket
    rw [if_neg h0,if_neg h0,hvalue,he,← hsame]
    simp [handedOn_traffic,traffic_emit,Output.isTraffic]
    rfl

/-- The chunks that have been received when the server stands at some byte of them. -/
def Upto (reached chunks : List QByteArray) : Prop :=
  reached <+: chunks ∨
    ∃ before chunk part, reached = before ++ [part] ∧ before ++ [chunk] <+: chunks ∧ part <+: chunk

theorem slipFrames_handed (library : TunnelProxySocketServer) {m_dataBuffer : QByteArray}
    (data : QByteArray)
    (hready : ∀ part, part <+: data →
      Ready s server ((reassemble m_dataBuffer part).2.foldl (processFrame qt) library))
    (hknown : ∀ f ∈ (reassemble m_dataBuffer data).2, f.socketAddress = 0x0000 ∨
      ∃ client, Attached s server client ∧ f.socketAddress = address s client) :
    handedOn ((reassemble m_dataBuffer data).2.foldl (processFrame qt) library) =
      handedOn library ++ (reassemble m_dataBuffer data).2.map handedFrame := by
  induction data using List.reverseRecOn with
  | nil => exact (List.append_nil _).symm
  | append_singleton data x ih =>
    rw [reassemble_append] at hknown ⊢
    have ih := ih (fun part hp => hready part (hp.trans (List.prefix_append _ _)))
      fun f hf => hknown f (List.mem_append_left _ hf)
    have hbefore := hready data (List.prefix_append _ _)
    simp only [List.foldl_append,List.map_append]
    have hone : (reassemble (reassemble m_dataBuffer data).1 [x]).2 = [] ∨
        ∃ f, (reassemble (reassemble m_dataBuffer data).1 [x]).2 = [f] := by
      simp only [reassemble,Delimited.run,List.foldl_cons,List.foldl_nil,Delimited.scan,collect]
      split_ifs <;> simp
    rcases hone with hnone | ⟨f,hf⟩
    · rw [hnone,List.map_nil,List.append_nil]
      exact ih
    · have hfk := hknown f (by rw [hf]; simp)
      rw [hf,List.foldl_cons,List.foldl_nil,handedOn_processFrame hbefore hfk,ih,List.append_assoc]
      rfl

theorem chunk_handed (qt : Qt) (hrunning : library.m_state = .StateRunning) (chunk : QByteArray)
    (hready : ∀ part, part <+: chunk →
      Ready s server (library.onConnectionDataAvailable qt part))
    (hknown : ∀ f ∈ (reassemble library.m_dataBuffer chunk).2, f.socketAddress = 0x0000 ∨
      ∃ client, Attached s server client ∧ f.socketAddress = address s client) :
    handedOn (library.onConnectionDataAvailable qt chunk) =
        handedOn library ++ (reassemble library.m_dataBuffer chunk).2.map handedFrame ∧
      (library.onConnectionDataAvailable qt chunk).m_dataBuffer =
        (reassemble library.m_dataBuffer chunk).1 := by
  have heq (part : QByteArray) : library.onConnectionDataAvailable qt part =
      slipData qt { library with
        m_keepAliveTimer := library.m_keepAliveTimer.start library.now } part :=
    if_neg (not_not.mpr hrunning)
  simp only [heq,slipData_eq] at hready ⊢
  refine ⟨?_,trivial⟩
  exact slipFrames_handed
    { library with m_keepAliveTimer := library.m_keepAliveTimer.start library.now } chunk
    (fun part hp => ⟨(hready part hp).running,(hready part hp).sockets⟩) hknown

theorem receive_handed (library : TunnelProxySocketServer) (chunks : List QByteArray)
    (hready : ∀ reached, Upto reached chunks → Ready s server (receive qt library reached))
    (hknown : ∀ f ∈ (reassemble library.m_dataBuffer chunks.flatten).2, f.socketAddress = 0x0000 ∨
      ∃ client, Attached s server client ∧ f.socketAddress = address s client) :
    handedOn (receive qt library chunks) =
      handedOn library ++ (reassemble library.m_dataBuffer chunks.flatten).2.map handedFrame := by
  induction chunks generalizing library with
  | nil => exact (List.append_nil _).symm
  | cons chunk chunks ih =>
    rw [List.flatten_cons,reassemble_append] at hknown ⊢
    have hrunning : library.m_state = .StateRunning := (hready [] (.inl List.nil_prefix)).running
    obtain ⟨h1,h2⟩ := chunk_handed qt hrunning chunk
      (fun part hp => hready [part] (.inr ⟨[],chunk,part,rfl,⟨chunks,rfl⟩,hp⟩))
      fun f hf => hknown f (List.mem_append_left _ hf)
    have ih := ih (library.onConnectionDataAvailable qt chunk) (by
      intro reached hr
      apply hready (chunk :: reached)
      rcases hr with hr | ⟨before,c,part,rfl,hb,hp⟩
      · exact .inl ((List.prefix_cons_inj chunk).mpr hr)
      · exact .inr ⟨chunk :: before,c,part,rfl,(List.prefix_cons_inj chunk).mpr hb,hp⟩) (by
      rw [h2]
      exact fun f hf => hknown f (List.mem_append_right _ hf))
    rw [h2,h1] at ih
    rw [List.map_append,← List.append_assoc]
    exact ih

end Library

def receivedOn (a : UInt16) (library : TunnelProxySocketServer) : List QByteArray :=
  library.output.filterMap fun
    | .dataReceived socket data => if socket.m_socketAddress = a then some data else none
    | _ => none

def jsonReceived (library : TunnelProxySocketServer) : List QByteArray :=
  library.output.filterMap fun
    | .jsonReceived payload => some payload
    | _ => none

def chunksOf (client : ObjectId) (items : List Item) : List QByteArray :=
  items.filterMap fun
    | .data c data => if c = client then some data else none
    | _ => none

def payloads (frames : List Frame) : List QByteArray :=
  frames.filterMap fun f => if f.socketAddress = 0x0000 then some f.data else none

section Main

def Handed.on (a : UInt16) : Handed → Option QByteArray
  | .data b bytes => if b = a then some bytes else none
  | .json _ => none

def Handed.payload : Handed → Option QByteArray
  | .json payload => some payload
  | .data .. => none

theorem receivedOn_eq (a : UInt16) (library : TunnelProxySocketServer) :
    receivedOn a library = (handedOn library).filterMap (Handed.on a) := by
  rw [receivedOn,handedOn,List.filterMap_filterMap]
  refine congrArg (fun f => library.output.filterMap f) (funext fun o => ?_)
  cases o <;> rfl

theorem jsonReceived_eq (library : TunnelProxySocketServer) :
    jsonReceived library = (handedOn library).filterMap Handed.payload := by
  rw [jsonReceived,handedOn,List.filterMap_filterMap]
  refine congrArg (fun f => library.output.filterMap f) (funext fun o => ?_)
  cases o <;> rfl

theorem payloads_eq (frames : List Frame) :
    (frames.map handedFrame).filterMap Handed.payload = payloads frames := by
  rw [List.filterMap_map,payloads]
  refine congrArg (fun f => frames.filterMap f) (funext fun f => ?_)
  simp only [Function.comp_apply,handedFrame]
  split <;> rfl

theorem on_handedFrame {a : UInt16} (ha : a ≠ 0x0000) (f : Frame) :
    (handedFrame f).on a = if f.socketAddress = a then some f.data else none := by
  rw [handedFrame]
  by_cases h : f.socketAddress = 0x0000
  · rw [if_pos h,if_neg fun e => ha (e.symm.trans h)]
    rfl
  · rw [if_neg h]
    rfl

theorem frames_on (hc : Consistent [] s) (h : Serving s server) {items : List Item}
    (hitems : ∀ client data, .data client data ∈ items → Attached s server client)
    {client : ObjectId} (haddress : address s client ≠ 0x0000)
    (hdistinct : ∀ other, Attached s server other → address s other = address s client →
      other = client) :
    ((frames env server s items).map handedFrame).filterMap (Handed.on (address s client)) =
      chunksOf client items := by
  induction items generalizing s with
  | nil => rfl
  | cons item items ih =>
    have hitem : ∀ client data, item = .data client data → Attached s server client :=
      fun client data he => hitems client data (he ▸ List.mem_cons_self ..)
    obtain ⟨h1,-⟩ := send_sent env hc h hitem
    have ih := ih (hc.congr h1.same) (h.congr h1)
      (fun client data hm => (hitems client data (List.mem_cons_of_mem item hm)).congr h1)
      (by rwa [address_congr h1]) fun other ha he => hdistinct other (ha.congr h1.symm)
        (by rwa [address_congr h1,address_congr h1] at he)
    rw [address_congr h1] at ih
    rw [frames,List.map_cons,List.filterMap_cons,ih,on_handedFrame haddress]
    cases item with
    | data c data =>
      by_cases he : c = client
      · simp [frame,chunksOf,he]
      · have hne : address s c ≠ address s client := fun ha => he (hdistinct c (hitem c data rfl) ha)
        simp [frame,chunksOf,he,hne]
    | response => simp [frame,messageFrame,chunksOf,haddress.symm]
    | errorResponse => simp [frame,messageFrame,chunksOf,haddress.symm]
    | notification => simp [frame,messageFrame,chunksOf,haddress.symm]

theorem frames_off (hc : Consistent [] s) (h : Serving s server) {items : List Item}
    (hitems : ∀ client data, .data client data ∈ items → Attached s server client) {a : UInt16}
    (ha : ∀ client, Attached s server client → address s client ≠ a) :
    ((frames env server s items).map handedFrame).filterMap (Handed.on a) = [] := by
  rw [List.filterMap_eq_nil_iff]
  rintro x hx
  obtain ⟨f,hf,rfl⟩ := List.mem_map.mp hx
  rw [handedFrame]
  rcases frames_known hc h hitems hf with h0 | ⟨client,hattached,he⟩
  · rw [if_pos h0]
    rfl
  · split
    · rfl
    · exact if_neg (he ▸ ha client hattached)

/-- The tunnel from the clients to their server is faithful. -/
theorem uplink_faithful
    (h : Reachable env s) {u : QUuid}
    (hserver : s.m_tunnelProxyServerConnections.value u = some server)
    (hslip : (s.client server).m_slipEnabled = true)
    (haddress : ∀ client, Attached s server client → address s client ≠ 0x0000)
    (hdistinct : ∀ client other, Attached s server client → Attached s server other →
      address s other = address s client → other = client)
    {items : List Item}
    (hitems : ∀ client data, .data client data ∈ items → Attached s server client)
    (hbuf : library.m_dataBuffer = []) {chunks : List QByteArray}
    (hchunks : bytesTo server (items.foldl (send env server) s).output =
      bytesTo server s.output ++ chunks.flatten)
    (hready : ∀ reached, Upto reached chunks → Ready s server (library.receive qt reached)) :
    (∀ client, Attached s server client →
      receivedOn (address s client) (library.receive qt chunks) =
        receivedOn (address s client) library ++ chunksOf client items) ∧
    (∀ a, (∀ client, Attached s server client → address s client ≠ a) →
      receivedOn a (library.receive qt chunks) = receivedOn a library) ∧
    jsonReceived (library.receive qt chunks) =
      jsonReceived library ++ payloads (frames env server s items) := by
  have hc := reachable_consistent h
  obtain ⟨hl,hs,rfl⟩ := (hc.server_iff u server).mp hserver
  have hserving : Serving s server := ⟨hl,hs,hserver,hslip⟩
  have hbytes : chunks.flatten = TunnelProxySocketServer.encoded (frames env server s items) := by
    rw [sends_sent hc hserving hitems] at hchunks
    exact (List.append_cancel_left hchunks).symm
  have hframes : (TunnelProxySocketServer.reassemble library.m_dataBuffer chunks.flatten).2 =
      frames env server s items := by
    rw [hbuf,hbytes,TunnelProxySocketServer.reassemble_encoded]
  have hhanded := receive_handed library chunks hready (by
    rw [hframes]
    exact fun f hf => frames_known hc hserving hitems hf)
  rw [hframes] at hhanded
  refine ⟨?_,?_,?_⟩
  · intro client ha
    rw [receivedOn_eq,receivedOn_eq,hhanded,List.filterMap_append,
      frames_on hc hserving hitems (haddress client ha) fun other => hdistinct client other ha]
  · intro a ha
    rw [receivedOn_eq,receivedOn_eq,hhanded,List.filterMap_append,
      frames_off hc hserving hitems ha,List.append_nil]
  · rw [jsonReceived_eq,jsonReceived_eq,hhanded,List.filterMap_append,payloads_eq]

end Main

section Run

def sampleItems : List Item :=
  [.data ⟨2⟩ [0xC0,0xDB],.response 1 [("timestamp",.number 9 0)],.data ⟨2⟩ (ascii "hello")]

def sampleBytes : QByteArray :=
  TunnelProxySocketServer.encoded (frames (sampleEnvironment true) ⟨1⟩ tunnel sampleItems)

def sampleChunks : List QByteArray := [sampleBytes.take 4,sampleBytes.drop 4]

def sampleLibrary : TunnelProxySocketServer :=
  { TunnelProxySocketServer.new ⟨5⟩ "server" with
    m_state := .StateRunning
    m_tunnelProxySockets := (∅ : QHash UInt16 TunnelProxySocket).insert 1
      (.new "client" ⟨7⟩ "10.0.0.2" 1) }

theorem tunnel_reachable : Reachable (sampleEnvironment true) tunnel :=
  Reachable.new.run (by decide +kernel)

theorem tunnel_attached {client : ObjectId} (h : Attached tunnel ⟨1⟩ client) : client = ⟨2⟩ := by
  obtain ⟨-,-,-,hlisted⟩ := (reachable_consistent tunnel_reachable).attached client ⟨1⟩ h.attached
  have hm := (QHash.mem_values _ client).mpr ⟨_,hlisted⟩
  have hvalues : (tunnel.serverConnection ⟨1⟩).m_clientConnections.values = [⟨2⟩] := by
    decide +kernel
  rw [hvalues] at hm
  simpa using hm

theorem attached_tunnel : Attached tunnel ⟨1⟩ ⟨2⟩ := by decide +kernel

def sampleReady (library : TunnelProxySocketServer) : Bool :=
  decide (library.m_state = .StateRunning) &&
    (library.m_tunnelProxySockets.value 1).any fun socket => socket.m_socketAddress = 1

theorem upto_pair {P : List QByteArray → Prop} {a b : QByteArray} (hnil : P [])
    (ha : ∀ part, part <+: a → P [part]) (hb : ∀ part, part <+: b → P [a,part])
    {reached : List QByteArray} (h : Upto reached [a,b]) : P reached := by
  rcases h with h | ⟨before,chunk,part,rfl,h,hp⟩
  · match reached,h with
    | [],_ => exact hnil
    | [x],h =>
      rw [(List.cons_prefix_cons.mp h).1]
      exact ha a (List.prefix_refl a)
    | [x,y],h =>
      obtain ⟨hx,htail⟩ := List.cons_prefix_cons.mp h
      rw [hx,(List.cons_prefix_cons.mp htail).1]
      exact hb b (List.prefix_refl b)
    | x :: y :: z :: rest,h => simp at h
  · match before,h with
    | [],h =>
      rw [(List.cons_prefix_cons.mp h).1] at hp
      exact ha part hp
    | [x],h =>
      obtain ⟨hx,htail⟩ := List.cons_prefix_cons.mp h
      rw [(List.cons_prefix_cons.mp htail).1] at hp
      rw [hx]
      exact hb part hp
    | x :: y :: rest,h => simp at h

theorem sample_ready (reached : List QByteArray) (h : Upto reached sampleChunks) :
    Ready tunnel ⟨1⟩ (sampleLibrary.receive (sampleEnvironment true).toQt reached) := by
  have haddress : address tunnel ⟨2⟩ = 1 := by decide +kernel
  have hall : sampleReady (sampleLibrary.receive (sampleEnvironment true).toQt reached) = true := by
    have hparts : (∀ part ∈ (sampleBytes.take 4).inits, sampleReady
          (sampleLibrary.receive (sampleEnvironment true).toQt [part]) = true) ∧
        ∀ part ∈ (sampleBytes.drop 4).inits, sampleReady (sampleLibrary.receive
          (sampleEnvironment true).toQt [sampleBytes.take 4,part]) = true := by
      decide +kernel
    exact upto_pair (P := fun reached => sampleReady
      (sampleLibrary.receive (sampleEnvironment true).toQt reached) = true) (by decide +kernel)
      (fun part hp => hparts.1 part ((List.mem_inits _ _).mpr hp))
      (fun part hp => hparts.2 part ((List.mem_inits _ _).mpr hp)) h
  simp only [sampleReady,Bool.and_eq_true,decide_eq_true_eq,Option.any_eq_true] at hall
  refine ⟨hall.1,fun client ha => ?_⟩
  rw [tunnel_attached ha,haddress]
  obtain ⟨socket,hv,hs⟩ := hall.2
  exact ⟨socket,hv,hs⟩

theorem uplink_faithful_sample :
    (∀ client, Attached tunnel ⟨1⟩ client →
      receivedOn (address tunnel client)
          (sampleLibrary.receive (sampleEnvironment true).toQt sampleChunks) =
        receivedOn (address tunnel client) sampleLibrary ++ chunksOf client sampleItems) ∧
    (∀ a, (∀ client, Attached tunnel ⟨1⟩ client → address tunnel client ≠ a) →
      receivedOn a (sampleLibrary.receive (sampleEnvironment true).toQt sampleChunks) =
        receivedOn a sampleLibrary) ∧
    jsonReceived (sampleLibrary.receive (sampleEnvironment true).toQt sampleChunks) =
      jsonReceived sampleLibrary ++
        payloads (frames (sampleEnvironment true) ⟨1⟩ tunnel sampleItems) :=
  uplink_faithful (u := ⟨5⟩) tunnel_reachable (by decide +kernel) (by decide +kernel)
    (fun client ha => by rw [tunnel_attached ha]; decide +kernel)
    (fun client other ha hb _ => (tunnel_attached hb).trans (tunnel_attached ha).symm)
    (fun client data hm => by
      simp only [sampleItems,List.mem_cons,Item.data.injEq,reduceCtorEq,List.not_mem_nil,or_false,
        false_or] at hm
      rcases hm with ⟨rfl,rfl⟩ | ⟨rfl,rfl⟩
      · exact attached_tunnel
      · exact attached_tunnel)
    rfl (by decide +kernel) sample_ready

end Run

end RemoteProxy.Uplink
