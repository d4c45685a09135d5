import RemoteProxy.Library.TunnelProxySocket
import RemoteProxy.Proxy.Registry

namespace RemoteProxy.TunnelProxyServer

open SlipDataProcessor

variable {env : Environment} {s s' t : TunnelProxyServer}

structure Serving (s : TunnelProxyServer) (server : ObjectId) : Prop where
  live : s.live server
  isServer : s.isServer server
  registered : s.m_tunnelProxyServerConnections.value (s.client server).m_uuid = some server
  slipEnabled : (s.client server).m_slipEnabled = true

/-- Nothing that routing looks at has changed, nor any client's framing. -/
structure SameRoutes (s s' : TunnelProxyServer) : Prop where
  same : SameRegistry s s'
  slipEnabled : ∀ o, (s'.client o).m_slipEnabled = (s.client o).m_slipEnabled

def delivery (s : TunnelProxyServer) (server : ObjectId) (frame : Frame) : List Output :=
  match (s.serverConnection server).getClientConnection frame.socketAddress with
  | none => []
  | some client =>
    [.sent (s.clientConnection client).m_transportClient (.payload frame.data) frame.data]

theorem SameRoutes.refl (s : TunnelProxyServer) : SameRoutes s s :=
  ⟨SameRegistry.refl s,fun _ => rfl⟩

theorem SameRoutes.trans (h : SameRoutes s s') (h' : SameRoutes s' t) : SameRoutes s t :=
  ⟨h.same.trans h'.same,fun o => (h'.slipEnabled o).trans (h.slipEnabled o)⟩

theorem SameRoutes.symm (h : SameRoutes s s') : SameRoutes s' s :=
  ⟨h.same.symm,fun o => (h.slipEnabled o).symm⟩

theorem SameRoutes.setClient (s : TunnelProxyServer) {o : ObjectId} {c : TunnelProxyClient}
    (htype : c.m_type = (s.client o).m_type) (huuid : c.m_uuid = (s.client o).m_uuid)
    (hslip : c.m_slipEnabled = (s.client o).m_slipEnabled) : SameRoutes s (s.setClient o c) := by
  refine ⟨SameRegistry.setClient s htype huuid,?_⟩
  intro x
  rcases eq_or_ne x o with rfl | hx
  · simp [hslip]
  · simp [hx]

theorem SameRoutes.delivery (h : SameRoutes s s') (server : ObjectId) (frame : Frame) :
    s'.delivery server frame = s.delivery server frame := by
  rw [TunnelProxyServer.delivery,TunnelProxyServer.delivery,h.same.serverConnection,
    h.same.clientConnection]

theorem Serving.congr {server : ObjectId} (hs : SameRoutes s s') (h : Serving s server) :
    Serving s' server := by
  refine ⟨(hs.same.live_iff server).mpr h.live,(hs.same.isServer_iff server).mpr h.isServer,?_,?_⟩
  · rw [hs.same.serverConnections,hs.same.uuid]
    exact h.registered
  · rw [hs.slipEnabled]
    exact h.slipEnabled

theorem sendData_client (s : TunnelProxyServer) (o : ObjectId) (m : Message) (data : QByteArray)
    (x : ObjectId) :
    ((s.sendData o m data).client x).m_slipEnabled = (s.client x).m_slipEnabled ∧
      ((s.sendData o m data).client x).m_dataBuffer = (s.client x).m_dataBuffer := by
  rcases eq_or_ne x o with rfl | hx
  · simp [sendData,TunnelProxyClient.addTxDataCount]
  · simp [sendData,hx]

theorem processFrame_delivery (env : Environment) {server : ObjectId} (h : Serving s server)
    {frame : Frame}
    (hframe : frame.socketAddress ≠ 0x0000) :
    SameRoutes s (processFrame env s server frame) ∧
      ((processFrame env s server frame).client server).m_dataBuffer =
        (s.client server).m_dataBuffer ∧
      (processFrame env s server frame).output = s.output ++ s.delivery server frame := by
  simp only [processFrame,if_neg hframe,h.registered,delivery]
  cases (s.serverConnection server).getClientConnection frame.socketAddress with
  | none => exact ⟨SameRoutes.refl s,rfl,(List.append_nil _).symm⟩
  | some client =>
    have hsame : SameRegistry s (s.sendData (s.clientConnection client).m_transportClient
        (.payload frame.data) frame.data) := SameRegistry.sendData s _ _ _
    have hclient := sendData_client s (s.clientConnection client).m_transportClient
      (.payload frame.data) frame.data
    exact ⟨⟨hsame.trans (SameRegistry.counted _ _),fun o => (hclient o).1⟩,(hclient server).2,rfl⟩

theorem processFrames_delivery (env : Environment) {server : ObjectId} (h : Serving s server)
    (packets : List QByteArray)
    (hp : ∀ p ∈ packets, (parseFrame p).socketAddress ≠ 0x0000) :
    SameRoutes s (packets.foldl (fun s p => processFrame env s server (parseFrame p)) s) ∧
      ((packets.foldl (fun s p => processFrame env s server (parseFrame p)) s).client
        server).m_dataBuffer = (s.client server).m_dataBuffer ∧
      (packets.foldl (fun s p => processFrame env s server (parseFrame p)) s).output =
        s.output ++ packets.flatMap fun p => s.delivery server (parseFrame p) := by
  induction packets generalizing s with
  | nil => exact ⟨SameRoutes.refl s,rfl,(List.append_nil _).symm⟩
  | cons p packets ih =>
    obtain ⟨h1,h2,h3⟩ := processFrame_delivery env h (hp p (List.mem_cons_self ..))
    obtain ⟨ih1,ih2,ih3⟩ := ih (h.congr h1) fun x hx => hp x (List.mem_cons_of_mem p hx)
    rw [List.foldl_cons]
    refine ⟨h1.trans ih1,ih2.trans h2,?_⟩
    rw [ih3,h3,List.flatMap_cons,List.append_assoc]
    simp only [h1.delivery]

theorem serverDataAvailable_delivery (env : Environment) {server : ObjectId}
    (h : Serving s server) (data : QByteArray)
    (hp : ∀ p ∈ (TunnelProxyClient.processSlip (s.client server).m_dataBuffer data).2,
      (parseFrame p).socketAddress ≠ 0x0000) :
    SameRoutes s (serverDataAvailable env s server data) ∧
      ((serverDataAvailable env s server data).client server).m_dataBuffer =
        (TunnelProxyClient.processSlip (s.client server).m_dataBuffer data).1 ∧
      (serverDataAvailable env s server data).output = s.output ++
        (TunnelProxyClient.processSlip (s.client server).m_dataBuffer data).2.flatMap fun p =>
          s.delivery server (parseFrame p) := by
  have hpackets : ((s.client server).processData data).2 =
      (TunnelProxyClient.processSlip (s.client server).m_dataBuffer data).2 := by
    simp [TunnelProxyClient.processData,h.slipEnabled]
  have hbuf : ((s.client server).processData data).1.m_dataBuffer =
      (TunnelProxyClient.processSlip (s.client server).m_dataBuffer data).1 := by
    simp [TunnelProxyClient.processData,h.slipEnabled]
  have h1 : SameRoutes s (s.setClient server ((s.client server).processData data).1) :=
    SameRoutes.setClient s rfl rfl rfl
  obtain ⟨h2,h3,h4⟩ := processFrames_delivery env (h.congr h1) _ hp
  simp only [serverDataAvailable,h.slipEnabled,if_true,hpackets]
  refine ⟨h1.trans h2,h3.trans ?_,h4.trans ?_⟩
  · rw [setClient_client,Function.update_self]
    exact hbuf
  · simp only [h1.delivery]
    rfl

theorem addRxDataCount_slip (c : TunnelProxyClient) (now dataCount : Nat) :
    (c.addRxDataCount now dataCount).m_slipEnabled = c.m_slipEnabled ∧
      (c.addRxDataCount now dataCount).m_dataBuffer = c.m_dataBuffer := by
  rw [addRxDataCount_eq]
  exact ⟨rfl,rfl⟩

theorem onClientDataAvailable_delivery (env : Environment) {server : ObjectId} (h : Serving s server)
    (data : QByteArray)
    (hp : ∀ p ∈ (TunnelProxyClient.processSlip (s.client server).m_dataBuffer data).2,
      (parseFrame p).socketAddress ≠ 0x0000) :
    SameRoutes s (onClientDataAvailable env s server data) ∧
      ((onClientDataAvailable env s server data).client server).m_dataBuffer =
        (TunnelProxyClient.processSlip (s.client server).m_dataBuffer data).1 ∧
      (onClientDataAvailable env s server data).output = s.output ++
        (TunnelProxyClient.processSlip (s.client server).m_dataBuffer data).2.flatMap fun p =>
          s.delivery server (parseFrame p) := by
  obtain ⟨htype,huuid⟩ := addRxDataCount_same (s.client server) s.now data.length
  obtain ⟨hslip,hbuffer⟩ := addRxDataCount_slip (s.client server) s.now data.length
  have h1 : SameRoutes s (s.setClient server ((s.client server).addRxDataCount s.now data.length)) :=
    SameRoutes.setClient s htype huuid hslip
  have hrx : onClientDataAvailable env s server data = serverDataAvailable env
      (s.setClient server ((s.client server).addRxDataCount s.now data.length)) server data := by
    have hlive : s.m_proxyClients.value server = some server := h.live
    have hserver := (h.congr h1).isServer
    simp only [isServer] at hserver
    simp only [onClientDataAvailable,hlive,hserver]
  have hbuf : ((s.setClient server ((s.client server).addRxDataCount s.now data.length)).client
      server).m_dataBuffer = (s.client server).m_dataBuffer := by
    simp [hbuffer]
  obtain ⟨h2,h3,h4⟩ := serverDataAvailable_delivery env (h.congr h1) data
    (by rw [hbuf]; exact hp)
  rw [hbuf] at h3 h4
  rw [hrx]
  refine ⟨h1.trans h2,h3,h4.trans ?_⟩
  simp only [h1.delivery]
  rfl

def receive (env : Environment) (s : TunnelProxyServer) (server : ObjectId)
    (chunks : List QByteArray) : TunnelProxyServer :=
  chunks.foldl (fun s data => onClientDataAvailable env s server data) s

theorem receive_delivery {server : ObjectId} (h : Serving s server) (chunks : List QByteArray)
    (hp : ∀ p ∈ (TunnelProxyClient.processSlip (s.client server).m_dataBuffer chunks.flatten).2,
      (parseFrame p).socketAddress ≠ 0x0000) :
    (receive env s server chunks).output = s.output ++
      (TunnelProxyClient.processSlip (s.client server).m_dataBuffer chunks.flatten).2.flatMap
        fun p => s.delivery server (parseFrame p) := by
  induction chunks generalizing s with
  | nil => exact (List.append_nil _).symm
  | cons data chunks ih =>
    rw [List.flatten_cons,TunnelProxyClient.processSlip_append] at hp ⊢
    obtain ⟨h1,h2,h3⟩ := onClientDataAvailable_delivery env h data
      fun p hm => hp p (List.mem_append_left _ hm)
    have ih := ih (h.congr h1) (by
      rw [h2]
      exact fun p hm => hp p (List.mem_append_right _ hm))
    change (receive env (onClientDataAvailable env s server data) server chunks).output = _
    rw [ih,h2,h3,List.flatMap_append,List.append_assoc]
    simp only [h1.delivery]

structure Write where
  socket : TunnelProxySocket
  payload : QByteArray

def Write.frame (w : Write) : Frame := ⟨w.socket.m_socketAddress,w.payload⟩

def written (writes : List Write) : QByteArray :=
  writes.flatMap fun w => w.socket.writeData w.payload

theorem processSlip_written (writes : List Write) :
    TunnelProxyClient.processSlip [] (written writes) =
      ([],writes.map fun w => escape (buildFrame w.frame)) := by
  have hencode : written writes = encode (writes.map Write.frame) := by
    simp only [written,encode,List.flatMap_map]
    rfl
  rw [hencode,TunnelProxyClient.processSlip_encode,List.map_map]
  rfl

/-- The frame the proxy reads, which it takes from the bytes as they were escaped. -/
def Write.misread (w : Write) : Frame := parseFrame (escape (buildFrame w.frame))

theorem receive_written {server : ObjectId} (h : Serving s server)
    (hbuf : (s.client server).m_dataBuffer = []) {writes : List Write}
    (hw : ∀ w ∈ writes, w.socket.m_socketAddress ≠ 0x0000) {chunks : List QByteArray}
    (hchunks : chunks.flatten = written writes) :
    (receive env s server chunks).output =
      s.output ++ writes.flatMap fun w => s.delivery server w.misread := by
  rw [receive_delivery h chunks,hchunks,hbuf,processSlip_written,List.flatMap_map]
  · rfl
  · rw [hchunks,hbuf,processSlip_written]
    intro p hp
    obtain ⟨w,hm,rfl⟩ := List.mem_map.mp hp
    exact parseFrame_escape_ne_zero w.frame (hw w hm)

def Holds (s : TunnelProxyServer) (server : ObjectId) (a : UInt16) (c : ObjectId) : Prop :=
  (s.clientConnection c).m_serverConnection = some server ∧
    (s.clientConnection c).m_socketAddress = a

/-- What is to be sent of a frame: its payload to the one client attached under its address, and
nothing if there is none. -/
inductive Delivers (s : TunnelProxyServer) (server : ObjectId) (frame : Frame) :
    List Output → Prop where
  | client {c : ObjectId} : (∀ x, Holds s server frame.socketAddress x ↔ x = c) →
      Delivers s server frame [.sent c (.payload frame.data) frame.data]
  | nobody : (∀ x, ¬Holds s server frame.socketAddress x) → Delivers s server frame []

/-- Each write that has arrived in full has been handed on as it was made, and nothing else has. -/
def Faithful (env : Environment) (s : TunnelProxyServer) (server : ObjectId)
    (writes : List Write) : Prop :=
  ∀ n chunks, chunks.flatten = written (writes.take n) →
    ∃ sent, (receive env s server chunks).output = s.output ++ sent.flatten ∧
      List.Forall₂ (fun w => Delivers s server w.frame) (writes.take n) sent

/-- The server's table has the client attached under the address of the write, and nothing of the
frame is escaped or neither its address nor the one read instead is in the table. -/
structure Undisturbed (s : TunnelProxyServer) (server : ObjectId) (w : Write) : Prop where
  entered : ∀ c, Holds s server w.frame.socketAddress c →
    (s.serverConnection server).getClientConnection w.frame.socketAddress = some c
  unescaped : Stuffing.Clean alphabet (buildFrame w.frame) ∨
    (s.serverConnection server).getClientConnection w.frame.socketAddress = none ∧
      (s.serverConnection server).getClientConnection w.misread.socketAddress = none

theorem misread_eq_iff (w : Write) :
    w.misread = w.frame ↔ Stuffing.Clean alphabet (buildFrame w.frame) :=
  parseFrame_escape_iff w.frame

theorem Delivers.unique {server : ObjectId} {frame : Frame} {sent sent' : List Output}
    (h : Delivers s server frame sent) (h' : Delivers s server frame sent') : sent = sent' := by
  cases h with
  | client hc =>
    cases h' with
    | client hd => rw [(hd _).mp ((hc _).mpr rfl)]
    | nobody hn => exact absurd ((hc _).mpr rfl) (hn _)
  | nobody hn =>
    cases h' with
    | client hd => exact absurd ((hd _).mpr rfl) (hn _)
    | nobody => rfl

theorem write_delivers_iff (hc : Consistent [] s) {server : ObjectId} (h : Serving s server)
    (w : Write) :
    Delivers s server w.frame (s.delivery server w.misread) ↔ Undisturbed s server w := by
  have hheld : ∀ {a c}, (s.serverConnection server).getClientConnection a = some c →
      Holds s server a c ∧ (s.clientConnection c).m_transportClient = c := by
    intro a c hv
    obtain ⟨hl,hcl,hto,ha⟩ := hc.addressed server a c ⟨h.isServer,.inl h.live⟩ hv
    exact ⟨⟨hto,ha⟩,(hc.clientTransport c hl hcl).1⟩
  rw [delivery]
  cases hread : (s.serverConnection server).getClientConnection w.misread.socketAddress with
  | none =>
    constructor
    · intro hd
      cases hd with
      | nobody hn =>
        refine ⟨fun c hh => absurd hh (hn c),.inr ⟨?_,hread⟩⟩
        exact Option.eq_none_iff_forall_ne_some.mpr fun c hv => hn c (hheld hv).1
    · intro hu
      refine .nobody fun c hh => ?_
      have hfound := hu.entered c hh
      rcases hu.unescaped with hclean | ⟨hnone,-⟩
      · rw [(misread_eq_iff w).mpr hclean,hfound] at hread
        cases hread
      · cases hfound.symm.trans hnone
  | some c =>
    obtain ⟨hholds,htransport⟩ := hheld hread
    simp only [htransport]
    constructor
    · intro hd
      generalize hsent : [Output.sent c (.payload w.misread.data) w.misread.data] = sent at hd
      cases hd with
      | nobody => cases hsent
      | @client d hd =>
        simp only [List.cons.injEq,Output.sent.injEq,Message.payload.injEq,and_true] at hsent
        obtain ⟨rfl,hdata,-⟩ := hsent
        have haddress := hholds.2.symm.trans ((hd c).mpr rfl).2
        have heq : w.misread = w.frame := Frame.ext_iff.mpr ⟨haddress,hdata⟩
        refine ⟨fun x hx => ?_,.inl ((misread_eq_iff w).mp heq)⟩
        rw [(hd x).mp hx,← heq]
        exact hread
    · intro hu
      rcases hu.unescaped with hclean | ⟨-,hnone⟩
      · rw [(misread_eq_iff w).mpr hclean] at hread hholds ⊢
        refine .client fun x => ⟨fun hx => ?_,fun hx => hx ▸ hholds⟩
        exact Option.some.inj ((hu.entered x hx).symm.trans hread)
      · cases hread.symm.trans hnone

theorem flatMap_take_iff {α β : Type} {f : α → List β} {P : α → List β → Prop}
    (hunique : ∀ {x l l'}, P x l → P x l' → l = l') (xs : List α) :
    (∀ n, ∃ ls : List (List β), (xs.take n).flatMap f = ls.flatten ∧
      List.Forall₂ P (xs.take n) ls) ↔ ∀ x ∈ xs, P x (f x) := by
  induction xs with
  | nil => simp
  | cons x xs ih =>
    rw [List.forall_mem_cons,← ih]
    constructor
    · intro h
      have hx : P x (f x) := by
        obtain ⟨ls,hflat,hall⟩ := h 1
        cases hall with
        | cons hp hnil =>
          cases hnil
          simp only [List.take_succ_cons,List.take_zero,List.flatMap_cons,List.flatMap_nil,
            List.append_nil,List.flatten_cons,List.flatten_nil] at hflat
          rw [hflat]
          exact hp
      refine ⟨hx,fun n => ?_⟩
      obtain ⟨ls,hflat,hall⟩ := h (n + 1)
      rw [List.take_succ_cons] at hflat hall
      cases hall with
      | cons hp hrest =>
        rw [List.flatMap_cons,List.flatten_cons,hunique hp hx,List.append_cancel_left_eq] at hflat
        exact ⟨_,hflat,hrest⟩
    · rintro ⟨hx,h⟩ n
      cases n with
      | zero => exact ⟨[],rfl,.nil⟩
      | succ n =>
        obtain ⟨ls,hflat,hall⟩ := h n
        refine ⟨f x :: ls,?_,.cons hx hall⟩
        rw [List.take_succ_cons,List.flatMap_cons,hflat,List.flatten_cons]

/-- The tunnel from a server to its clients is faithful exactly to the writes that escaping leaves
alone. -/
theorem downlink_faithful_iff
    (h : Reachable env s) {u : QUuid} {server : ObjectId}
    (hserver : s.m_tunnelProxyServerConnections.value u = some server)
    (hslip : (s.client server).m_slipEnabled = true)
    (hbuf : (s.client server).m_dataBuffer = []) {writes : List Write}
    (hw : ∀ w ∈ writes, w.socket.m_socketAddress ≠ 0x0000) :
    Faithful env s server writes ↔ ∀ w ∈ writes, Undisturbed s server w := by
  have hc := reachable_consistent h
  obtain ⟨hl,hs,rfl⟩ := (hc.server_iff u server).mp hserver
  have hserving : Serving s server := ⟨hl,hs,hserver,hslip⟩
  have hreceived : ∀ n chunks, chunks.flatten = written (writes.take n) →
      (receive env s server chunks).output =
        s.output ++ (writes.take n).flatMap fun w => s.delivery server w.misread :=
    fun n chunks hchunks =>
      receive_written hserving hbuf (fun w hm => hw w (List.mem_of_mem_take hm)) hchunks
  have hiff : Faithful env s server writes ↔
      ∀ n, ∃ sent : List (List Output),
        ((writes.take n).flatMap fun w => s.delivery server w.misread) = sent.flatten ∧
          List.Forall₂ (fun w => Delivers s server w.frame) (writes.take n) sent := by
    constructor
    · intro hf n
      obtain ⟨sent,hsent,hall⟩ := hf n [written (writes.take n)] (by simp)
      rw [hreceived n _ (by simp),List.append_cancel_left_eq] at hsent
      exact ⟨sent,hsent,hall⟩
    · intro hf n chunks hchunks
      obtain ⟨sent,hsent,hall⟩ := hf n
      exact ⟨sent,by rw [hreceived n chunks hchunks,hsent],hall⟩
  rw [hiff,flatMap_take_iff (P := fun w : Write => Delivers s server w.frame)
    fun h h' => h.unique h']
  exact forall₂_congr fun w _ => write_delivers_iff hc hserving w

section Run

def tunnelEvents : List Event :=
  [.clientConnected ⟨1⟩ "10.0.0.1",.clientConnected ⟨2⟩ "10.0.0.2",
    .dataAvailable ⟨1⟩ (request true registerServerRequest),
    .dataAvailable ⟨2⟩ (request true registerClientRequest)]

def tunnel : TunnelProxyServer := new.run (sampleEnvironment true) tunnelEvents

def textWrite : Write := ⟨.new "client" ⟨7⟩ "10.0.0.2" 1,ascii "hello"⟩

def escapedWrite : Write := ⟨.new "client" ⟨7⟩ "10.0.0.2" 1,[0xC0]⟩

theorem downlink_faithful_iff_text :
    Faithful (sampleEnvironment true) tunnel ⟨1⟩ [textWrite] ↔
      ∀ w ∈ [textWrite], Undisturbed tunnel ⟨1⟩ w :=
  downlink_faithful_iff (u := ⟨5⟩) (Reachable.new.run (by decide +kernel)) (by decide +kernel)
    (by decide +kernel) (by decide +kernel) (by decide)

def sentData (output : List Output) : List (QUuid × QByteArray) :=
  output.filterMap fun
    | .sent clientId _ data => some (clientId,data)
    | _ => none

theorem escaped_payload_corrupted :
    ¬Faithful (sampleEnvironment true) tunnel ⟨1⟩ [escapedWrite] := by
  intro h
  obtain ⟨sent,hsent,hall⟩ := h 1 [written [escapedWrite]] (by simp)
  have hnow : (sentData (receive (sampleEnvironment true) tunnel ⟨1⟩
      [written [escapedWrite]]).output).map Prod.snd =
        (sentData tunnel.output).map Prod.snd ++ [[0xDB,0xDC]] := by decide +kernel
  rw [hsent,sentData,List.filterMap_append,List.map_append,← sentData,← sentData,
    List.append_cancel_left_eq] at hnow
  cases hall with
  | cons hone hnil =>
    cases hnil
    cases hone with
    | client =>
      change [[(0xC0 : UInt8)]] = [[0xDB,0xDC]] at hnow
      exact absurd hnow (by decide)
    | nobody => exact absurd hnow (by decide)

end Run

end RemoteProxy.TunnelProxyServer
