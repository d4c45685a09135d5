import RemoteProxy.Foundation.Conduits
import RemoteProxy.Library.TunnelProxyRemoteConnection
import RemoteProxy.Library.Uplink

namespace RemoteProxy

open SlipDataProcessor TunnelProxyServer Uplink

/-- The proxy, a server that is registered there, the clients, and what is on its way from them to
the proxy and back; each connection has the id that the proxy knows it under. -/
structure Network where
  m_tunnelProxyServer : TunnelProxyServer
  server : TunnelProxySocketServer
  client : ObjectId → TunnelProxyRemoteConnection
  toProxy : ObjectId → QByteArray
  fromProxy : ObjectId → QByteArray

namespace Network

variable (env : Environment) (host : ObjectId)

/-- A side that reads is handed the first `count` bytes of what has been sent to it. -/
inductive Event where
  | sendData (client : ObjectId) (data : QByteArray)
  | writeData (socketAddress : UInt16) (data : QByteArray)
  | proxyReads (o : ObjectId) (count : Nat)
  | serverReads (count : Nat)
  | clientReads (client : ObjectId) (count : Nat)

def send (n : Network) (o : ObjectId) (data : QByteArray) : Network :=
  { n with toProxy := Function.update n.toProxy o (n.toProxy o ++ data) }

def proxyReads (n : Network) (o : ObjectId) (count : Nat) : Network :=
  let s := n.m_tunnelProxyServer.step env (.dataAvailable o ((n.toProxy o).take count))
  { n with
    m_tunnelProxyServer := s
    toProxy := Function.update n.toProxy o ((n.toProxy o).drop count)
    fromProxy := fun x =>
      n.fromProxy x ++ bytesTo x (s.output.drop n.m_tunnelProxyServer.output.length) }

def step (n : Network) : Event → Network
  | .sendData client data =>
    let r := (n.client client).sendData data
    { n with client := Function.update n.client client r.1 }.send client (if r.2 then data else [])
  | .writeData socketAddress data =>
    match n.server.m_tunnelProxySockets.value socketAddress with
    | none => n
    | some socket =>
      { n with server := n.server.writeData socket data }.send host (socket.writeData data)
  | .proxyReads o count => n.proxyReads env o count
  | .serverReads count =>
    { n with
      server := n.server.onConnectionDataAvailable env.toQt ((n.fromProxy host).take count)
      fromProxy := Function.update n.fromProxy host ((n.fromProxy host).drop count) }
  | .clientReads client count =>
    { n with
      client := Function.update n.client client
        ((n.client client).onConnectionDataAvailable env.toQt ((n.fromProxy client).take count))
      fromProxy := Function.update n.fromProxy client ((n.fromProxy client).drop count) }

/-- The frames that the proxy has sent and the server has not read to their end, and back. -/
def pendingUp (n : Network) : List Frame :=
  (TunnelProxySocketServer.reassemble n.server.m_dataBuffer (n.fromProxy host)).2

def pendingDown (n : Network) : List Frame :=
  (TunnelProxyClient.processSlip (n.m_tunnelProxyServer.client host).m_dataBuffer
    (n.toProxy host)).2.map parseFrame

/-- Tunnel data only: clients that are attached, and writes to their sockets that escaping leaves
alone. -/
def Possible (n : Network) : Event → Prop
  | .sendData client _ => Attached n.m_tunnelProxyServer host client
  | .writeData socketAddress data =>
    ((n.m_tunnelProxyServer.serverConnection host).getClientConnection socketAddress).isSome ∧
      Stuffing.Clean alphabet (buildFrame ⟨socketAddress,data⟩)
  | .proxyReads o _ => o = host ∨ Attached n.m_tunnelProxyServer host o
  | .serverReads _ => True
  | .clientReads client _ => Attached n.m_tunnelProxyServer host client

instance decidablePossible (n : Network) : (event : Event) → Decidable (n.Possible host event)
  | .sendData client _ => inferInstanceAs (Decidable (Attached n.m_tunnelProxyServer host client))
  | .writeData _ _ => inferInstanceAs (Decidable (_ ∧ _))
  | .proxyReads o _ =>
    inferInstanceAs (Decidable (o = host ∨ Attached n.m_tunnelProxyServer host o))
  | .serverReads _ => inferInstanceAs (Decidable True)
  | .clientReads client _ =>
    inferInstanceAs (Decidable (Attached n.m_tunnelProxyServer host client))

def carried (a : UInt16) (frames : List Frame) : QByteArray :=
  frames.flatMap fun f => if f.socketAddress = a then f.data else []

def heard (a : UInt16) (library : TunnelProxySocketServer) : QByteArray :=
  (receivedOn a library).flatten

def ready (library : TunnelProxyRemoteConnection) : QByteArray :=
  library.output.flatMap fun
    | .dataReady data => data
    | _ => []

variable {env host} {s : TunnelProxyServer} {library : TunnelProxySocketServer} {client : ObjectId}

section Bytes

theorem carried_append (a : UInt16) (frames frames' : List Frame) :
    carried a (frames ++ frames') = carried a frames ++ carried a frames' :=
  List.flatMap_append

theorem bytesTo_append (o : ObjectId) (out out' : List Output) :
    bytesTo o (out ++ out') = bytesTo o out ++ bytesTo o out' :=
  List.flatMap_append

theorem bytesTo_sent (o x : ObjectId) (message : Message) (data : QByteArray) :
    bytesTo o [.sent x message data] = if x = o then data else [] :=
  List.append_nil _

end Bytes

section Server

def Known (s : TunnelProxyServer) (host : ObjectId) (f : Frame) : Prop :=
  ∃ client, Attached s host client ∧ f.socketAddress = address s client ∧ f.socketAddress ≠ 0x0000

theorem processFrame_known (qt : Qt) (h : Ready s host library) {f : Frame} (hf : Known s host f) :
    Ready s host (library.processFrame qt f) ∧
      ∀ a, heard a (library.processFrame qt f) = heard a library ++ carried a [f] := by
  obtain ⟨client,ha,he,hne⟩ := hf
  obtain ⟨socket,hsocket,hsame⟩ := h.sockets client ha
  have hvalue : (library.emit (.frameReceived f)).m_tunnelProxySockets.value f.socketAddress =
      some socket := by
    rw [he]
    exact hsocket
  simp only [TunnelProxySocketServer.processFrame,if_neg hne,hvalue]
  refine ⟨⟨h.running,h.sockets⟩,fun a => ?_⟩
  have hsocket : socket.m_socketAddress = f.socketAddress := hsame.trans he.symm
  by_cases ha : f.socketAddress = a
  · simp [heard,receivedOn,TunnelProxySocketServer.emit,carried,hsocket,ha]
  · simp [heard,receivedOn,TunnelProxySocketServer.emit,carried,hsocket,ha]

theorem processFrames_known (qt : Qt) (h : Ready s host library) {frames : List Frame}
    (hf : ∀ f ∈ frames, Known s host f) :
    Ready s host (frames.foldl (TunnelProxySocketServer.processFrame qt) library) ∧
      ∀ a, heard a (frames.foldl (TunnelProxySocketServer.processFrame qt) library) =
        heard a library ++ carried a frames := by
  induction frames generalizing library with
  | nil => exact ⟨h,fun a => (List.append_nil _).symm⟩
  | cons f frames ih =>
    obtain ⟨hready,hheard⟩ := processFrame_known qt h (hf f List.mem_cons_self)
    obtain ⟨hready',hheard'⟩ := ih hready fun f hm => hf f (List.mem_cons_of_mem _ hm)
    refine ⟨hready',fun a => ?_⟩
    rw [List.foldl_cons,hheard',hheard,List.append_assoc,← carried_append]
    rfl

theorem onConnectionDataAvailable_known (qt : Qt) (h : Ready s host library) (data : QByteArray)
    (hf : ∀ f ∈ (TunnelProxySocketServer.reassemble library.m_dataBuffer data).2,
      Known s host f) :
    Ready s host (library.onConnectionDataAvailable qt data) ∧
      (library.onConnectionDataAvailable qt data).m_dataBuffer =
        (TunnelProxySocketServer.reassemble library.m_dataBuffer data).1 ∧
      ∀ a, heard a (library.onConnectionDataAvailable qt data) = heard a library ++
        carried a (TunnelProxySocketServer.reassemble library.m_dataBuffer data).2 := by
  have heq : library.onConnectionDataAvailable qt data =
      TunnelProxySocketServer.slipData qt { library with
        m_keepAliveTimer := library.m_keepAliveTimer.start library.now } data :=
    if_neg (not_not.mpr h.running)
  have hstart : Ready s host { library with
      m_keepAliveTimer := library.m_keepAliveTimer.start library.now } := ⟨h.running,h.sockets⟩
  obtain ⟨hready,hheard⟩ := processFrames_known qt hstart hf
  rw [heq,TunnelProxySocketServer.slipData_eq]
  exact ⟨⟨hready.running,hready.sockets⟩,rfl,hheard⟩

end Server

section Proxy

theorem bytesTo_delivery (hc : Consistent [] s) (hs : Serving s host) {f : Frame}
    (hfound : (s.serverConnection host).getClientConnection f.socketAddress = some client)
    (o : ObjectId) : bytesTo o (s.delivery host f) = if client = o then f.data else [] := by
  obtain ⟨hlive,hclient,-,-⟩ := hc.addressed host _ client ⟨hs.isServer,.inl hs.live⟩ hfound
  simp only [delivery,hfound,bytesTo_sent,(hc.clientTransport client hlive hclient).1]

theorem bytesTo_deliveries (hc : Consistent [] s) (hs : Serving s host) {frames : List Frame}
    (hf : ∀ f ∈ frames, ∃ client,
      (s.serverConnection host).getClientConnection f.socketAddress = some client)
    (hfound : (s.serverConnection host).getClientConnection (address s client) = some client) :
    bytesTo client (frames.flatMap (s.delivery host)) = carried (address s client) frames := by
  induction frames with
  | nil => rfl
  | cons f frames ih =>
    obtain ⟨x,hx⟩ := hf f List.mem_cons_self
    have hiff : x = client ↔ f.socketAddress = address s client := by
      constructor
      · rintro rfl
        exact (hc.addressed host _ x ⟨hs.isServer,.inl hs.live⟩ hx).2.2.2.symm
      · intro he
        rw [he,hfound] at hx
        exact (Option.some.inj hx).symm
    rw [List.flatMap_cons,bytesTo_append,bytesTo_delivery hc hs hx,
      ih fun f hm => hf f (List.mem_cons_of_mem _ hm)]
    exact congrArg (· ++ carried (address s client) frames) (if_congr hiff rfl rfl)

theorem bytesTo_host (hc : Consistent [] s) (hs : Serving s host) {frames : List Frame}
    (hf : ∀ f ∈ frames, ∃ client,
      (s.serverConnection host).getClientConnection f.socketAddress = some client) :
    bytesTo host (frames.flatMap (s.delivery host)) = [] := by
  induction frames with
  | nil => rfl
  | cons f frames ih =>
    obtain ⟨x,hx⟩ := hf f List.mem_cons_self
    have hne : x ≠ host := by
      rintro rfl
      have hclient := (hc.addressed x _ x ⟨hs.isServer,.inl hs.live⟩ hx).2.1
      have hserver := hs.isServer
      rw [isServer,hclient] at hserver
      cases hserver
    rw [List.flatMap_cons,bytesTo_append,bytesTo_delivery hc hs hx,if_neg hne,List.nil_append]
    exact ih fun f hm => hf f (List.mem_cons_of_mem _ hm)

theorem tunnelToServer_buffer (s : TunnelProxyServer) (client o : ObjectId) (data : QByteArray) :
    ((tunnelToServer s client data).client o).m_dataBuffer = (s.client o).m_dataBuffer := by
  simp only [tunnelToServer]
  split
  · rfl
  · next connection _ =>
    split
    · rfl
    · exact (sendData_client s _ (.tunnelData (s.client client).m_uuid
        (s.clientConnection connection).m_socketAddress data) _ o).2

theorem dataAvailable_buffer (ha : Attached s host client) (data : QByteArray) (o : ObjectId) :
    ((onClientDataAvailable env s client data).client o).m_dataBuffer =
      (s.client o).m_dataBuffer := by
  obtain ⟨htype,-⟩ := addRxDataCount_same (s.client client) s.now data.length
  have hlive : s.m_proxyClients.value client = some client := ha.live
  have hclient : ((s.setClient client
      ((s.client client).addRxDataCount s.now data.length)).client client).m_type = .TypeClient := by
    rw [setClient_client,Function.update_self,htype]
    exact ha.isClient
  simp only [onClientDataAvailable,hlive,hclient]
  rw [tunnelToServer_buffer,setClient_client,Function.update_apply]
  split
  · next ho => rw [(addRxDataCount_slip _ _ _).2,ho]
  · rfl

end Proxy

/-- A tunnel in use: the server runs with a socket for each client that is attached, these are
connected, and there are only frames for them on the way. -/
structure Established (env : Environment) (host : ObjectId) (n : Network) : Prop where
  reachable : Reachable env n.m_tunnelProxyServer
  serving : Serving n.m_tunnelProxyServer host
  ready : Ready n.m_tunnelProxyServer host n.server
  found : ∀ client, Attached n.m_tunnelProxyServer host client →
    address n.m_tunnelProxyServer client ≠ 0x0000 ∧
      (n.m_tunnelProxyServer.serverConnection host).getClientConnection
        (address n.m_tunnelProxyServer client) = some client
  remote : ∀ client, Attached n.m_tunnelProxyServer host client →
    (n.client client).m_state = .StateRemoteConnected
  upEnded : (TunnelProxySocketServer.reassemble n.server.m_dataBuffer (n.fromProxy host)).1 = []
  upKnown : ∀ f ∈ n.pendingUp host, Known n.m_tunnelProxyServer host f
  downEnded : (TunnelProxyClient.processSlip (n.m_tunnelProxyServer.client host).m_dataBuffer
    (n.toProxy host)).1 = []
  downKnown : ∀ f ∈ n.pendingDown host, Known n.m_tunnelProxyServer host f

section Step

variable {n : Network} {s' : TunnelProxyServer}

theorem Known.congr (h : SameRoutes s s') {f : Frame} (hf : Known s host f) : Known s' host f := by
  obtain ⟨client,ha,he,hne⟩ := hf
  exact ⟨client,ha.congr h,by rw [address_congr h,he],hne⟩

theorem Established.address_found (h : Established env host n) {f : Frame}
    (hf : Known n.m_tunnelProxyServer host f) : ∃ client,
      (n.m_tunnelProxyServer.serverConnection host).getClientConnection f.socketAddress =
        some client := by
  obtain ⟨client,ha,he,-⟩ := hf
  exact ⟨client,he ▸ (h.found client ha).2⟩

/-- What a read of the proxy from a client changes: one frame more is on its way to the server. -/
structure ReadUp (env : Environment) (host client : ObjectId) (count : Nat) (n : Network) : Prop where
  same : SameRoutes n.m_tunnelProxyServer (n.proxyReads env client count).m_tunnelProxyServer
  buffer : ((n.proxyReads env client count).m_tunnelProxyServer.client host).m_dataBuffer =
    (n.m_tunnelProxyServer.client host).m_dataBuffer
  sent : ∀ o, (n.proxyReads env client count).fromProxy o = n.fromProxy o ++ if host = o then
    serializeData (buildFrame ⟨address n.m_tunnelProxyServer client,(n.toProxy client).take count⟩)
    else []

theorem readUp (h : Established env host n) (ha : Attached n.m_tunnelProxyServer host client)
    (count : Nat) : ReadUp env host client count n := by
  have hc := reachable_consistent h.reachable
  obtain ⟨hsame,message,hout⟩ := dataAvailable_sent hc h.serving ha
    ((n.toProxy client).take count)
  refine ⟨hsame,dataAvailable_buffer ha _ host,fun o => ?_⟩
  simp only [proxyReads,TunnelProxyServer.step,hout,List.drop_left,bytesTo_sent]

/-- What a read of the proxy from the server changes: its frames are on their way to the clients. -/
structure ReadDown (env : Environment) (host : ObjectId) (count : Nat) (n : Network) : Prop where
  same : SameRoutes n.m_tunnelProxyServer (n.proxyReads env host count).m_tunnelProxyServer
  buffer : ((n.proxyReads env host count).m_tunnelProxyServer.client host).m_dataBuffer =
    (TunnelProxyClient.processSlip (n.m_tunnelProxyServer.client host).m_dataBuffer
      ((n.toProxy host).take count)).1
  unsent : (n.proxyReads env host count).fromProxy host = n.fromProxy host
  sent : ∀ client, Attached n.m_tunnelProxyServer host client →
    (n.proxyReads env host count).fromProxy client = n.fromProxy client ++
      carried (address n.m_tunnelProxyServer client)
        ((TunnelProxyClient.processSlip (n.m_tunnelProxyServer.client host).m_dataBuffer
          ((n.toProxy host).take count)).2.map parseFrame)

theorem readDown (h : Established env host n) (count : Nat) : ReadDown env host count n := by
  have hc := reachable_consistent h.reachable
  have hsplit := TunnelProxyClient.processSlip_append
    (n.m_tunnelProxyServer.client host).m_dataBuffer ((n.toProxy host).take count)
    ((n.toProxy host).drop count)
  rw [List.take_append_drop] at hsplit
  have hknown : ∀ p ∈ (TunnelProxyClient.processSlip
      (n.m_tunnelProxyServer.client host).m_dataBuffer ((n.toProxy host).take count)).2,
      Known n.m_tunnelProxyServer host (parseFrame p) := by
    intro p hp
    refine h.downKnown _ (List.mem_map_of_mem ?_)
    rw [hsplit]
    exact List.mem_append_left _ hp
  obtain ⟨hsame,hbuffer,hout⟩ := onClientDataAvailable_delivery env h.serving
    ((n.toProxy host).take count) fun p hp => by
      obtain ⟨client,-,-,hne⟩ := hknown p hp
      exact hne
  have hfound : ∀ f ∈ (TunnelProxyClient.processSlip
      (n.m_tunnelProxyServer.client host).m_dataBuffer
        ((n.toProxy host).take count)).2.map parseFrame, ∃ client,
      (n.m_tunnelProxyServer.serverConnection host).getClientConnection f.socketAddress =
        some client := by
    intro f hf
    obtain ⟨p,hp,rfl⟩ := List.mem_map.mp hf
    exact h.address_found (hknown p hp)
  refine ⟨hsame,hbuffer,?_,fun client ha => ?_⟩
  · have hnone := bytesTo_host hc h.serving hfound
    rw [List.flatMap_map] at hnone
    simp only [proxyReads,TunnelProxyServer.step,hout,List.drop_left,hnone,List.append_nil]
  · have hsent := bytesTo_deliveries hc h.serving hfound (h.found client ha).2
    rw [List.flatMap_map] at hsent
    simp only [proxyReads,TunnelProxyServer.step,hout,List.drop_left,hsent]

theorem attached_ne (hs : Serving s host) (ha : Attached s host client) : client ≠ host := by
  rintro rfl
  have hserver := hs.isServer
  rw [isServer,ha.isClient] at hserver
  cases hserver

theorem Established.of_same {n' : Network} (h : Established env host n)
    (hreach : Reachable env n'.m_tunnelProxyServer)
    (hsame : SameRoutes n.m_tunnelProxyServer n'.m_tunnelProxyServer)
    (hready : Ready n.m_tunnelProxyServer host n'.server)
    (hremote : ∀ client, Attached n.m_tunnelProxyServer host client →
      (n'.client client).m_state = .StateRemoteConnected)
    (hup : (TunnelProxySocketServer.reassemble n'.server.m_dataBuffer (n'.fromProxy host)).1 = [] ∧
      ∀ f ∈ n'.pendingUp host, Known n.m_tunnelProxyServer host f)
    (hdown : (TunnelProxyClient.processSlip (n'.m_tunnelProxyServer.client host).m_dataBuffer
      (n'.toProxy host)).1 = [] ∧
      ∀ f ∈ n'.pendingDown host, Known n.m_tunnelProxyServer host f) :
    Established env host n' where
  reachable := hreach
  serving := h.serving.congr hsame
  ready := by
    refine ⟨hready.running,fun client ha => ?_⟩
    rw [address_congr hsame]
    exact hready.sockets client (ha.congr hsame.symm)
  found := by
    intro client ha
    rw [address_congr hsame,hsame.same.serverConnection]
    exact h.found client (ha.congr hsame.symm)
  remote := fun client ha => hremote client (ha.congr hsame.symm)
  upEnded := hup.1
  upKnown := fun f hf => (hup.2 f hf).congr hsame
  downEnded := hdown.1
  downKnown := fun f hf => (hdown.2 f hf).congr hsame

theorem reassemble_more {m_dataBuffer data : QByteArray}
    (h : (TunnelProxySocketServer.reassemble m_dataBuffer data).1 = []) (f : Frame) :
    TunnelProxySocketServer.reassemble m_dataBuffer (data ++ serializeData (buildFrame f)) =
      ([],(TunnelProxySocketServer.reassemble m_dataBuffer data).2 ++ [f]) := by
  have hone := TunnelProxySocketServer.reassemble_encoded [f]
  rw [TunnelProxySocketServer.encoded,List.flatMap_cons,List.flatMap_nil,List.append_nil] at hone
  rw [TunnelProxySocketServer.reassemble_append,h,hone]

theorem processSlip_more {m_dataBuffer data : QByteArray}
    (h : (TunnelProxyClient.processSlip m_dataBuffer data).1 = []) (f : Frame) :
    TunnelProxyClient.processSlip m_dataBuffer (data ++ serializeData (buildFrame f)) =
      ([],(TunnelProxyClient.processSlip m_dataBuffer data).2 ++ [escape (buildFrame f)]) := by
  have hone := TunnelProxyClient.processSlip_encode [f]
  rw [encode,List.flatMap_cons,List.flatMap_nil,List.append_nil] at hone
  rw [TunnelProxyClient.processSlip_append,h,hone]
  rfl

theorem Established.written (h : Established env host n) {socketAddress : UInt16}
    {data : QByteArray} (hp : n.Possible host (.writeData socketAddress data)) :
    Known n.m_tunnelProxyServer host ⟨socketAddress,data⟩ ∧
    ∃ socket, n.step env host (.writeData socketAddress data) =
      { n with
        server := n.server.writeData socket data
        toProxy := Function.update n.toProxy host
          (n.toProxy host ++ serializeData (buildFrame ⟨socketAddress,data⟩)) } := by
  have hc := reachable_consistent h.reachable
  obtain ⟨client,hclient⟩ := Option.isSome_iff_exists.mp hp.1
  obtain ⟨hlive,hisClient,hto,ha⟩ :=
    hc.addressed host _ client ⟨h.serving.isServer,.inl h.serving.live⟩ hclient
  have hattached : Attached n.m_tunnelProxyServer host client := ⟨hlive,hisClient,hto⟩
  have haddress : address n.m_tunnelProxyServer client = socketAddress := ha
  obtain ⟨socket,hv,hsocket⟩ := h.ready.sockets client hattached
  rw [haddress] at hv hsocket
  have hne := (h.found client hattached).1
  refine ⟨⟨client,hattached,haddress.symm,haddress ▸ hne⟩,socket,?_⟩
  simp only [step,hv,send,TunnelProxySocket.writeData,hsocket]

theorem pendingDown_written (h : Established env host n) {socketAddress : UInt16}
    {data : QByteArray} (hp : n.Possible host (.writeData socketAddress data)) :
    (n.step env host (.writeData socketAddress data)).pendingDown host =
      n.pendingDown host ++ [⟨socketAddress,data⟩] := by
  obtain ⟨-,socket,hstep⟩ := h.written hp
  have hclean := (parseFrame_escape_iff ⟨socketAddress,data⟩).mpr hp.2
  simp only [hstep,pendingDown,Function.update_self,processSlip_more h.downEnded,List.map_append,
    List.map_cons,List.map_nil,hclean]

theorem pendingUp_read (h : Established env host n)
    (ha : Attached n.m_tunnelProxyServer host client) (count : Nat) :
    (n.proxyReads env client count).pendingUp host =
      n.pendingUp host ++ [⟨address n.m_tunnelProxyServer client,(n.toProxy client).take count⟩] := by
  have hsent := (readUp h ha count).sent host
  rw [if_pos rfl] at hsent
  simp only [pendingUp,hsent]
  exact congrArg Prod.snd (reassemble_more h.upEnded _)

theorem pendingUp_split (n : Network) (host : ObjectId) (count : Nat) :
    n.pendingUp host = (TunnelProxySocketServer.reassemble n.server.m_dataBuffer
        ((n.fromProxy host).take count)).2 ++
      (TunnelProxySocketServer.reassemble (TunnelProxySocketServer.reassemble n.server.m_dataBuffer
        ((n.fromProxy host).take count)).1 ((n.fromProxy host).drop count)).2 := by
  have hsplit := TunnelProxySocketServer.reassemble_append n.server.m_dataBuffer
    ((n.fromProxy host).take count) ((n.fromProxy host).drop count)
  rw [List.take_append_drop] at hsplit
  exact congrArg Prod.snd hsplit

theorem pendingDown_split (n : Network) (host : ObjectId) (count : Nat) :
    n.pendingDown host = (TunnelProxyClient.processSlip
        (n.m_tunnelProxyServer.client host).m_dataBuffer ((n.toProxy host).take count)).2.map
          parseFrame ++
      (TunnelProxyClient.processSlip (TunnelProxyClient.processSlip
        (n.m_tunnelProxyServer.client host).m_dataBuffer ((n.toProxy host).take count)).1
          ((n.toProxy host).drop count)).2.map parseFrame := by
  have hsplit := TunnelProxyClient.processSlip_append
    (n.m_tunnelProxyServer.client host).m_dataBuffer ((n.toProxy host).take count)
    ((n.toProxy host).drop count)
  rw [List.take_append_drop] at hsplit
  rw [pendingDown,hsplit,List.map_append]

theorem proxyReads_established (h : Established env host n) {o : ObjectId} (count : Nat)
    (ho : o = host ∨ Attached n.m_tunnelProxyServer host o) :
    Established env host (n.proxyReads env o count) := by
  have hfresh : n.m_tunnelProxyServer.Fresh (.dataAvailable o ((n.toProxy o).take count)) :=
    trivial
  have hreach : Reachable env (n.proxyReads env o count).m_tunnelProxyServer :=
    h.reachable.step hfresh
  rcases ho with rfl | ha
  · obtain ⟨hsame,hbuffer,hunsent,-⟩ := readDown h count
    have hsplit := TunnelProxyClient.processSlip_append
      (n.m_tunnelProxyServer.client o).m_dataBuffer ((n.toProxy o).take count)
      ((n.toProxy o).drop count)
    rw [List.take_append_drop] at hsplit
    have hrest : (n.proxyReads env o count).toProxy o = (n.toProxy o).drop count :=
      Function.update_self _ _ _
    refine h.of_same hreach hsame h.ready h.remote ?_ ⟨?_,fun f hf => ?_⟩
    · rw [pendingUp,hunsent]
      exact ⟨h.upEnded,h.upKnown⟩
    · have hended := h.downEnded
      rw [hsplit] at hended
      rw [hbuffer,hrest]
      exact hended
    · rw [pendingDown,hbuffer,hrest] at hf
      refine h.downKnown f ?_
      rw [pendingDown_split n o count]
      exact List.mem_append_right _ hf
  · obtain ⟨hsame,hbuffer,hsent⟩ := readUp h ha count
    have hne := attached_ne h.serving ha
    have hkept : (n.proxyReads env o count).toProxy host = n.toProxy host :=
      Function.update_of_ne hne.symm _ _
    have hup := pendingUp_read h ha count
    refine h.of_same hreach hsame h.ready h.remote ⟨?_,fun f hf => ?_⟩ ?_
    · have hhost := hsent host
      rw [if_pos rfl] at hhost
      rw [hhost]
      exact congrArg Prod.fst (reassemble_more h.upEnded _)
    · rw [hup] at hf
      rcases List.mem_append.mp hf with hf | hf
      · exact h.upKnown f hf
      · rw [List.mem_singleton.mp hf]
        exact ⟨o,ha,rfl,(h.found o ha).1⟩
    · rw [pendingDown,hbuffer,hkept]
      exact ⟨h.downEnded,h.downKnown⟩

theorem sendData_remote (h : Established env host n)
    (ha : Attached n.m_tunnelProxyServer host client) (data : QByteArray) :
    (n.client client).sendData data = ((n.client client).emit (.sendData data),true) :=
  if_pos (h.remote client ha)

theorem clientReads_remote (h : Established env host n)
    (ha : Attached n.m_tunnelProxyServer host client) (data : QByteArray) :
    (n.client client).onConnectionDataAvailable env.toQt data =
      (n.client client).emit (.dataReady data) :=
  if_neg (not_not.mpr (h.remote client ha))

theorem step_established (h : Established env host n) {event : Event}
    (hp : n.Possible host event) : Established env host (n.step env host event) := by
  have hremote : ∀ (client : ObjectId) (o : TunnelProxyRemoteConnection.Output),
      ∀ x, Attached n.m_tunnelProxyServer host x →
      (Function.update n.client client ((n.client client).emit o) x).m_state =
        .StateRemoteConnected := by
    intro client o x hx
    rw [Function.update_apply]
    split
    · next he =>
      subst he
      exact h.remote x hx
    · exact h.remote x hx
  cases event with
  | sendData client data =>
    have hne := attached_ne h.serving hp
    have hkept : (n.step env host (.sendData client data)).toProxy host = n.toProxy host :=
      Function.update_of_ne hne.symm _ _
    refine h.of_same h.reachable (.refl _) h.ready ?_ ⟨h.upEnded,h.upKnown⟩ ?_
    · simp only [step,sendData_remote h hp]
      exact hremote client _
    · rw [pendingDown,hkept]
      exact ⟨h.downEnded,h.downKnown⟩
  | writeData socketAddress data =>
    obtain ⟨hknown,socket,hstep⟩ := h.written hp
    have hdown := pendingDown_written h hp
    rw [hstep] at hdown ⊢
    refine h.of_same h.reachable (.refl _) ⟨h.ready.running,h.ready.sockets⟩ h.remote
      ⟨h.upEnded,h.upKnown⟩ ⟨?_,fun f hf => ?_⟩
    · simp only [Function.update_self]
      exact congrArg Prod.fst (processSlip_more h.downEnded _)
    · rw [hdown] at hf
      rcases List.mem_append.mp hf with hf | hf
      · exact h.downKnown f hf
      · rw [List.mem_singleton.mp hf]
        exact hknown
  | proxyReads o count => exact proxyReads_established h count hp
  | serverReads count =>
    have hsplit := TunnelProxySocketServer.reassemble_append n.server.m_dataBuffer
      ((n.fromProxy host).take count) ((n.fromProxy host).drop count)
    rw [List.take_append_drop] at hsplit
    have hpending := pendingUp_split n host count
    obtain ⟨hready,hbuffer,-⟩ := onConnectionDataAvailable_known env.toQt h.ready
      ((n.fromProxy host).take count) fun f hf =>
        h.upKnown f (hpending ▸ List.mem_append_left _ hf)
    refine h.of_same h.reachable (.refl _) hready h.remote ⟨?_,fun f hf => ?_⟩
      ⟨h.downEnded,h.downKnown⟩
    · have hended := h.upEnded
      rw [hsplit] at hended
      simp only [step,hbuffer,Function.update_self]
      exact hended
    · simp only [step,pendingUp,hbuffer,Function.update_self] at hf
      refine h.upKnown f ?_
      rw [hpending]
      exact List.mem_append_right _ hf
  | clientReads client count =>
    have hne := attached_ne h.serving hp
    have hkept : (n.step env host (.clientReads client count)).fromProxy host =
        n.fromProxy host := Function.update_of_ne hne.symm _ _
    refine h.of_same h.reachable (.refl _) h.ready ?_ ?_ ⟨h.downEnded,h.downKnown⟩
    · simp only [step,clientReads_remote h hp]
      exact hremote client _
    · rw [pendingUp,hkept]
      exact ⟨h.upEnded,h.upKnown⟩

theorem step_same (h : Established env host n) {event : Event} (hp : n.Possible host event) :
    SameRoutes n.m_tunnelProxyServer (n.step env host event).m_tunnelProxyServer := by
  cases event with
  | sendData client data => exact .refl _
  | writeData socketAddress data =>
    obtain ⟨-,socket,hstep⟩ := h.written hp
    rw [hstep]
    exact .refl _
  | proxyReads o count =>
    rcases hp with rfl | ha
    · exact (readDown h count).same
    · exact (readUp h ha count).same
  | serverReads count => exact .refl _
  | clientReads client count => exact .refl _

end Step

section Conduits

variable {n : Network} {a : UInt16}

def Event.sentBy (client : ObjectId) : Event → QByteArray
  | .sendData x data => if x = client then data else []
  | _ => []

def Event.writtenTo (a : UInt16) : Event → QByteArray
  | .writeData socketAddress data => if socketAddress = a then data else []
  | _ => []

def toProxyConduit (client : ObjectId) : Conduit Network Event UInt8 where
  entering _ event := event.sentBy client
  leaving n event := match event with
    | .proxyReads o count => if o = client then (n.toProxy client).take count else []
    | _ => []
  held n := n.toProxy client

def toServerConduit (host client : ObjectId) (a : UInt16) : Conduit Network Event UInt8 where
  entering := (toProxyConduit client).leaving
  leaving n event := match event with
    | .serverReads count => carried a (TunnelProxySocketServer.reassemble n.server.m_dataBuffer
        ((n.fromProxy host).take count)).2
    | _ => []
  held n := carried a (n.pendingUp host)

/-- What the server writes to the socket of a client, on its way to the proxy, and on. -/
def fromServerConduit (host : ObjectId) (a : UInt16) : Conduit Network Event UInt8 where
  entering _ event := event.writtenTo a
  leaving n event := match event with
    | .proxyReads o count => if o = host then carried a
        ((TunnelProxyClient.processSlip (n.m_tunnelProxyServer.client host).m_dataBuffer
          ((n.toProxy host).take count)).2.map parseFrame) else []
    | _ => []
  held n := carried a (n.pendingDown host)

def toClientConduit (host client : ObjectId) (a : UInt16) : Conduit Network Event UInt8 where
  entering := (fromServerConduit host a).leaving
  leaving n event := match event with
    | .clientReads x count => if x = client then (n.fromProxy client).take count else []
    | _ => []
  held n := n.fromProxy client

/-- The client has a tunnel to the server, which knows it under the address. -/
structure Through (env : Environment) (host client : ObjectId) (a : UInt16) (n : Network)
    (event : Event) : Prop where
  established : Established env host n
  attached : Attached n.m_tunnelProxyServer host client
  address : address n.m_tunnelProxyServer client = a
  possible : n.Possible host event

theorem toProxy_conserves (client : ObjectId) :
    Conduit.Conserves (step env host) (Through env host client a) (toProxyConduit client) := by
  rintro n event ⟨h,ha,-,hp⟩
  have hne := attached_ne h.serving ha
  cases event with
  | sendData x data =>
    simp only [toProxyConduit,Event.sentBy,step,sendData_remote h hp,send,Function.update_apply,if_true,
      List.nil_append]
    split
    · next hx =>
      subst hx
      simp
    · next hx => simp [Ne.symm hx]
  | writeData socketAddress data =>
    obtain ⟨-,socket,hstep⟩ := h.written hp
    simp [toProxyConduit,Event.sentBy,hstep,hne]
  | proxyReads o count =>
    simp only [toProxyConduit,Event.sentBy,step,proxyReads,Function.update_apply,List.append_nil]
    split
    · next ho =>
      subst ho
      simp
    · next ho => simp [Ne.symm ho]
  | serverReads count => simp [toProxyConduit,Event.sentBy,step]
  | clientReads x count => simp [toProxyConduit,Event.sentBy,step]

theorem toServer_conserves (client : ObjectId) :
    Conduit.Conserves (step env host) (Through env host client a)
      (toServerConduit host client a) := by
  rintro n event ⟨h,ha,haddress,hp⟩
  have hne := attached_ne h.serving ha
  cases event with
  | sendData x data => exact List.append_nil _
  | writeData socketAddress data =>
    obtain ⟨-,socket,hstep⟩ := h.written hp
    simp only [toServerConduit,toProxyConduit,hstep,List.append_nil,List.nil_append]
    rfl
  | proxyReads o count =>
    simp only [toServerConduit,toProxyConduit,step,List.nil_append]
    rcases hp with rfl | ho
    · have hsame : (n.proxyReads env o count).pendingUp o = n.pendingUp o := by
        rw [pendingUp,(readDown h count).unsent]
        rfl
      rw [if_neg hne.symm,hsame,List.append_nil]
    · rw [pendingUp_read h ho,carried_append]
      refine congrArg (carried a (n.pendingUp host) ++ ·) ?_
      by_cases hoc : o = client
      · subst hoc
        simp [carried,haddress]
      · have hother : address n.m_tunnelProxyServer o ≠ a := by
          rintro hsame
          have hfound := (h.found o ho).2
          rw [hsame,← haddress,(h.found client ha).2] at hfound
          exact hoc (Option.some.inj hfound).symm
        simp [carried,hoc,hother]
  | serverReads count =>
    have hpending := pendingUp_split n host count
    obtain ⟨-,hbuffer,-⟩ := onConnectionDataAvailable_known env.toQt h.ready
      ((n.fromProxy host).take count) fun f hf =>
        h.upKnown f (hpending ▸ List.mem_append_left _ hf)
    have hrest : (n.step env host (.serverReads count)).pendingUp host =
        (TunnelProxySocketServer.reassemble (TunnelProxySocketServer.reassemble
          n.server.m_dataBuffer ((n.fromProxy host).take count)).1
            ((n.fromProxy host).drop count)).2 := by
      simp only [step,pendingUp,hbuffer,Function.update_self]
    simp only [toServerConduit,toProxyConduit,hrest,List.append_nil]
    rw [hpending,carried_append]
  | clientReads x count =>
    have hkept : (n.step env host (.clientReads x count)).fromProxy host = n.fromProxy host :=
      Function.update_of_ne (attached_ne h.serving hp).symm _ _
    simp only [toServerConduit,toProxyConduit,pendingUp,hkept,List.append_nil,List.nil_append]
    rfl

theorem fromServer_conserves (client : ObjectId) :
    Conduit.Conserves (step env host) (Through env host client a)
      (fromServerConduit host a) := by
  rintro n event ⟨h,ha,haddress,hp⟩
  cases event with
  | sendData x data =>
    have hkept : (n.step env host (.sendData x data)).toProxy host = n.toProxy host :=
      Function.update_of_ne (attached_ne h.serving hp).symm _ _
    simp only [fromServerConduit,Event.writtenTo,pendingDown,hkept,List.append_nil,List.nil_append]
    rfl
  | writeData socketAddress data =>
    simp only [fromServerConduit,Event.writtenTo,pendingDown_written h hp,carried_append,List.nil_append]
    refine congrArg (carried a (n.pendingDown host) ++ ·) ?_
    exact (List.append_nil _).symm
  | proxyReads o count =>
    simp only [fromServerConduit,Event.writtenTo,step,List.append_nil]
    rcases hp with rfl | ho
    · have hrest : (n.proxyReads env o count).pendingDown o =
          (TunnelProxyClient.processSlip (TunnelProxyClient.processSlip
            (n.m_tunnelProxyServer.client o).m_dataBuffer ((n.toProxy o).take count)).1
              ((n.toProxy o).drop count)).2.map parseFrame := by
        rw [pendingDown,(readDown h count).buffer]
        simp only [proxyReads,Function.update_self]
      rw [if_pos rfl,hrest,pendingDown_split n o count,carried_append]
    · have hkept : (n.proxyReads env o count).toProxy host = n.toProxy host :=
        Function.update_of_ne (attached_ne h.serving ho).symm _ _
      rw [if_neg (attached_ne h.serving ho),pendingDown,pendingDown,(readUp h ho count).buffer,
        hkept,List.nil_append]
  | serverReads count => exact List.append_nil _
  | clientReads x count => exact List.append_nil _

theorem toClient_conserves (client : ObjectId) :
    Conduit.Conserves (step env host) (Through env host client a)
      (toClientConduit host client a) := by
  rintro n event ⟨h,ha,haddress,hp⟩
  have hne := attached_ne h.serving ha
  cases event with
  | sendData x data => exact List.append_nil _
  | writeData socketAddress data =>
    obtain ⟨-,socket,hstep⟩ := h.written hp
    simp only [toClientConduit,fromServerConduit,hstep,List.append_nil,List.nil_append]
  | proxyReads o count =>
    simp only [toClientConduit,fromServerConduit,step,List.nil_append]
    rcases hp with rfl | ho
    · rw [(readDown h count).sent client ha,if_pos rfl,haddress]
    · rw [(readUp h ho count).sent client,if_neg hne.symm,if_neg (attached_ne h.serving ho)]
  | serverReads count =>
    have hkept : (n.step env host (.serverReads count)).fromProxy client = n.fromProxy client :=
      Function.update_of_ne hne _ _
    simp only [toClientConduit,fromServerConduit,hkept,List.append_nil,List.nil_append]
  | clientReads x count =>
    simp only [toClientConduit,fromServerConduit,step,Function.update_apply,List.append_nil]
    split
    · next hx =>
      subst hx
      simp
    · next hx => simp [Ne.symm hx]

theorem up_conserves : Conduit.Conserves (step env host) (Through env host client a)
    ((toProxyConduit client).series (toServerConduit host client a)) :=
  (toProxy_conserves client).series (toServer_conserves client) fun _ _ => rfl

theorem down_conserves : Conduit.Conserves (step env host) (Through env host client a)
    ((fromServerConduit host a).series (toClientConduit host client a)) :=
  (fromServer_conserves client).series (toClient_conserves client) fun _ _ => rfl

theorem heard_step {event : Event} (ht : Through env host client a n event) :
    heard a (n.step env host event).server =
      heard a n.server ++ (toServerConduit host client a).leaving n event := by
  obtain ⟨h,-,-,hp⟩ := ht
  cases event with
  | sendData x data => exact (List.append_nil _).symm
  | writeData socketAddress data =>
    obtain ⟨-,socket,hstep⟩ := h.written hp
    rw [hstep]
    simp [heard,receivedOn,TunnelProxySocketServer.writeData,TunnelProxySocketServer.emit,
      toServerConduit]
  | proxyReads o count => exact (List.append_nil _).symm
  | serverReads count =>
    obtain ⟨-,-,hheard⟩ := onConnectionDataAvailable_known env.toQt h.ready
      ((n.fromProxy host).take count) fun f hf =>
        h.upKnown f (pendingUp_split n host count ▸ List.mem_append_left _ hf)
    exact hheard a
  | clientReads x count => exact (List.append_nil _).symm

theorem ready_step {event : Event} (ht : Through env host client a n event) :
    ready ((n.step env host event).client client) =
      ready (n.client client) ++ (toClientConduit host client a).leaving n event := by
  obtain ⟨h,-,-,hp⟩ := ht
  cases event with
  | sendData x data =>
    simp only [step,sendData_remote h hp,send,toClientConduit,List.append_nil,
      Function.update_apply]
    split
    · next hx =>
      subst hx
      simp [ready,TunnelProxyRemoteConnection.emit]
    · rfl
  | writeData socketAddress data =>
    obtain ⟨-,socket,hstep⟩ := h.written hp
    rw [hstep]
    exact (List.append_nil _).symm
  | proxyReads o count => exact (List.append_nil _).symm
  | serverReads count => exact (List.append_nil _).symm
  | clientReads x count =>
    simp only [step,clientReads_remote h hp,toClientConduit,Function.update_apply]
    split
    · next hx =>
      subst hx
      simp [ready,TunnelProxyRemoteConnection.emit]
    · next hx => simp [Ne.symm hx]

theorem along_through (h : Established env host n)
    (ha : Attached n.m_tunnelProxyServer host client)
    (haddress : address n.m_tunnelProxyServer client = a) {events : List Event}
    (hp : Runs.Along (step env host) (Possible host) n events) :
    Runs.Along (step env host) (Through env host client a) n events := by
  induction events generalizing n with
  | nil => exact trivial
  | cons event events ih =>
    have hsame := step_same h hp.1
    refine ⟨⟨h,ha,haddress,hp.1⟩,ih (step_established h hp.1) (ha.congr hsame) ?_ hp.2⟩
    rw [address_congr hsame,haddress]

/-- Whatever the order of writes and reads, and wherever the streams are cut: each side of a tunnel
gets what the other has written, in order, and what it has not got is on its way. -/
theorem tunnel_conserved (h : Established env host n) {events : List Event}
    (hp : Runs.Along (step env host) (Possible host) n events)
    (ha : Attached n.m_tunnelProxyServer host client) :
    let a := address n.m_tunnelProxyServer client
    let n' := Runs.run (step env host) n events
    (∃ up, heard a n'.server = heard a n.server ++ up ∧
      carried a (n.pendingUp host) ++ n.toProxy client ++ events.flatMap (Event.sentBy client) =
        up ++ (carried a (n'.pendingUp host) ++ n'.toProxy client)) ∧
    ∃ down, ready (n'.client client) = ready (n.client client) ++ down ∧
      n.fromProxy client ++ carried a (n.pendingDown host) ++ events.flatMap (Event.writtenTo a) =
        down ++ (n'.fromProxy client ++ carried a (n'.pendingDown host)) := by
  intro a n'
  have hthrough := along_through h ha rfl hp
  constructor
  · have hall := up_conserves.run hthrough
    have hlog := Conduit.log_along (fun n => heard a n.server) (fun _ _ ht => heard_step ht)
      hthrough
    have hsent := Conduit.along_events (step env host) (Event.sentBy client) n events
    exact ⟨_,hlog,(congrArg _ hsent).symm.trans hall⟩
  · have hall := down_conserves.run hthrough
    have hlog := Conduit.log_along (fun n => ready (n.client client)) (fun _ _ ht => ready_step ht)
      hthrough
    have hwritten := Conduit.along_events (step env host) (Event.writtenTo a) n events
    exact ⟨_,hlog,(congrArg _ hwritten).symm.trans hall⟩

end Conduits

section Run

def quiet (s : TunnelProxyServer) (library : TunnelProxySocketServer)
    (client : ObjectId → TunnelProxyRemoteConnection) : Network where
  m_tunnelProxyServer := s
  server := library
  client := client
  toProxy _ := []
  fromProxy _ := []

theorem quiet_established {clients : ObjectId → TunnelProxyRemoteConnection}
    (h : Reachable env s) (hs : Serving s host) (hready : Ready s host library)
    (hfound : ∀ client, Attached s host client → address s client ≠ 0x0000 ∧
      (s.serverConnection host).getClientConnection (address s client) = some client)
    (hremote : ∀ client, Attached s host client →
      (clients client).m_state = .StateRemoteConnected)
    (hlibrary : library.m_dataBuffer = []) (hproxy : (s.client host).m_dataBuffer = []) :
    Established env host (quiet s library clients) := by
  have hup : TunnelProxySocketServer.reassemble library.m_dataBuffer [] = ([],[]) :=
    congrArg (·,[]) hlibrary
  have hdown : TunnelProxyClient.processSlip (s.client host).m_dataBuffer [] = ([],[]) :=
    congrArg (·,[]) hproxy
  refine ⟨h,hs,hready,hfound,hremote,?_,?_,?_,?_⟩
  · rw [quiet,hup]
  · simp [pendingUp,quiet,hup]
  · rw [quiet,hdown]
  · simp [pendingDown,quiet,hdown]

def sampleNetwork : Network :=
  quiet tunnel sampleLibrary fun _ =>
    { TunnelProxyRemoteConnection.new ⟨7⟩ "client" with m_state := .StateRemoteConnected }

theorem sample_established : Established (sampleEnvironment true) ⟨1⟩ sampleNetwork := by
  have hregistered : tunnel.m_tunnelProxyServerConnections.value ⟨5⟩ = some ⟨1⟩ := by
    decide +kernel
  obtain ⟨hlive,hserver,huuid⟩ :=
    ((reachable_consistent tunnel_reachable).server_iff ⟨5⟩ ⟨1⟩).mp hregistered
  have hserving : Serving tunnel ⟨1⟩ := ⟨hlive,hserver,huuid ▸ hregistered,by decide +kernel⟩
  have hfound : address tunnel ⟨2⟩ ≠ 0x0000 ∧
      (tunnel.serverConnection ⟨1⟩).getClientConnection (address tunnel ⟨2⟩) = some ⟨2⟩ := by
    decide +kernel
  refine quiet_established tunnel_reachable hserving (sample_ready [] (.inl List.nil_prefix))
    (fun client ha => ?_) (fun _ _ => rfl) rfl (by decide +kernel)
  obtain rfl := tunnel_attached ha
  exact hfound

theorem sample_attached : Attached sampleNetwork.m_tunnelProxyServer ⟨1⟩ ⟨2⟩ := by
  decide +kernel

def sampleTraffic : List Event :=
  [.sendData ⟨2⟩ [0xC0,0xDB,0x07],.proxyReads ⟨2⟩ 2,.writeData 1 (ascii "hello"),.serverReads 3,
    .proxyReads ⟨1⟩ 4,.proxyReads ⟨2⟩ 5,.serverReads 9,.proxyReads ⟨1⟩ 9,.clientReads ⟨2⟩ 3]

theorem tunnel_conserved_sample :
    let a := address sampleNetwork.m_tunnelProxyServer ⟨2⟩
    let n' := Runs.run (step (sampleEnvironment true) ⟨1⟩) sampleNetwork sampleTraffic
    (∃ up, heard a n'.server = heard a sampleNetwork.server ++ up ∧
      carried a (sampleNetwork.pendingUp ⟨1⟩) ++ sampleNetwork.toProxy ⟨2⟩ ++
          sampleTraffic.flatMap (Event.sentBy ⟨2⟩) =
        up ++ (carried a (n'.pendingUp ⟨1⟩) ++ n'.toProxy ⟨2⟩)) ∧
    ∃ down, ready (n'.client ⟨2⟩) = ready (sampleNetwork.client ⟨2⟩) ++ down ∧
      sampleNetwork.fromProxy ⟨2⟩ ++ carried a (sampleNetwork.pendingDown ⟨1⟩) ++
          sampleTraffic.flatMap (Event.writtenTo a) =
        down ++ (n'.fromProxy ⟨2⟩ ++ carried a (n'.pendingDown ⟨1⟩)) :=
  tunnel_conserved sample_established (by decide +kernel) sample_attached

end Run

end Network

end RemoteProxy
