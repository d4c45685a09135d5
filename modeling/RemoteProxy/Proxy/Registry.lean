import RemoteProxy.Proxy.Handlers
import RemoteProxy.Qt.Json

namespace RemoteProxy.TunnelProxyServer

open Relation

variable {env : Environment} {dying : List ObjectId} {s s' t : TunnelProxyServer}

section Nesting

def count (s : TunnelProxyServer) : Nat := s.m_proxyClients.entries.length

theorem count_take {id : QUuid} {o : ObjectId} (h : s.m_proxyClients.value id = some o) :
    (s.take id).count + 1 = s.count := by
  obtain ⟨b,l₁,l₂,-,hl,hk⟩ := List.exists_of_kerase
    (AList.mem_keys.mp (AList.lookup_isSome.mp (Option.isSome_of_eq_some h)))
  have hk' : (s.take id).m_proxyClients.entries = l₁ ++ l₂ := hk
  rw [count,count,hk',hl]
  simp only [List.length_append,List.length_cons]
  omega

theorem count_clientDisconnected (s : TunnelProxyServer) (o : ObjectId) :
    (clientDisconnected env s o).count = s.count := by
  simp only [clientDisconnected]
  split
  · rfl
  · split
    · rfl
    · rfl

theorem count_unregisterClient (s : TunnelProxyServer) (o : ObjectId) :
    (JsonRpcServer.unregisterClient s o).count = s.count := by
  unfold JsonRpcServer.unregisterClient
  split
  · rfl
  · rfl

/-- Two reports that agree, and take entries away only, on states with at most `n` entries. -/
def Agree (n : Nat) (report report' : TunnelProxyServer → QUuid → TunnelProxyServer) : Prop :=
  ∀ s id, s.count ≤ n → report s id = report' s id ∧ (report s id).count ≤ s.count

variable {n : Nat} {report report' : TunnelProxyServer → QUuid → TunnelProxyServer}

theorem Agree.drop (env : Environment) (h : Agree n report report') (server client : ObjectId)
    (hs : s.count ≤ n) :
    dropClient env report s server client = dropClient env report' s server client ∧
      (dropClient env report s server client).count ≤ s.count := by
  simp only [dropClient,killConnectionWith]
  split
  · exact h _ _ hs
  · exact ⟨rfl,Nat.le_refl _⟩

theorem Agree.drops (h : Agree n report report') (server : ObjectId) (clients : List ObjectId)
    (hs : s.count ≤ n) :
    clients.foldl (fun s client => dropClient env report s server client) s =
        clients.foldl (fun s client => dropClient env report' s server client) s ∧
      (clients.foldl (fun s client => dropClient env report s server client) s).count ≤
        s.count := by
  induction clients generalizing s with
  | nil => exact ⟨rfl,Nat.le_refl _⟩
  | cons client clients ih =>
    obtain ⟨heq,hle⟩ := h.drop env server client hs
    obtain ⟨ih1,ih2⟩ := ih (Nat.le_trans hle hs)
    rw [List.foldl_cons,List.foldl_cons]
    exact ⟨by rw [ih1,heq],Nat.le_trans ih2 hle⟩

theorem Agree.disconnected (env : Environment) (h : Agree n report report') (o : ObjectId)
    (hs : s.count ≤ n) :
    disconnected env report s o = disconnected env report' s o ∧
      (disconnected env report s o).count ≤ s.count := by
  have hserver : serverDisconnected env report s o = serverDisconnected env report' s o ∧
      (serverDisconnected env report s o).count ≤ s.count := by
    simp only [serverDisconnected]
    split
    · exact ⟨rfl,Nat.le_refl _⟩
    · exact h.drops _ _ hs
  simp only [TunnelProxyServer.disconnected,count_unregisterClient]
  split
  · rw [← hserver.1]
    refine ⟨rfl,?_⟩
    split
    · rw [count_clientDisconnected]
      exact hserver.2
    · exact hserver.2
  · refine ⟨rfl,?_⟩
    split
    · rw [count_clientDisconnected]
    · exact Nat.le_refl _

theorem within_agree (env : Environment) (n m k : Nat) (hn : n ≤ m) (hk : n ≤ k) :
    Agree n (onClientDisconnectedWithin env m) (onClientDisconnectedWithin env k) := by
  induction n generalizing m k with
  | zero =>
    intro s id hs
    have hnone : s.m_proxyClients.value id = none := by
      cases hv : s.m_proxyClients.value id with
      | none => rfl
      | some o => exact absurd (count_take hv) (by omega)
    have hw : ∀ j, onClientDisconnectedWithin env j s id = s := by
      intro j
      cases j with
      | zero => rfl
      | succ j => rw [onClientDisconnectedWithin,hnone]
    rw [hw,hw]
    exact ⟨rfl,Nat.le_refl _⟩
  | succ n ih =>
    intro s id hs
    obtain ⟨m,rfl⟩ : ∃ m', m = m' + 1 := ⟨m - 1,by omega⟩
    obtain ⟨k,rfl⟩ : ∃ k', k = k' + 1 := ⟨k - 1,by omega⟩
    rw [onClientDisconnectedWithin,onClientDisconnectedWithin]
    cases hv : s.m_proxyClients.value id with
    | none => exact ⟨rfl,Nat.le_refl _⟩
    | some o =>
      have hc := count_take hv
      obtain ⟨h1,h2⟩ := (ih m k (by omega) (by omega)).disconnected env o
        (s := s.take id) (by omega)
      exact ⟨h1,Nat.le_trans h2 (by omega)⟩

theorem onClientDisconnected_eq (s : TunnelProxyServer) (clientId : QUuid) :
    onClientDisconnected env s clientId =
      match s.m_proxyClients.value clientId with
      | none => s
      | some tunnelProxyClient =>
        disconnected env (onClientDisconnected env) (s.take clientId) tunnelProxyClient := by
  rw [onClientDisconnected]
  cases hv : s.m_proxyClients.value clientId with
  | none => cases s.m_proxyClients.entries.length <;> simp [onClientDisconnectedWithin,hv]
  | some o =>
    have hc := count_take hv
    have hagree : Agree (s.take clientId).count (onClientDisconnectedWithin env (s.take clientId).count)
        (onClientDisconnected env) := by
      intro t id ht
      have h1 := within_agree env t.count (s.take clientId).count t.count ht (Nat.le_refl _)
      exact h1 t id (Nat.le_refl _)
    rw [show s.m_proxyClients.entries.length = (s.take clientId).count + 1 from hc.symm,
      onClientDisconnectedWithin,hv]
    exact (hagree.disconnected env o (Nat.le_refl _)).1

end Nesting

theorem attachClient_output (s : TunnelProxyServer) (o : ObjectId) (uuid : QUuid) (name : String)
    (server : ObjectId) : (s.attachClient o uuid name server).output =
      s.output ++ if (s.serverConnection server).freeAddressAsserted then [] else
        [.assertFailed "TunnelProxyServerConnection"
          "no free address but the maximum of connections has been reached."] := by
  rw [attachClient_eq]
  simp only [assertX]
  split
  · exact (List.append_nil _).symm
  · rfl

theorem tunnelToServer_eq (h : Consistent dying s) {o : ObjectId} (hlive : s.live o)
    (hclient : s.isClient o) (data : QByteArray) :
    ((s.clientConnection o).m_serverConnection = none ∧ Own o s (s.tunnelToServer o data)) ∨
      ∃ server, (s.clientConnection o).m_serverConnection = some server ∧
        (s.tunnelToServer o data).output = s.output ++ [.sent server
          (.tunnelData (s.client o).m_uuid (s.clientConnection o).m_socketAddress data)
          (SlipDataProcessor.serializeData
            (SlipDataProcessor.buildFrame ⟨(s.clientConnection o).m_socketAddress,data⟩))] := by
  have hval := (h.client_iff _ o).mpr ⟨hlive,hclient,rfl⟩
  simp only [tunnelToServer,hval]
  cases hto : (s.clientConnection o).m_serverConnection with
  | none => exact .inl ⟨rfl,Own.assertX s _ _ _⟩
  | some server =>
    obtain ⟨-,-,hserves,-⟩ := h.attached o server hto
    refine .inr ⟨server,rfl,?_⟩
    simp only [h.serverTransport server hserves]
    rfl

/-- A live entry of `m_proxyClients`: its key, its object and what it is registered as. -/
def Entry (s : TunnelProxyServer) (type : ClientType) (uuid : QUuid) (id : QUuid) (o : ObjectId) :
    Prop :=
  s.m_proxyClients.value id = some o ∧ (s.client o).m_type = type ∧ (s.client o).m_uuid = uuid

structure RegistryConsistent (s : TunnelProxyServer) : Prop where
  servers : ∀ u, (∃ c, s.m_tunnelProxyServerConnections.value u = some c) ↔
    ∃! id, ∃ o, s.Entry .TypeServer u id o
  serverTransport : ∀ u c id o, s.m_tunnelProxyServerConnections.value u = some c →
    s.Entry .TypeServer u id o → (s.serverConnection c).m_transportClient = o
  clients : ∀ u, (∃ c, s.m_tunnelProxyClientConnections.value u = some c) ↔
    ∃! id, ∃ o, s.Entry .TypeClient u id o
  clientTransport : ∀ u c id o, s.m_tunnelProxyClientConnections.value u = some c →
    s.Entry .TypeClient u id o → (s.clientConnection c).m_transportClient = o
  disjoint : ∀ u, ¬(s.m_tunnelProxyServerConnections.contains u ∧
    s.m_tunnelProxyClientConnections.contains u)
  attached : ∀ c server, (s.clientConnection c).m_serverConnection = some server →
    (s.serverConnection server).m_clientConnections.value (s.clientConnection c).m_clientUuid =
        some c ∧
      ∃ u, s.m_tunnelProxyServerConnections.value u = some server
  listed : ∀ u server u' c, s.m_tunnelProxyServerConnections.value u = some server →
    (s.serverConnection server).m_clientConnections.value u' = some c →
      (∃ v, s.m_tunnelProxyClientConnections.value v = some c) ∧
        (s.clientConnection c).m_serverConnection = some server
  addressed : ∀ u server a c, s.m_tunnelProxyServerConnections.value u = some server →
    (s.serverConnection server).m_clientConnectionsAddresses.value a = some c →
      (∃ v, s.m_tunnelProxyClientConnections.value v = some c) ∧
        (s.clientConnection c).m_serverConnection = some server
  jsonClients_nodup : s.m_clients.Nodup
  jsonClients : ∀ o, o ∈ s.m_clients ↔ ∃ id, s.m_proxyClients.value id = some o

theorem Consistent.entry_iff (h : Consistent dying s) {type : ClientType} {u id : QUuid}
    {o : ObjectId} : s.Entry type u id o ↔
      id = o ∧ s.live o ∧ (s.client o).m_type = type ∧ (s.client o).m_uuid = u := by
  constructor
  · rintro ⟨hv,htype,hu⟩
    have ho := h.named id o hv
    subst ho
    exact ⟨rfl,hv,htype,hu⟩
  · rintro ⟨rfl,hl,htype,hu⟩
    exact ⟨hl,htype,hu⟩

theorem unique_entry {p : QUuid → ObjectId → Prop} {v : Option ObjectId}
    (h : ∀ id o, p id o ↔ id = o ∧ v = some o) : (∃ c, v = some c) ↔ ∃! id, ∃ o, p id o := by
  constructor
  · rintro ⟨c,rfl⟩
    refine ⟨c,⟨c,(h c c).mpr ⟨rfl,rfl⟩⟩,?_⟩
    rintro id ⟨o,ho⟩
    obtain ⟨rfl,hv⟩ := (h id o).mp ho
    exact (Option.some.inj hv).symm
  · rintro ⟨id,⟨o,ho⟩,-⟩
    exact ⟨o,((h id o).mp ho).2⟩

/-- Whatever a transport reports, and whenever it does, the tables agree. -/
theorem registry_consistent
    (h : Reachable env s) :
    RegistryConsistent s := by
  have hc := reachable_consistent h
  have hserver : ∀ u id o, s.Entry .TypeServer u id o ↔
      id = o ∧ s.m_tunnelProxyServerConnections.value u = some o := by
    intro u id o
    rw [hc.entry_iff,hc.server_iff,isServer]
  have hclient : ∀ u id o, s.Entry .TypeClient u id o ↔
      id = o ∧ s.m_tunnelProxyClientConnections.value u = some o := by
    intro u id o
    rw [hc.entry_iff,hc.client_iff,isClient]
  have hserves : ∀ {u server}, s.m_tunnelProxyServerConnections.value u = some server →
      serves [] s server := by
    intro u server hv
    obtain ⟨hl,hs,-⟩ := (hc.server_iff u server).mp hv
    exact ⟨hs,.inl hl⟩
  refine ⟨?_,?_,?_,?_,?_,?_,?_,?_,?_,?_⟩
  · exact fun u => unique_entry (hserver u)
  · intro u c id o hv ho
    obtain ⟨-,ho⟩ := (hserver u id o).mp ho
    obtain rfl := Option.some.inj (hv.symm.trans ho)
    exact hc.serverTransport c (hserves hv)
  · exact fun u => unique_entry (hclient u)
  · intro u c id o hv ho
    obtain ⟨-,ho⟩ := (hclient u id o).mp ho
    obtain rfl := Option.some.inj (hv.symm.trans ho)
    obtain ⟨hl,ht,-⟩ := (hc.client_iff u c).mp hv
    exact (hc.clientTransport c hl ht).1
  · rintro u ⟨hs,ht⟩
    rcases hc.disjoint u with hn | hn
    · simp [QHash.contains,hn] at hs
    · simp [QHash.contains,hn] at ht
  · intro c server hto
    obtain ⟨hl,ht,⟨hs,hsl⟩,hv⟩ := hc.attached c server hto
    rw [(hc.clientTransport c hl ht).2]
    exact ⟨hv,_,(hc.server_iff _ server).mpr ⟨hsl.resolve_right (by simp),hs,rfl⟩⟩
  · intro u server u' c hs hv
    obtain ⟨hl,ht,hto,-⟩ := hc.listed server u' c (hserves hs) hv
    exact ⟨⟨_,(hc.client_iff _ c).mpr ⟨hl,ht,rfl⟩⟩,hto⟩
  · intro u server a c hs hv
    obtain ⟨hl,ht,hto,-⟩ := hc.addressed server a c (hserves hs) hv
    exact ⟨⟨_,(hc.client_iff _ c).mpr ⟨hl,ht,rfl⟩⟩,hto⟩
  · exact hc.jsonClients_nodup
  · intro o
    rw [hc.jsonClients]
    constructor
    · rintro (hl | hm)
      · exact ⟨o,hl⟩
      · simp at hm
    · rintro ⟨id,hv⟩
      have ho := hc.named id o hv
      subst ho
      exact .inl hv

section Run

def registerServerRequest : QVariantMap :=
  [("id",.ofNat 0),("method",.string "TunnelProxy.RegisterServer"),
    ("params",.map [("serverName",.string "server"),("serverUuid",.string (uuidText 5))])]

def registerClientRequest : QVariantMap :=
  [("id",.ofNat 0),("method",.string "TunnelProxy.RegisterClient"),
    ("params",.map [("clientName",.string "client"),("clientUuid",.string (uuidText 7)),
      ("serverUuid",.string (uuidText 5))])]

/-- A proxy whose transports report each kill at once if `atOnce` holds, and later otherwise. -/
def sampleEnvironment (atOnce : Bool) : Environment where
  toQt := Qt.onDocuments [registerServerRequest,registerClientRequest]
  serverNameString := "nymea-remoteproxy"
  serverVersionString := "1.0.0"
  apiVersionString := "0.5"
  serverName := "proxy"
  inactiveTimeout := 8000
  reportsAtOnce := fun _ => atOnce
  order := id
  order_perm := fun _ => .refl _

def request (atOnce : Bool) (m : QVariantMap) : QByteArray :=
  (sampleEnvironment atOnce).toJson m ++ [JsonPackets.newline]

def sampleEvents (atOnce : Bool) : List Event :=
  [.clientConnected ⟨1⟩ "10.0.0.1",.clientConnected ⟨2⟩ "10.0.0.2",
    .dataAvailable ⟨1⟩ (request atOnce registerServerRequest),
    .dataAvailable ⟨2⟩ (request atOnce registerClientRequest),.dataAvailable ⟨2⟩ [0xC0,0x01]]

theorem registry_consistent_disconnect :
    RegistryConsistent
      (new.run (sampleEnvironment true) (sampleEvents true ++ [.clientDisconnected ⟨1⟩])) :=
  registry_consistent (Reachable.new.run (by decide +kernel))

end Run

end RemoteProxy.TunnelProxyServer
