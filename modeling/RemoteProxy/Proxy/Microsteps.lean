import Mathlib.Logic.Relation
import RemoteProxy.Proxy.TunnelProxyServer

namespace RemoteProxy.TunnelProxyServer

variable (env : Environment)

def live (s : TunnelProxyServer) (o : ObjectId) : Prop := s.m_proxyClients.value o = some o

def isServer (s : TunnelProxyServer) (o : ObjectId) : Prop := (s.client o).m_type = .TypeServer

def isClient (s : TunnelProxyServer) (o : ObjectId) : Prop := (s.client o).m_type = .TypeClient

/-- `dying` lists the clients whose disconnect is being handled, the innermost first: they have left
`m_proxyClients`, and the clients of a server among them are being detached one by one. -/
abbrev Config := List ObjectId × TunnelProxyServer

def serves (dying : List ObjectId) (s : TunnelProxyServer) (o : ObjectId) : Prop :=
  s.isServer o ∧ (s.live o ∨ o ∈ dying)

structure SameRegistry (s s' : TunnelProxyServer) : Prop where
  proxyClients : s'.m_proxyClients = s.m_proxyClients
  serverConnections : s'.m_tunnelProxyServerConnections = s.m_tunnelProxyServerConnections
  clientConnections : s'.m_tunnelProxyClientConnections = s.m_tunnelProxyClientConnections
  jsonClients : s'.m_clients = s.m_clients
  type : ∀ o, (s'.client o).m_type = (s.client o).m_type
  uuid : ∀ o, (s'.client o).m_uuid = (s.client o).m_uuid
  serverConnection : s'.serverConnection = s.serverConnection
  clientConnection : s'.clientConnection = s.clientConnection
  clientIds : s'.clientIds = s.clientIds

structure Consistent (dying : List ObjectId) (s : TunnelProxyServer) : Prop where
  named : ∀ id o, s.m_proxyClients.value id = some o → o = id
  announced : ∀ o, s.live o ∨ o ∈ dying → o ∈ s.clientIds
  gone : ∀ o ∈ dying, ¬s.live o
  dying_nodup : dying.Nodup
  server_iff : ∀ u o, s.m_tunnelProxyServerConnections.value u = some o ↔
    s.live o ∧ s.isServer o ∧ (s.client o).m_uuid = u
  client_iff : ∀ u o, s.m_tunnelProxyClientConnections.value u = some o ↔
    s.live o ∧ s.isClient o ∧ (s.client o).m_uuid = u
  disjoint : ∀ u, s.m_tunnelProxyServerConnections.value u = none ∨
    s.m_tunnelProxyClientConnections.value u = none
  serverTransport : ∀ o, serves dying s o → (s.serverConnection o).m_transportClient = o
  clientTransport : ∀ o, s.live o → s.isClient o →
    (s.clientConnection o).m_transportClient = o ∧
      (s.clientConnection o).m_clientUuid = (s.client o).m_uuid
  attached : ∀ o server, (s.clientConnection o).m_serverConnection = some server →
    s.live o ∧ s.isClient o ∧ serves dying s server ∧
      (s.serverConnection server).m_clientConnections.value (s.client o).m_uuid = some o
  listed : ∀ server u o, serves dying s server →
    (s.serverConnection server).m_clientConnections.value u = some o →
      s.live o ∧ s.isClient o ∧ (s.clientConnection o).m_serverConnection = some server ∧
        (s.client o).m_uuid = u
  addressed : ∀ server a o, serves dying s server →
    (s.serverConnection server).getClientConnection a = some o →
      s.live o ∧ s.isClient o ∧ (s.clientConnection o).m_serverConnection = some server ∧
        (s.clientConnection o).m_socketAddress = a
  jsonClients_nodup : s.m_clients.Nodup
  jsonClients : ∀ o, o ∈ s.m_clients ↔ s.live o ∨ o ∈ dying

def takeServer (s : TunnelProxyServer) (o : ObjectId) : TunnelProxyServer :=
  { s.take o with m_tunnelProxyServerConnections :=
    s.m_tunnelProxyServerConnections.remove (s.client o).m_uuid }

def takeClient (s : TunnelProxyServer) (o : ObjectId) : TunnelProxyServer :=
  { s.take o with m_tunnelProxyClientConnections :=
    s.m_tunnelProxyClientConnections.remove (s.client o).m_uuid }

section Preservation

variable {dying : List ObjectId} {s s' : TunnelProxyServer}

theorem SameRegistry.refl (s : TunnelProxyServer) : SameRegistry s s :=
  ⟨rfl,rfl,rfl,rfl,fun _ => rfl,fun _ => rfl,rfl,rfl,rfl⟩

theorem SameRegistry.trans {t : TunnelProxyServer} (h : SameRegistry s s')
    (h' : SameRegistry s' t) : SameRegistry s t :=
  ⟨h'.1.trans h.1,h'.2.trans h.2,h'.3.trans h.3,h'.4.trans h.4,fun o => (h'.5 o).trans (h.5 o),
    fun o => (h'.6 o).trans (h.6 o),h'.7.trans h.7,h'.8.trans h.8,h'.9.trans h.9⟩

theorem SameRegistry.symm (h : SameRegistry s s') : SameRegistry s' s :=
  ⟨h.proxyClients.symm,h.serverConnections.symm,h.clientConnections.symm,h.jsonClients.symm,
    fun o => (h.type o).symm,fun o => (h.uuid o).symm,h.serverConnection.symm,
    h.clientConnection.symm,h.clientIds.symm⟩

theorem SameRegistry.setClient (s : TunnelProxyServer) {o : ObjectId} {c : TunnelProxyClient}
    (htype : c.m_type = (s.client o).m_type) (huuid : c.m_uuid = (s.client o).m_uuid) :
    SameRegistry s (s.setClient o c) := by
  refine ⟨rfl,rfl,rfl,rfl,?_,?_,rfl,rfl,rfl⟩
  · intro x
    rcases eq_or_ne x o with rfl | hx
    · simp [htype]
    · simp [hx]
  · intro x
    rcases eq_or_ne x o with rfl | hx
    · simp [huuid]
    · simp [hx]

theorem SameRegistry.emit (s : TunnelProxyServer) (x : Output) : SameRegistry s (s.emit x) :=
  ⟨rfl,rfl,rfl,rfl,fun _ => rfl,fun _ => rfl,rfl,rfl,rfl⟩

theorem SameRegistry.counted (s : TunnelProxyServer) (n : Int32) :
    SameRegistry s { s with m_troughputCounter := n } :=
  ⟨rfl,rfl,rfl,rfl,fun _ => rfl,fun _ => rfl,rfl,rfl,rfl⟩

theorem SameRegistry.sendData (s : TunnelProxyServer) (o : ObjectId) (m : Message)
    (data : QByteArray) : SameRegistry s (s.sendData o m data) := by
  have hc : SameRegistry s (s.setClient o ((s.client o).addTxDataCount data.length)) :=
    SameRegistry.setClient s rfl rfl
  exact hc.trans (SameRegistry.emit _ _)

theorem SameRegistry.live_iff (h : SameRegistry s s') (o : ObjectId) : s'.live o ↔ s.live o := by
  simp only [live,h.proxyClients]

theorem SameRegistry.isServer_iff (h : SameRegistry s s') (o : ObjectId) :
    s'.isServer o ↔ s.isServer o := by
  simp only [isServer,h.type]

theorem SameRegistry.isClient_iff (h : SameRegistry s s') (o : ObjectId) :
    s'.isClient o ↔ s.isClient o := by
  simp only [isClient,h.type]

theorem SameRegistry.serves_iff (h : SameRegistry s s') (o : ObjectId) :
    serves dying s' o ↔ serves dying s o := by
  simp only [serves,h.live_iff,h.isServer_iff]

theorem Consistent.congr (hs : SameRegistry s s') (h : Consistent dying s) :
    Consistent dying s' := by
  constructor
  · simpa only [hs.proxyClients] using h.named
  · simpa only [hs.live_iff,hs.clientIds] using h.announced
  · simpa only [hs.live_iff] using h.gone
  · exact h.dying_nodup
  · simpa only [hs.serverConnections,hs.live_iff,hs.isServer_iff,hs.uuid] using h.server_iff
  · simpa only [hs.clientConnections,hs.live_iff,hs.isClient_iff,hs.uuid] using h.client_iff
  · simpa only [hs.serverConnections,hs.clientConnections] using h.disjoint
  · simpa only [hs.serves_iff,hs.serverConnection] using h.serverTransport
  · simpa only [hs.live_iff,hs.isClient_iff,hs.clientConnection,hs.uuid] using h.clientTransport
  · simpa only [hs.live_iff,hs.isClient_iff,hs.clientConnection,hs.serverConnection,hs.uuid,
      hs.serves_iff] using h.attached
  · simpa only [hs.live_iff,hs.isClient_iff,hs.clientConnection,hs.serverConnection,hs.uuid,
      hs.serves_iff] using h.listed
  · simpa only [hs.live_iff,hs.isClient_iff,hs.clientConnection,hs.serverConnection,
      hs.serves_iff] using h.addressed
  · simpa only [hs.jsonClients] using h.jsonClients_nodup
  · simpa only [hs.jsonClients,hs.live_iff] using h.jsonClients

theorem Consistent.uuid_inj (h : Consistent dying s) {o o' : ObjectId} (ho : s.live o)
    (ho' : s.live o') (hc : s.isClient o) (hc' : s.isClient o')
    (hu : (s.client o).m_uuid = (s.client o').m_uuid) : o = o' := by
  have h1 := (h.client_iff _ o).mpr ⟨ho,hc,rfl⟩
  have h2 := (h.client_iff _ o').mpr ⟨ho',hc',rfl⟩
  rw [hu] at h1
  exact Option.some.inj (h1.symm.trans h2)

theorem isServer_not_isClient {o : ObjectId} (h : s.isServer o) : ¬s.isClient o := by
  simp only [isServer,isClient] at *
  rw [h]
  decide

theorem live_take (s : TunnelProxyServer) (x o : ObjectId) :
    (s.take o).live x ↔ x ≠ o ∧ s.live x := by
  simp only [live,take,QHash.value_remove]
  split
  · simp_all
  · simp_all

theorem Consistent.unregister (h : Consistent dying s) {server client : ObjectId}
    (hlive : s.live client) (hclient : s.isClient client)
    (hserver : (s.clientConnection client).m_serverConnection = some server) :
    Consistent dying (s.unregisterClientConnection server client) := by
  obtain ⟨htransport,huuid⟩ := h.clientTransport client hlive hclient
  have hsc : ∀ x, ((s.unregisterClientConnection server client).serverConnection x) =
      if x = server then ((s.serverConnection server).unregisterClientConnection
        (s.clientConnection client)).1 else s.serverConnection x := by
    intro x
    simp [unregisterClientConnection,Function.update_apply]
  have hcc : ∀ x, ((s.unregisterClientConnection server client).clientConnection x) =
      if x = client then ((s.serverConnection server).unregisterClientConnection
        (s.clientConnection client)).2 else s.clientConnection x := by
    intro x
    simp [unregisterClientConnection,Function.update_apply]
  constructor
  · exact h.named
  · exact h.announced
  · exact h.gone
  · exact h.dying_nodup
  · exact h.server_iff
  · exact h.client_iff
  · exact h.disjoint
  · intro o ho
    rw [hsc]
    split
    · next e => subst e; exact h.serverTransport o ho
    · exact h.serverTransport o ho
  · intro o ho hc
    rw [hcc]
    split
    · next e => subst e; exact ⟨htransport,huuid⟩
    · exact h.clientTransport o ho hc
  · intro o so hs
    rw [hcc] at hs
    split at hs
    · simp at hs
    · next hne =>
      obtain ⟨ho,hc,hserves,hval⟩ := h.attached o so hs
      refine ⟨ho,hc,hserves,?_⟩
      rw [hsc]
      split
      · next e =>
        subst e
        rw [TunnelProxyServerConnection.clientConnection_unregister,if_neg]
        · exact hval
        · intro e
          exact hne (h.uuid_inj ho hlive hc hclient (e.trans huuid))
      · exact hval
  · intro so u o hs hval
    rw [hsc] at hval
    have hold : (s.serverConnection so).m_clientConnections.value u = some o ∧
        (so = server → u ≠ (s.client client).m_uuid) := by
      split at hval
      · next e =>
        subst e
        rw [TunnelProxyServerConnection.clientConnection_unregister,huuid] at hval
        split at hval
        · simp at hval
        · next hu => exact ⟨hval,fun _ => hu⟩
      · next hne => exact ⟨hval,fun e => absurd e hne⟩
    obtain ⟨ho,hc,hso,hu⟩ := h.listed so u o hs hold.1
    refine ⟨ho,hc,?_,hu⟩
    rw [hcc,if_neg]
    · exact hso
    · rintro rfl
      exact hold.2 (Option.some.inj (hso.symm.trans hserver)) hu.symm
  · intro so a o hs hval
    rw [hsc] at hval
    have hold : (s.serverConnection so).getClientConnection a = some o ∧
        (so = server → a ≠ (s.clientConnection client).m_socketAddress) := by
      split at hval
      · next e =>
        subst e
        rw [TunnelProxyServerConnection.getClientConnection_unregister] at hval
        split at hval
        · simp at hval
        · next ha => exact ⟨hval,fun _ => ha⟩
      · next hne => exact ⟨hval,fun e => absurd e hne⟩
    obtain ⟨ho,hc,hso,ha⟩ := h.addressed so a o hs hold.1
    have hne : o ≠ client := by
      rintro rfl
      exact hold.2 (Option.some.inj (hso.symm.trans hserver)) ha.symm
    rw [hcc,if_neg hne]
    exact ⟨ho,hc,hso,ha⟩
  · exact h.jsonClients_nodup
  · exact h.jsonClients

theorem Consistent.leave (h : Consistent dying s) {o : ObjectId} (hlive : s.live o)
    (hdetached : s.isClient o → (s.clientConnection o).m_serverConnection = none)
    {serverConnections clientConnections : QHash QUuid ObjectId}
    (hserver : ∀ u x, serverConnections.value u = some x ↔
      x ≠ o ∧ s.m_tunnelProxyServerConnections.value u = some x)
    (hclient : ∀ u x, clientConnections.value u = some x ↔
      x ≠ o ∧ s.m_tunnelProxyClientConnections.value u = some x) :
    Consistent (o :: dying)
      { s.take o with
        m_tunnelProxyServerConnections := serverConnections
        m_tunnelProxyClientConnections := clientConnections } := by
  generalize hs' : ({ s.take o with
        m_tunnelProxyServerConnections := serverConnections
        m_tunnelProxyClientConnections := clientConnections } : TunnelProxyServer) = s'
  have hl : ∀ x, s'.live x ↔ x ≠ o ∧ s.live x := by
    subst hs'
    exact fun x => live_take s x o
  have hisServer : ∀ x, s'.isServer x ↔ s.isServer x := by subst hs'; exact fun _ => Iff.rfl
  have hisClient : ∀ x, s'.isClient x ↔ s.isClient x := by subst hs'; exact fun _ => Iff.rfl
  have hserves : ∀ x, serves (o :: dying) s' x ↔ serves dying s x := by
    intro x
    simp only [serves,hl,hisServer,List.mem_cons]
    rcases eq_or_ne x o with rfl | hx
    · exact and_congr_right fun _ => by simp [hlive]
    · exact and_congr_right fun _ => by simp [hx]
  have hkept : ∀ {x so}, (s.clientConnection x).m_serverConnection = some so → s'.live x := by
    intro x so hso
    obtain ⟨hx,hc,-⟩ := h.attached x so hso
    refine (hl x).mpr ⟨?_,hx⟩
    rintro rfl
    rw [hdetached hc] at hso
    simp at hso
  subst hs'
  constructor
  · intro id x hx
    apply h.named id x
    simp only [take,QHash.value_remove] at hx
    split at hx
    · simp at hx
    · exact hx
  · intro x hx
    rw [hl,List.mem_cons] at hx
    rcases hx with ⟨-,hx⟩ | rfl | hx
    · exact h.announced x (.inl hx)
    · exact h.announced x (.inl hlive)
    · exact h.announced x (.inr hx)
  · intro x hx hlx
    rw [hl] at hlx
    rcases List.mem_cons.mp hx with rfl | hx
    · exact hlx.1 rfl
    · exact h.gone x hx hlx.2
  · exact List.nodup_cons.mpr ⟨fun hm => h.gone o hm hlive,h.dying_nodup⟩
  · intro u x
    rw [hl,and_assoc]
    exact (hserver u x).trans (and_congr_right fun _ => h.server_iff u x)
  · intro u x
    rw [hl,and_assoc]
    exact (hclient u x).trans (and_congr_right fun _ => h.client_iff u x)
  · intro u
    have hnone : ∀ {before after : QHash QUuid ObjectId},
        (∀ u x, after.value u = some x ↔ x ≠ o ∧ before.value u = some x) →
          before.value u = none → after.value u = none := by
      intro before after hiff hbefore
      refine Option.eq_none_iff_forall_ne_some.mpr fun x hx => ?_
      have := ((hiff u x).mp hx).2
      rw [hbefore] at this
      simp at this
    exact (h.disjoint u).imp (hnone hserver) (hnone hclient)
  · intro x hx
    exact h.serverTransport x ((hserves x).mp hx)
  · intro x hx hcx
    exact h.clientTransport x ((hl x).mp hx).2 hcx
  · intro x so hso
    obtain ⟨h1,h2,h3,h4⟩ := h.attached x so hso
    exact ⟨hkept hso,h2,(hserves so).mpr h3,h4⟩
  · intro so u x hs hval
    obtain ⟨h1,h2,h3,h4⟩ := h.listed so u x ((hserves so).mp hs) hval
    exact ⟨hkept h3,h2,h3,h4⟩
  · intro so a x hs hval
    obtain ⟨h1,h2,h3,h4⟩ := h.addressed so a x ((hserves so).mp hs) hval
    exact ⟨hkept h3,h2,h3,h4⟩
  · exact h.jsonClients_nodup
  · intro x
    rw [hl,List.mem_cons,← or_assoc]
    refine (h.jsonClients x).trans (or_congr_left ?_)
    rcases eq_or_ne x o with rfl | hx
    · simp [hlive]
    · simp [hx]

theorem value_remove_iff {t : QHash QUuid ObjectId} {u : QUuid} {o : ObjectId}
    (ho : t.value u = some o) (honly : ∀ u', t.value u' = some o → u = u') (u' : QUuid)
    (x : ObjectId) : (t.remove u).value u' = some x ↔ x ≠ o ∧ t.value u' = some x := by
  rw [QHash.value_remove]
  constructor
  · intro hx
    split at hx
    · simp at hx
    · next hu =>
      refine ⟨?_,hx⟩
      rintro rfl
      exact hu (honly u' hx).symm
  · rintro ⟨hne,hx⟩
    rw [if_neg]
    · exact hx
    · rintro rfl
      exact hne (Option.some.inj (hx.symm.trans ho))

theorem Consistent.takeServer (h : Consistent dying s) {o : ObjectId} (hlive : s.live o)
    (hserver : s.isServer o) : Consistent (o :: dying) (s.takeServer o) := by
  refine h.leave hlive (fun hc => absurd hc (isServer_not_isClient hserver)) ?_ ?_
  · exact value_remove_iff ((h.server_iff _ o).mpr ⟨hlive,hserver,rfl⟩)
      fun u hu => ((h.server_iff u o).mp hu).2.2
  · intro u x
    refine (and_iff_right_of_imp ?_).symm
    rintro hx rfl
    exact isServer_not_isClient hserver ((h.client_iff u x).mp hx).2.1

theorem Consistent.takeClient (h : Consistent dying s) {o : ObjectId} (hlive : s.live o)
    (hclient : s.isClient o) (hdetached : (s.clientConnection o).m_serverConnection = none) :
    Consistent (o :: dying) (s.takeClient o) := by
  refine h.leave hlive (fun _ => hdetached) ?_ ?_
  · intro u x
    refine (and_iff_right_of_imp ?_).symm
    rintro hx rfl
    exact isServer_not_isClient ((h.server_iff u x).mp hx).2.1 hclient
  · exact value_remove_iff ((h.client_iff _ o).mpr ⟨hlive,hclient,rfl⟩)
      fun u hu => ((h.client_iff u o).mp hu).2.2

theorem Consistent.take (h : Consistent dying s) {o : ObjectId} (hlive : s.live o)
    (hserver : ¬s.isServer o) (hclient : ¬s.isClient o) :
    Consistent (o :: dying) (s.take o) := by
  refine h.leave hlive (fun hc => absurd hc hclient) ?_ ?_
  · intro u x
    refine (and_iff_right_of_imp ?_).symm
    rintro hx rfl
    exact hserver ((h.server_iff u x).mp hx).2.1
  · intro u x
    refine (and_iff_right_of_imp ?_).symm
    rintro hx rfl
    exact hclient ((h.client_iff u x).mp hx).2.1

theorem Consistent.finish {o : ObjectId} (h : Consistent (o :: dying) s)
    (hdone : s.isServer o → ∀ u, (s.serverConnection o).m_clientConnections.value u = none) :
    Consistent dying (JsonRpcServer.unregisterClient s o) := by
  have hmem : o ∈ s.m_clients := (h.jsonClients o).mpr (.inr (List.mem_cons_self ..))
  have heq : JsonRpcServer.unregisterClient s o =
      { s with m_clients := s.m_clients.filter (· != o) } := by
    simp [JsonRpcServer.unregisterClient,hmem]
  have hserves : ∀ {x}, serves dying s x → serves (o :: dying) s x :=
    fun hx => ⟨hx.1,hx.2.imp_right (List.mem_cons_of_mem o)⟩
  have hnd := List.nodup_cons.mp h.dying_nodup
  have hgone : ¬s.live o := h.gone o (List.mem_cons_self ..)
  rw [heq]
  constructor
  · exact h.named
  · intro x hx
    exact h.announced x (hx.imp_right (List.mem_cons_of_mem o))
  · intro x hx
    exact h.gone x (List.mem_cons_of_mem o hx)
  · exact hnd.2
  · exact h.server_iff
  · exact h.client_iff
  · exact h.disjoint
  · intro x hx
    exact h.serverTransport x (hserves hx)
  · exact h.clientTransport
  · intro x so hso
    obtain ⟨hx,hc,⟨h1,h2⟩,hval⟩ := h.attached x so hso
    refine ⟨hx,hc,⟨h1,?_⟩,hval⟩
    rcases h2 with h2 | h2
    · exact .inl h2
    · rcases List.mem_cons.mp h2 with rfl | h2
      · have hnone := hdone h1 (s.client x).m_uuid
        rw [hval] at hnone
        simp at hnone
      · exact .inr h2
  · intro so u x hs hval
    exact h.listed so u x (hserves hs) hval
  · intro so a x hs hval
    exact h.addressed so a x (hserves hs) hval
  · exact h.jsonClients_nodup.filter _
  · intro x
    simp only [List.mem_filter,bne_iff_ne,h.jsonClients,List.mem_cons]
    constructor
    · rintro ⟨hx | rfl | hx,hne⟩
      · exact .inl hx
      · exact absurd rfl hne
      · exact .inr hx
    · rintro (hx | hx)
      · exact ⟨.inl hx,by rintro rfl; exact hgone hx⟩
      · exact ⟨.inr (.inr hx),by rintro rfl; exact hnd.1 hx⟩

theorem onClientConnected_eq (h : Consistent dying s) {id : QUuid} (hid : id ∉ s.clientIds)
    (address : String) :
    onClientConnected env s id address =
      { s with
        clientIds := id :: s.clientIds
        client := Function.update s.client id
          (TunnelProxyClient.new address env.inactiveTimeout s.now)
        m_proxyClients := s.m_proxyClients.insert id id
        m_clients := s.m_clients ++ [id] } := by
  have hlive : ¬(s.live id ∨ id ∈ dying) := fun hl => hid (h.announced id hl)
  have hval : s.m_proxyClients.contains id = false := by
    rw [QHash.contains_eq_false]
    cases hv : s.m_proxyClients.value id with
    | none => rfl
    | some o =>
      have := h.named id o hv
      subst this
      exact absurd (.inl hv) hlive
  have hjson : id ∉ s.m_clients := fun hm => hlive ((h.jsonClients id).mp hm)
  simp only [onClientConnected,hval,JsonRpcServer.registerClient,setClient]
  simp [hjson]

theorem Consistent.connected (h : Consistent dying s) {id : QUuid} (hid : id ∉ s.clientIds)
    (address : String) : Consistent dying (onClientConnected env s id address) := by
  have hfresh : ∀ x, s.live x ∨ x ∈ dying → x ≠ id := by
    rintro x hx rfl
    exact hid (h.announced x hx)
  rw [onClientConnected_eq env h hid]
  generalize hs' : ({ s with
        clientIds := id :: s.clientIds
        client := Function.update s.client id
          (TunnelProxyClient.new address env.inactiveTimeout s.now)
        m_proxyClients := s.m_proxyClients.insert id id
        m_clients := s.m_clients ++ [id] } : TunnelProxyServer) = s'
  have hl : ∀ x, s'.live x ↔ x = id ∨ s.live x := by
    subst hs'
    intro x
    simp only [live,QHash.value_insert]
    split
    · next e => simp [e]
    · next e => simp [e]
  have hold : ∀ {x}, x ≠ id → s'.client x = s.client x := by
    subst hs'
    intro x hx
    simp [hx]
  have hnew : ¬s'.isServer id ∧ ¬s'.isClient id := by
    subst hs'
    simp [isServer,isClient,TunnelProxyClient.new]
  have hserver : ∀ x, s'.live x ∧ s'.isServer x ↔ s.live x ∧ s.isServer x := by
    intro x
    rcases eq_or_ne x id with rfl | hx
    · exact iff_of_false (fun hx => hnew.1 hx.2) fun hx => hfresh x (.inl hx.1) rfl
    · simp only [hl,isServer,hold hx,hx,false_or]
  have hclient : ∀ x, s'.live x ∧ s'.isClient x ↔ s.live x ∧ s.isClient x := by
    intro x
    rcases eq_or_ne x id with rfl | hx
    · exact iff_of_false (fun hx => hnew.2 hx.2) fun hx => hfresh x (.inl hx.1) rfl
    · simp only [hl,isClient,hold hx,hx,false_or]
  have huuid : ∀ {x}, s.live x → s'.client x = s.client x := fun hx => hold (hfresh _ (.inl hx))
  have hserves : ∀ x, serves dying s' x ↔ serves dying s x := by
    intro x
    rcases eq_or_ne x id with rfl | hx
    · exact iff_of_false (fun hx => hnew.1 hx.1) fun hx => hfresh x hx.2 rfl
    · simp only [serves,hl,isServer,hold hx,hx,false_or]
  have hentry : ∀ {P : Prop} x u, (s.live x ∧ P) ∧ (s'.client x).m_uuid = u ↔
      (s.live x ∧ P) ∧ (s.client x).m_uuid = u := by
    intro P x u
    exact and_congr_right fun hx => by rw [huuid hx.1]
  subst hs'
  constructor
  · intro x o hx
    simp only [QHash.value_insert] at hx
    split at hx
    · next e => exact (Option.some.inj hx).symm.trans e.symm
    · exact h.named x o hx
  · intro x hx
    rw [hl,or_assoc] at hx
    rcases hx with rfl | hx
    · exact List.mem_cons_self ..
    · exact List.mem_cons_of_mem _ (h.announced x hx)
  · intro x hx hlx
    rcases (hl x).mp hlx with rfl | hlx
    · exact hfresh x (.inr hx) rfl
    · exact h.gone x hx hlx
  · exact h.dying_nodup
  · intro u x
    rw [← and_assoc,hserver,hentry,and_assoc]
    exact h.server_iff u x
  · intro u x
    rw [← and_assoc,hclient,hentry,and_assoc]
    exact h.client_iff u x
  · exact h.disjoint
  · intro x hx
    exact h.serverTransport x ((hserves x).mp hx)
  · intro x hx hc
    obtain ⟨h1,h2⟩ := (hclient x).mp ⟨hx,hc⟩
    rw [huuid h1]
    exact h.clientTransport x h1 h2
  · intro x so hso
    obtain ⟨h1,h2,h3⟩ := h.attached x so hso
    rw [hserves,huuid h1]
    exact ⟨((hclient x).mpr ⟨h1,h2⟩).1,((hclient x).mpr ⟨h1,h2⟩).2,h3⟩
  · intro so u x hs hval
    obtain ⟨h1,h2,h3,h4⟩ := h.listed so u x ((hserves so).mp hs) hval
    rw [huuid h1]
    exact ⟨((hclient x).mpr ⟨h1,h2⟩).1,((hclient x).mpr ⟨h1,h2⟩).2,h3,h4⟩
  · intro so a x hs hval
    obtain ⟨h1,h2,h3⟩ := h.addressed so a x ((hserves so).mp hs) hval
    exact ⟨((hclient x).mpr ⟨h1,h2⟩).1,((hclient x).mpr ⟨h1,h2⟩).2,h3⟩
  · refine List.nodup_append.mpr ⟨h.jsonClients_nodup,List.nodup_singleton _,?_⟩
    intro x hx y hy
    rw [List.mem_singleton.mp hy]
    exact hfresh x ((h.jsonClients x).mp hx)
  · intro x
    rw [hl,or_assoc,List.mem_append,List.mem_singleton,h.jsonClients,or_comm]

theorem enterAs_eq (s : TunnelProxyServer) (o : ObjectId) {type : ClientType}
    (htype : type ≠ .TypeNone) (uuid : QUuid) (name : String) :
    s.enterAs o type uuid name = s.setClient o
      (((((s.client o).setType type).setUuid uuid).setName name).activateClient s.now) := by
  have hx : (s.setClient o ((((s.client o).setType type).setUuid uuid).setName name)).assertX
      (((s.setClient o ((((s.client o).setType type).setUuid uuid).setName name)).client o).m_type ≠
        .TypeNone) "TunnelProxyClient"
      ("Activate client called but the client type is not specified yet. Make sure you activate " ++
        "either a client or a server.") =
      s.setClient o ((((s.client o).setType type).setUuid uuid).setName name) := by
    simp [assertX,TunnelProxyClient.setName,TunnelProxyClient.setUuid,TunnelProxyClient.setType,
      htype]
  rw [enterAs,activateClient,hx]
  simp [setClient]

theorem activateClient_type (c : TunnelProxyClient) (now : Nat) :
    (c.activateClient now).m_type = c.m_type ∧ (c.activateClient now).m_uuid = c.m_uuid := by
  simp only [TunnelProxyClient.activateClient]
  split
  · exact ⟨rfl,rfl⟩
  · exact ⟨rfl,rfl⟩

/-- What registering as `type` under `uuid` does to the client's own entry. -/
structure Entered (s s' : TunnelProxyServer) (o : ObjectId) (type : ClientType) (uuid : QUuid) :
    Prop where
  proxyClients : s'.m_proxyClients = s.m_proxyClients
  jsonClients : s'.m_clients = s.m_clients
  clientIds : s'.clientIds = s.clientIds
  type : (s'.client o).m_type = type
  uuid : (s'.client o).m_uuid = uuid
  others : ∀ x, x ≠ o → s'.client x = s.client x

theorem Entered.live_iff {o : ObjectId} {type : ClientType} {uuid : QUuid}
    (he : Entered s s' o type uuid) (x : ObjectId) : s'.live x ↔ s.live x := by
  simp only [live,he.proxyClients]

theorem Entered.type_iff {o : ObjectId} {type : ClientType} {uuid : QUuid}
    (he : Entered s s' o type uuid) (hnone : (s.client o).m_type = .TypeNone) {t : ClientType}
    (ht : t ≠ .TypeNone) (x : ObjectId) :
    (s'.client x).m_type = t ↔ x = o ∧ type = t ∨ (s.client x).m_type = t := by
  rcases eq_or_ne x o with rfl | hx
  · rw [he.type,hnone]
    simp [ht.symm]
  · rw [he.others x hx]
    simp [hx]

theorem Entered.uuid_eq {o : ObjectId} {type : ClientType} {uuid : QUuid}
    (he : Entered s s' o type uuid) (hnone : (s.client o).m_type = .TypeNone) {x : ObjectId}
    (hx : s.isServer x ∨ s.isClient x) : (s'.client x).m_uuid = (s.client x).m_uuid := by
  rw [he.others]
  rintro rfl
  simp [isServer,isClient,hnone] at hx

theorem acceptServer_entered (s : TunnelProxyServer) (o : ObjectId) (uuid : QUuid)
    (name : String) : Entered s (s.acceptServer o uuid name) o .TypeServer uuid := by
  rw [acceptServer,enterAs_eq s o (by decide)]
  refine ⟨rfl,rfl,rfl,?_,?_,?_⟩
  · simp only [setServerConnection_client,setClient_client,Function.update_self]
    exact (activateClient_type _ _).1
  · simp only [setServerConnection_client,setClient_client,Function.update_self]
    exact (activateClient_type _ _).2
  · intro x hx
    simp [hx]

theorem acceptServer_serverConnection (s : TunnelProxyServer) (o : ObjectId) (uuid : QUuid)
    (name : String) : (s.acceptServer o uuid name).serverConnection =
      Function.update s.serverConnection o (TunnelProxyServerConnection.new o uuid name) := by
  rw [acceptServer,enterAs_eq s o (by decide)]
  rfl

theorem acceptServer_clientConnection (s : TunnelProxyServer) (o : ObjectId) (uuid : QUuid)
    (name : String) : (s.acceptServer o uuid name).clientConnection = s.clientConnection := by
  rw [acceptServer,enterAs_eq s o (by decide)]
  rfl

theorem acceptServer_tables (s : TunnelProxyServer) (o : ObjectId) (uuid : QUuid) (name : String) :
    (s.acceptServer o uuid name).m_tunnelProxyServerConnections =
        s.m_tunnelProxyServerConnections.insert uuid o ∧
      (s.acceptServer o uuid name).m_tunnelProxyClientConnections =
        s.m_tunnelProxyClientConnections := by
  rw [acceptServer,enterAs_eq s o (by decide)]
  exact ⟨rfl,rfl⟩

theorem value_insert_iff {t : QHash QUuid ObjectId} {u : QUuid} {o : ObjectId}
    (hfree : t.value u = none) (u' : QUuid) (x : ObjectId) :
    QHash.value (t.insert u o) u' = some x ↔ u' = u ∧ x = o ∨ t.value u' = some x := by
  rw [QHash.value_insert]
  split
  · next e =>
    subst e
    simp only [hfree,Option.some.injEq,true_and,reduceCtorEq,or_false,eq_comm]
  · next e => simp [e]

theorem Consistent.serverAccepted (h : Consistent dying s) {o : ObjectId} (hlive : s.live o)
    (htype : (s.client o).m_type = .TypeNone) {uuid : QUuid}
    (hserver : s.m_tunnelProxyServerConnections.value uuid = none)
    (hclient : s.m_tunnelProxyClientConnections.value uuid = none) (name : String) :
    Consistent dying (s.acceptServer o uuid name) := by
  have he := acceptServer_entered s o uuid name
  have hsc := acceptServer_serverConnection s o uuid name
  have hcc := acceptServer_clientConnection s o uuid name
  obtain ⟨hst,hct⟩ := acceptServer_tables s o uuid name
  generalize s.acceptServer o uuid name = s' at *
  have hl := he.live_iff
  have hne : ∀ {x}, s.isServer x → x ≠ o := by
    rintro x hx rfl
    simp [isServer,htype] at hx
  have hisServer : ∀ x, s'.isServer x ↔ x = o ∨ s.isServer x := by
    intro x
    simpa [isServer] using he.type_iff htype (by decide : ClientType.TypeServer ≠ .TypeNone) x
  have hisClient : ∀ x, s'.isClient x ↔ s.isClient x := by
    intro x
    simpa [isClient] using he.type_iff htype (by decide : ClientType.TypeClient ≠ .TypeNone) x
  have huuid : ∀ {x}, s.isServer x ∨ s.isClient x → (s'.client x).m_uuid = (s.client x).m_uuid :=
    fun hx => he.uuid_eq htype hx
  have hserves : ∀ x, serves dying s' x ↔ x = o ∨ serves dying s x := by
    intro x
    simp only [serves,hl,hisServer]
    rcases eq_or_ne x o with rfl | hx
    · simp [hlive]
    · simp [hx]
  constructor
  · rw [he.proxyClients]
    exact h.named
  · intro x hx
    rw [he.clientIds]
    rw [hl] at hx
    exact h.announced x hx
  · intro x hx hlx
    exact h.gone x hx ((hl x).mp hlx)
  · exact h.dying_nodup
  · intro u x
    rw [hst,value_insert_iff hserver,h.server_iff,hl,hisServer]
    constructor
    · rintro (⟨rfl,rfl⟩ | ⟨h1,h2,rfl⟩)
      · exact ⟨hlive,.inl rfl,he.uuid⟩
      · exact ⟨h1,.inr h2,huuid (.inl h2)⟩
    · rintro ⟨h1,rfl | h2,h3⟩
      · exact .inl ⟨h3.symm.trans he.uuid,rfl⟩
      · exact .inr ⟨h1,h2,(huuid (.inl h2)).symm.trans h3⟩
  · intro u x
    rw [hct,h.client_iff,hl,hisClient]
    refine and_congr_right fun _ => and_congr_right fun hx => ?_
    rw [huuid (.inr hx)]
  · intro u
    rw [hst,hct,QHash.value_insert]
    split
    · next e => subst e; exact .inr hclient
    · exact h.disjoint u
  · intro x hx
    rw [hsc]
    rcases (hserves x).mp hx with rfl | hx
    · rw [Function.update_self]
      rfl
    · rw [Function.update_of_ne (hne hx.1)]
      exact h.serverTransport x hx
  · intro x hx hc
    rw [hisClient] at hc
    rw [hcc,huuid (.inr hc)]
    exact h.clientTransport x ((hl x).mp hx) hc
  · intro x so hso
    rw [hcc] at hso
    obtain ⟨hx,hc,h1,h2⟩ := h.attached x so hso
    rw [hl,hisClient,hserves,hsc,Function.update_of_ne (hne h1.1),huuid (.inr hc)]
    exact ⟨hx,hc,.inr h1,h2⟩
  · intro so u x hx hval
    rw [hsc] at hval
    rcases (hserves so).mp hx with rfl | hx
    · simp [TunnelProxyServerConnection.new] at hval
    · rw [Function.update_of_ne (hne hx.1)] at hval
      obtain ⟨h1,h2,h3⟩ := h.listed so u x hx hval
      rw [hl,hisClient,hcc,huuid (.inr h2)]
      exact ⟨h1,h2,h3⟩
  · intro so a x hx hval
    rw [hsc] at hval
    rcases (hserves so).mp hx with rfl | hx
    · simp [TunnelProxyServerConnection.new,TunnelProxyServerConnection.getClientConnection] at hval
    · rw [Function.update_of_ne (hne hx.1)] at hval
      obtain ⟨h1,h2,h3⟩ := h.addressed so a x hx hval
      rw [hl,hisClient,hcc]
      exact ⟨h1,h2,h3⟩
  · rw [he.jsonClients]
    exact h.jsonClients_nodup
  · intro x
    rw [he.jsonClients,hl]
    exact h.jsonClients x

theorem SameRegistry.assertX (s : TunnelProxyServer) (condition : Bool) (place what : String) :
    SameRegistry s (s.assertX condition place what) := by
  rw [TunnelProxyServer.assertX]
  split
  · exact SameRegistry.refl s
  · exact SameRegistry.emit s _

section Attach

variable (s) (o : ObjectId) (uuid : QUuid) (name : String) (server : ObjectId)

def registered : TunnelProxyServerConnection × TunnelProxyClientConnection :=
  (s.serverConnection server).registerClientConnection server o
    ((TunnelProxyClientConnection.new o uuid name).setServerConnection
      (some (server,(s.serverConnection server).m_serverUuid)))

theorem attachClient_eq :
    s.attachClient o uuid name server =
      let t := { s.setClient o
          (((((s.client o).setType .TypeClient).setUuid uuid).setName name).activateClient s.now) with
        clientConnection := Function.update s.clientConnection o
          ((TunnelProxyClientConnection.new o uuid name).setServerConnection
            (some (server,(s.serverConnection server).m_serverUuid)))
        m_tunnelProxyClientConnections := s.m_tunnelProxyClientConnections.insert uuid o }
      ((t.assertX (s.serverConnection server).freeAddressAsserted "TunnelProxyServerConnection"
        "no free address but the maximum of connections has been reached.").setServerConnection
          server (s.registered o uuid name server).1).setClientConnection o
            (s.registered o uuid name server).2 := by
  rw [attachClient,enterAs_eq s o (by decide),registerClientConnection]
  have ha : ∀ (t : TunnelProxyServer) (c : Bool) (p w : String),
      (t.assertX c p w).serverConnection = t.serverConnection ∧
        (t.assertX c p w).clientConnection = t.clientConnection := fun t c p w =>
    ⟨(SameRegistry.assertX t c p w).serverConnection,(SameRegistry.assertX t c p w).clientConnection⟩
  simp only [(ha _ _ _ _).1,(ha _ _ _ _).2]
  simp [setClientConnection,registered,setClient]

theorem assertX_client (s : TunnelProxyServer) (condition : Bool) (place what : String) :
    (s.assertX condition place what).client = s.client := by
  rw [TunnelProxyServer.assertX]
  split
  · rfl
  · rfl

theorem attachClient_client : (s.attachClient o uuid name server).client =
    Function.update s.client o
      (((((s.client o).setType .TypeClient).setUuid uuid).setName name).activateClient s.now) := by
  rw [attachClient_eq]
  exact assertX_client _ _ _ _

theorem attachClient_entered : Entered s (s.attachClient o uuid name server) o .TypeClient uuid := by
  have hc := attachClient_client (s := s) o uuid name server
  rw [attachClient_eq] at hc ⊢
  generalize ht : ({ s.setClient o
          (((((s.client o).setType .TypeClient).setUuid uuid).setName name).activateClient s.now) with
        clientConnection := _
        m_tunnelProxyClientConnections := _ } : TunnelProxyServer) = t at hc
  have ha := SameRegistry.assertX t (s.serverConnection server).freeAddressAsserted
    "TunnelProxyServerConnection" "no free address but the maximum of connections has been reached."
  subst ht
  refine ⟨ha.proxyClients,ha.jsonClients,ha.clientIds,?_,?_,?_⟩
  · rw [hc,Function.update_self]
    exact (activateClient_type _ _).1
  · rw [hc,Function.update_self]
    exact (activateClient_type _ _).2
  · intro x hx
    rw [hc,Function.update_of_ne hx]

theorem attachClient_serverConnection : (s.attachClient o uuid name server).serverConnection =
    Function.update s.serverConnection server (s.registered o uuid name server).1 := by
  rw [attachClient_eq]
  simp only [setClientConnection,setServerConnection]
  rw [(SameRegistry.assertX _ _ _ _).serverConnection]
  rfl

theorem attachClient_clientConnection : (s.attachClient o uuid name server).clientConnection =
    Function.update s.clientConnection o (s.registered o uuid name server).2 := by
  rw [attachClient_eq]
  simp only [setClientConnection,setServerConnection]
  rw [(SameRegistry.assertX _ _ _ _).clientConnection]
  exact Function.update_idem _ _ _

theorem attachClient_tables :
    (s.attachClient o uuid name server).m_tunnelProxyServerConnections =
        s.m_tunnelProxyServerConnections ∧
      (s.attachClient o uuid name server).m_tunnelProxyClientConnections =
        s.m_tunnelProxyClientConnections.insert uuid o := by
  rw [attachClient_eq]
  exact ⟨(SameRegistry.assertX _ _ _ _).serverConnections,
    (SameRegistry.assertX _ _ _ _).clientConnections⟩

end Attach

theorem Consistent.clientAccepted (h : Consistent dying s) {o : ObjectId} (hlive : s.live o)
    (htype : (s.client o).m_type = .TypeNone) {uuid : QUuid}
    (hserver : s.m_tunnelProxyServerConnections.value uuid = none)
    (hclient : s.m_tunnelProxyClientConnections.value uuid = none) {serverUuid : QUuid}
    {server : ObjectId} (hfound : s.m_tunnelProxyServerConnections.value serverUuid = some server)
    (name : String) : Consistent dying (s.attachClient o uuid name server) := by
  have he := attachClient_entered (s := s) o uuid name server
  have hsc := attachClient_serverConnection (s := s) o uuid name server
  have hcc := attachClient_clientConnection (s := s) o uuid name server
  obtain ⟨hst,hct⟩ := attachClient_tables (s := s) o uuid name server
  generalize s.attachClient o uuid name server = s' at *
  obtain ⟨hslive,hsserver,-⟩ := (h.server_iff serverUuid server).mp hfound
  have hl := he.live_iff
  have hne : ∀ {x}, s.isServer x ∨ s.isClient x → x ≠ o := by
    rintro x hx rfl
    simp [isServer,isClient,htype] at hx
  have hisServer : ∀ x, s'.isServer x ↔ s.isServer x := by
    intro x
    simpa [isServer] using he.type_iff htype (by decide : ClientType.TypeServer ≠ .TypeNone) x
  have hisClient : ∀ x, s'.isClient x ↔ x = o ∨ s.isClient x := by
    intro x
    simpa [isClient] using he.type_iff htype (by decide : ClientType.TypeClient ≠ .TypeNone) x
  have huuid : ∀ {x}, s.isServer x ∨ s.isClient x → (s'.client x).m_uuid = (s.client x).m_uuid :=
    fun hx => he.uuid_eq htype hx
  have hserves : ∀ x, serves dying s' x ↔ serves dying s x := by
    intro x
    simp only [serves,hl,hisServer]
  have hold : ∀ {x}, s.isClient x → s'.clientConnection x = s.clientConnection x := by
    intro x hx
    rw [hcc,Function.update_of_ne (hne (.inr hx))]
  have hnew : s'.clientConnection o = (s.registered o uuid name server).2 := by
    rw [hcc,Function.update_self]
  have hmaps : ∀ x, s'.serverConnection x = if x = server then (s.registered o uuid name server).1
      else s.serverConnection x := by
    intro x
    rw [hsc,Function.update_apply]
  constructor
  · rw [he.proxyClients]
    exact h.named
  · intro x hx
    rw [he.clientIds]
    rw [hl] at hx
    exact h.announced x hx
  · intro x hx hlx
    exact h.gone x hx ((hl x).mp hlx)
  · exact h.dying_nodup
  · intro u x
    rw [hst,h.server_iff,hl,hisServer]
    refine and_congr_right fun _ => and_congr_right fun hx => ?_
    rw [huuid (.inl hx)]
  · intro u x
    rw [hct,value_insert_iff hclient,h.client_iff,hl,hisClient]
    constructor
    · rintro (⟨rfl,rfl⟩ | ⟨h1,h2,rfl⟩)
      · exact ⟨hlive,.inl rfl,he.uuid⟩
      · exact ⟨h1,.inr h2,huuid (.inr h2)⟩
    · rintro ⟨h1,rfl | h2,h3⟩
      · exact .inl ⟨h3.symm.trans he.uuid,rfl⟩
      · exact .inr ⟨h1,h2,(huuid (.inr h2)).symm.trans h3⟩
  · intro u
    rw [hst,hct,QHash.value_insert]
    split
    · next e => subst e; exact .inl hserver
    · exact h.disjoint u
  · intro x hx
    rw [hmaps]
    split
    · next e => subst e; exact h.serverTransport x ((hserves x).mp hx)
    · exact h.serverTransport x ((hserves x).mp hx)
  · intro x hx hc
    rcases (hisClient x).mp hc with rfl | hc
    · rw [hnew,he.uuid]
      exact ⟨rfl,rfl⟩
    · rw [hold hc,huuid (.inr hc)]
      exact h.clientTransport x ((hl x).mp hx) hc
  · intro x so hso
    rw [hl,hisClient,hserves,hmaps]
    rcases eq_or_ne x o with rfl | hx
    · rw [hnew] at hso
      have : so = server := (Option.some.inj hso).symm
      subst this
      rw [if_pos rfl,he.uuid]
      refine ⟨hlive,.inl rfl,⟨hsserver,.inl hslive⟩,?_⟩
      exact (TunnelProxyServerConnection.clientConnection_register _ _ _ _ uuid).trans (if_pos rfl)
    · rw [hcc,Function.update_of_ne hx] at hso
      obtain ⟨hx,hc,h1,h2⟩ := h.attached x so hso
      rw [huuid (.inr hc)]
      refine ⟨hx,.inr hc,h1,?_⟩
      split
      · next e =>
        subst e
        refine (TunnelProxyServerConnection.clientConnection_register _ _ _ _ _).trans ?_
        rw [if_neg]
        · exact h2
        · intro e
          have hx' := (h.client_iff _ x).mpr ⟨hx,hc,rfl⟩
          rw [e] at hx'
          exact absurd (hx'.symm.trans hclient) (by simp)
      · exact h2
  · intro so u x hx hval
    rw [hmaps] at hval
    have hcases : (x = o ∧ so = server ∧ u = uuid) ∨
        (s.serverConnection so).m_clientConnections.value u = some x := by
      split at hval
      · next e =>
        subst e
        have hval := (TunnelProxyServerConnection.clientConnection_register _ _ _ _ u).symm.trans
          hval
        split at hval
        · next hu => exact .inl ⟨(Option.some.inj hval).symm,rfl,hu⟩
        · exact .inr hval
      · exact .inr hval
    rw [hl,hisClient]
    rcases hcases with ⟨rfl,rfl,rfl⟩ | hval
    · rw [hnew]
      exact ⟨hlive,.inl rfl,rfl,he.uuid⟩
    · obtain ⟨h1,h2,h3⟩ := h.listed so u x ((hserves so).mp hx) hval
      rw [hold h2,huuid (.inr h2)]
      exact ⟨h1,.inr h2,h3⟩
  · intro so a x hx hval
    rw [hmaps] at hval
    have hcases : (x = o ∧ so = server ∧ a = (s.serverConnection server).getFreeAddress.2) ∨
        (s.serverConnection so).getClientConnection a = some x := by
      split at hval
      · next e =>
        subst e
        have hval := (TunnelProxyServerConnection.getClientConnection_register _ _ _ _ a).symm.trans
          hval
        split at hval
        · next ha => exact .inl ⟨(Option.some.inj hval).symm,rfl,ha⟩
        · exact .inr hval
      · exact .inr hval
    rw [hl,hisClient]
    rcases hcases with ⟨rfl,rfl,rfl⟩ | hval
    · rw [hnew]
      exact ⟨hlive,.inl rfl,rfl,rfl⟩
    · obtain ⟨h1,h2,h3⟩ := h.addressed so a x ((hserves so).mp hx) hval
      rw [hold h2]
      exact ⟨h1,.inr h2,h3⟩
  · rw [he.jsonClients]
    exact h.jsonClients_nodup
  · intro x
    rw [he.jsonClients,hl]
    exact h.jsonClients x

theorem SameRegistry.sendNotification (s : TunnelProxyServer) (nameSpace method : String)
    (params : QVariantMap) (o : ObjectId) :
    SameRegistry s (JsonRpcServer.sendNotification env s nameSpace method params o) := by
  have hs : SameRegistry s { s with m_notificationId := s.m_notificationId + 1 } :=
    ⟨rfl,rfl,rfl,rfl,fun _ => rfl,fun _ => rfl,rfl,rfl,rfl⟩
  exact hs.trans (SameRegistry.sendData _ _ _ _)

theorem SameRegistry.tunnelToServer (s : TunnelProxyServer) (o : ObjectId) (data : QByteArray) :
    SameRegistry s (s.tunnelToServer o data) := by
  unfold TunnelProxyServer.tunnelToServer
  split
  · exact SameRegistry.refl s
  · split
    · exact SameRegistry.assertX s _ _ _
    · refine SameRegistry.trans ?_ (SameRegistry.counted _ _)
      exact SameRegistry.sendData s _ _ _

end Preservation

def Output.quiet : Output → Prop
  | .sent _ (.notification ..) _ => False
  | .sent _ (.tunnelData ..) _ => False
  | _ => True

/-- Neither the tables nor what a server is told about its clients changes. -/
structure Quiet (s s' : TunnelProxyServer) : Prop where
  same : SameRegistry s s'
  output : ∃ new, s'.output = s.output ++ new ∧ ∀ x ∈ new, Output.quiet x

inductive Micro : Config → Config → Prop where
  | quiet {dying : List ObjectId} {s s' : TunnelProxyServer} :
      Quiet s s' → Micro (dying,s) (dying,s')
  | connected {dying : List ObjectId} {s : TunnelProxyServer} {id : QUuid} {address : String} :
      id ∉ s.clientIds → Micro (dying,s) (dying,onClientConnected env s id address)
  | serverAccepted {dying : List ObjectId} {s : TunnelProxyServer} {o : ObjectId} {uuid : QUuid}
      {name : String} : s.live o → (s.client o).m_type = .TypeNone →
      s.m_tunnelProxyServerConnections.value uuid = none →
      s.m_tunnelProxyClientConnections.value uuid = none →
      Micro (dying,s) (dying,s.acceptServer o uuid name)
  | clientAccepted {dying : List ObjectId} {s : TunnelProxyServer} {o server : ObjectId}
      {uuid serverUuid : QUuid} {name : String} : s.live o → (s.client o).m_type = .TypeNone →
      s.m_tunnelProxyServerConnections.value uuid = none →
      s.m_tunnelProxyClientConnections.value uuid = none →
      s.m_tunnelProxyServerConnections.value serverUuid = some server →
      Micro (dying,s) (dying,acceptClient env s o uuid name server)
  | tunnelled {dying : List ObjectId} {s : TunnelProxyServer} {o : ObjectId} {data : QByteArray} :
      s.live o → s.isClient o → Micro (dying,s) (dying,s.tunnelToServer o data)
  | taken {dying : List ObjectId} {s : TunnelProxyServer} {o : ObjectId} :
      s.live o → ¬s.isServer o → ¬s.isClient o → Micro (dying,s) (o :: dying,s.take o)
  | serverTaken {dying : List ObjectId} {s : TunnelProxyServer} {o : ObjectId} :
      s.live o → s.isServer o → Micro (dying,s) (o :: dying,s.takeServer o)
  | clientTaken {dying : List ObjectId} {s : TunnelProxyServer} {o : ObjectId} :
      s.live o → s.isClient o → (s.clientConnection o).m_serverConnection = none →
      Micro (dying,s) (o :: dying,s.takeClient o)
  | clientDetached {dying : List ObjectId} {s : TunnelProxyServer} {o server : ObjectId} :
      s.live o → s.isClient o → (s.clientConnection o).m_serverConnection = some server →
      Micro (dying,s) (o :: dying,detachClient env (s.takeClient o) server o)
  | dropped {dying : List ObjectId} {s : TunnelProxyServer} {o server : ObjectId} :
      server ∈ dying → s.live o → s.isClient o →
      (s.clientConnection o).m_serverConnection = some server →
      Micro (dying,s) (dying,s.unregisterClientConnection server o)
  | finished {dying : List ObjectId} {s : TunnelProxyServer} {o : ObjectId} :
      (s.isServer o → ∀ u, (s.serverConnection o).m_clientConnections.value u = none) →
      Micro (o :: dying,s) (dying,JsonRpcServer.unregisterClient s o)

theorem micro_consistent {c c' : Config} (h : Consistent c.1 c.2) (hm : Micro env c c') :
    Consistent c'.1 c'.2 := by
  cases hm with
  | quiet hq => exact h.congr hq.same
  | connected hid => exact h.connected env hid _
  | serverAccepted hlive htype hserver hclient =>
    exact h.serverAccepted hlive htype hserver hclient _
  | clientAccepted hlive htype hserver hclient hfound =>
    exact (h.clientAccepted hlive htype hserver hclient hfound _).congr
      (SameRegistry.sendNotification env _ _ _ _ _)
  | tunnelled hlive hclient => exact h.congr (SameRegistry.tunnelToServer _ _ _)
  | taken hlive hserver hclient => exact h.take hlive hserver hclient
  | serverTaken hlive hserver => exact h.takeServer hlive hserver
  | clientTaken hlive hclient hdetached => exact h.takeClient hlive hclient hdetached
  | @clientDetached _ s o server hlive hclient hserver =>
    have hu := h.unregister hlive hclient hserver
    have hd : ((s.unregisterClientConnection server o).clientConnection o).m_serverConnection =
        none := by
      simp [unregisterClientConnection]
    exact (hu.takeClient hlive hclient hd).congr (SameRegistry.sendNotification env _ _ _ _ _)
  | dropped hdying hlive hclient hserver => exact h.unregister hlive hclient hserver
  | finished hdone => exact h.finish hdone

theorem steps_consistent {c c' : Config} (h : Consistent c.1 c.2)
    (hm : Relation.ReflTransGen (Micro env) c c') : Consistent c'.1 c'.2 := by
  induction hm with
  | refl => exact h
  | tail _ hm ih => exact micro_consistent env ih hm

/-- Handlers are chains of micro steps wherever they find the tables consistent. -/
def Leads (dying : List ObjectId) (s s' : TunnelProxyServer) : Prop :=
  Consistent dying s → Relation.ReflTransGen (Micro env) (dying,s) (dying,s')

end RemoteProxy.TunnelProxyServer
