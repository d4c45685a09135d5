import RemoteProxy.Proxy.Leaving
import RemoteProxy.Proxy.Registry

namespace RemoteProxy.TunnelProxyServer

open Relation

/-- `o` is a registered client, and `server` the registered server it is attached to. -/
structure Attached (s : TunnelProxyServer) (o server : ObjectId) : Prop where
  live : s.live o
  isClient : s.isClient o
  serverLive : s.live server
  isServer : s.isServer server
  serverConnection : (s.clientConnection o).m_serverConnection = some server

structure SameEntry (s s' : TunnelProxyServer) (o : ObjectId) : Prop where
  proxyClient : s'.m_proxyClients.value o = s.m_proxyClients.value o
  type : (s'.client o).m_type = (s.client o).m_type
  uuid : (s'.client o).m_uuid = (s.client o).m_uuid
  dataBuffer : (s'.client o).m_dataBuffer = (s.client o).m_dataBuffer
  slipEnabled : (s'.client o).m_slipEnabled = (s.client o).m_slipEnabled
  socketAddress : (s'.clientConnection o).m_socketAddress = (s.clientConnection o).m_socketAddress
  serverConnection :
    (s'.clientConnection o).m_serverConnection = (s.clientConnection o).m_serverConnection

/-- The tables of a server differ at the entries of the one client that registered there, which were
nobody's before, and which may be nobody's again. -/
structure Gained (before after : TunnelProxyServerConnection) (o : ObjectId) (uuid : QUuid) :
    Prop where
  unlisted : before.m_clientConnections.value uuid = none
  vacant : before.getClientConnection before.getFreeAddress.2 = none
  transportClient : after.m_transportClient = before.m_transportClient
  serverUuid : after.m_serverUuid = before.m_serverUuid
  serverName : after.m_serverName = before.m_serverName
  clients : ∀ u, u ≠ uuid → after.m_clientConnections.value u = before.m_clientConnections.value u
  addresses : ∀ a, a ≠ before.getFreeAddress.2 →
    after.getClientConnection a = before.getClientConnection a
  client : after.m_clientConnections.value uuid = some o ∧
      after.getClientConnection before.getFreeAddress.2 = some o ∨
    after.m_clientConnections.value uuid = none ∧
      after.getClientConnection before.getFreeAddress.2 = none

variable {env : Environment} {X : ObjectId} {server : QUuid → Prop} {client : ObjectId → Prop}
  {dying : List ObjectId} {s s' t : TunnelProxyServer}

theorem SameEntry.refl (s : TunnelProxyServer) (o : ObjectId) : SameEntry s s o :=
  ⟨rfl,rfl,rfl,rfl,rfl,rfl,rfl⟩

theorem SameEntry.trans {o : ObjectId} (h : SameEntry s s' o) (h' : SameEntry s' t o) :
    SameEntry s t o :=
  ⟨h'.1.trans h.1,h'.2.trans h.2,h'.3.trans h.3,h'.4.trans h.4,h'.5.trans h.5,h'.6.trans h.6,
    h'.7.trans h.7⟩

theorem SameEntry.of_client {o : ObjectId}
    (hp : s'.m_proxyClients.value o = s.m_proxyClients.value o) (hc : s'.client o = s.client o)
    (hcc : s'.clientConnection o = s.clientConnection o) : SameEntry s s' o :=
  ⟨hp,by rw [hc],by rw [hc],by rw [hc],by rw [hc],by rw [hcc],by rw [hcc]⟩

theorem SameEntry.of_kept {o : ObjectId} (hk : Kept s s')
    (hp : s'.m_proxyClients.value o = s.m_proxyClients.value o)
    (hcc : s'.clientConnection o = s.clientConnection o) : SameEntry s s' o := by
  have hc := hk.client o
  exact ⟨hp,by rw [hc],by rw [hc],by rw [hc],by rw [hc],by rw [hcc],by rw [hcc]⟩

/-- `X` reaches, and changes, only what belongs to it and the servers in `client`. -/
def Spares (X : ObjectId) (client : ObjectId → Prop) (s s' : TunnelProxyServer) : Prop :=
  ∃ new, s'.output = s.output ++ new ∧
    (∀ x ∈ new, ∀ o ∈ Output.client x,
      o = X ∨ (s.clientConnection o).m_serverConnection = some X ∨ client o) ∧
    ∀ o, o ≠ X → SameEntry s s' o ∨
      (s.clientConnection o).m_serverConnection = some X ∧ ∃ reason, .killed o reason ∈ new

theorem Spares.refl (s : TunnelProxyServer) : Spares X client s s :=
  ⟨[],(List.append_nil _).symm,by simp,fun o _ => .inl (SameEntry.refl s o)⟩

theorem Spares.trans (h : Spares X client s s') (h' : Spares X client s' t) :
    Spares X client s t := by
  obtain ⟨new,hn,hr,he⟩ := h
  obtain ⟨new',hn',hr',he'⟩ := h'
  have hback : ∀ o, o ≠ X → (s'.clientConnection o).m_serverConnection = some X →
      (s.clientConnection o).m_serverConnection = some X := by
    intro o ho hto
    rcases he o ho with h | h
    · rw [← h.serverConnection]
      exact hto
    · exact h.1
  refine ⟨new ++ new',by rw [hn',hn,List.append_assoc],?_,?_⟩
  · intro x hx o ho
    rcases List.mem_append.mp hx with hx | hx
    · exact hr x hx o ho
    · rcases eq_or_ne o X with rfl | hne
      · exact .inl rfl
      · exact (hr' x hx o ho).imp_right (Or.imp_left (hback o hne))
  · intro o ho
    rcases he o ho with h | ⟨hto,reason,hk⟩
    · rcases he' o ho with h' | ⟨hto,reason,hk⟩
      · exact .inl (h.trans h')
      · exact .inr ⟨hback o ho hto,reason,List.mem_append_right _ hk⟩
    · exact .inr ⟨hto,reason,List.mem_append_left _ hk⟩

theorem Spares.silent (ho : s'.output = s.output) (he : ∀ o, o ≠ X → SameEntry s s' o) :
    Spares X client s s' :=
  ⟨[],by rw [ho,List.append_nil],by simp,fun o hne => .inl (he o hne)⟩

theorem Spares.tells {x : Output} (hout : s'.output = s.output ++ [x])
    (hx : ∀ o ∈ Output.client x,
      o = X ∨ (s.clientConnection o).m_serverConnection = some X ∨ client o)
    (he : ∀ o, o ≠ X → SameEntry s s' o ∨
      (s.clientConnection o).m_serverConnection = some X ∧ ∃ reason, x = .killed o reason) :
    Spares X client s s' := by
  refine ⟨[x],hout,by simpa using hx,?_⟩
  intro o ho
  exact (he o ho).imp_right fun h => ⟨h.1,h.2.imp fun _ h => by simp [h]⟩

theorem value_remove_of_ne {t : QHash QUuid ObjectId} {u u' : QUuid} (h : u' ≠ u) :
    (t.remove u).value u' = t.value u' := by
  rw [QHash.value_remove,if_neg h]

theorem unregisterClient_rest (s : TunnelProxyServer) (o : ObjectId) :
    (JsonRpcServer.unregisterClient s o).m_proxyClients = s.m_proxyClients ∧
      (JsonRpcServer.unregisterClient s o).output = s.output := by
  unfold JsonRpcServer.unregisterClient
  split
  · exact ⟨rfl,rfl⟩
  · exact ⟨rfl,rfl⟩

theorem Spares.expels {o : ObjectId} {reason : String}
    (hto : (s.clientConnection o).m_serverConnection = some X) (rest : List Output)
    (hout : s'.output = s.output ++ .killed o reason :: rest)
    (hrest : ∀ x ∈ rest, ∀ y ∈ Output.client x, y = X)
    (he : ∀ x, x ≠ X → x ≠ o → SameEntry s s' x) : Spares X client s s' := by
  refine ⟨_,hout,?_,?_⟩
  · intro x hx y hy
    rcases List.mem_cons.mp hx with rfl | hx
    · rw [Output.client,Option.mem_some] at hy
      rw [← hy]
      exact .inr (.inl hto)
    · exact .inl (hrest x hx y hy)
  · intro x hne
    rcases eq_or_ne x o with rfl | hxo
    · exact .inr ⟨hto,reason,List.mem_cons_self ..⟩
    · exact .inl (he x hne hxo)

theorem detached_transport (s : TunnelProxyServer) (o x : ObjectId) :
    ((s.unregisterClientConnection o x).serverConnection o).m_transportClient =
      (s.serverConnection o).m_transportClient := by
  simp [unregisterClientConnection]

theorem act_spares {c c' : Config} (hc : Consistent c.1 c.2)
    (hpeer : ∀ o, (c.2.clientConnection X).m_serverConnection = some o → client o)
    (h : Act env X server client c c') : Spares X client c.2 c'.2 := by
  cases h with
  | own h =>
    obtain ⟨new,hn,hq⟩ := h.output
    refine ⟨new,hn,fun x hx o ho => .inl ((hq x hx).2.1 o ho),?_⟩
    intro o ho
    refine .inl (SameEntry.of_client ?_ (h.others o ho) ?_)
    · rw [h.same.proxyClients]
    · rw [h.same.clientConnection]
  | @connected _ s address hid =>
    simp only
    rw [onClientConnected_eq env hc hid]
    refine Spares.silent rfl fun o ho => SameEntry.of_client ?_ ?_ rfl
    · rw [QHash.value_insert,if_neg ho]
    · simp [ho]
  | @serverAccepted _ s uuid name _ hlive htype =>
    have he := acceptServer_entered s X uuid name
    refine Spares.silent ?_ fun o ho => SameEntry.of_client ?_ (he.others o ho) ?_
    · rw [acceptServer,enterAs_eq _ _ (by decide)]
      rfl
    · rw [he.proxyClients]
    · rw [acceptServer_clientConnection]
  | @clientAccepted _ s o uuid serverUuid name ho hlive htype hns hnc hfound =>
    have he := attachClient_entered (s := s) X uuid name o
    have hattach : Spares X client s (s.attachClient X uuid name o) := by
      refine ⟨_,attachClient_output s X uuid name o,?_,fun x hx => .inl (SameEntry.of_client ?_
        (he.others x hx) ?_)⟩
      · intro x hx y hy
        split at hx
        · simp at hx
        · rw [List.mem_singleton.mp hx] at hy
          simp [Output.client] at hy
      · rw [he.proxyClients]
      · rw [attachClient_clientConnection,Function.update_of_ne hx]
    obtain ⟨hol,hos,-⟩ := (hc.server_iff _ o).mp hfound
    have htransport : ((s.attachClient X uuid name o).serverConnection o).m_transportClient = o := by
      rw [attachClient_serverConnection,Function.update_self]
      exact hc.serverTransport o ⟨hos,.inl hol⟩
    refine hattach.trans (Spares.tells (x := .sent _ _ _) rfl ?_ fun x _ => .inl ?_)
    · intro x hx
      rw [Output.client,Option.mem_some] at hx
      rw [← hx,htransport]
      exact .inr (.inr ho)
    · exact SameEntry.of_kept (Kept.sendNotification env _ _ _ _ _) rfl rfl
  | @tunnelled _ s data hlive hclient =>
    have he : ∀ o, o ≠ X → SameEntry s (s.tunnelToServer X data) o := by
      intro o ho
      have hs := SameRegistry.tunnelToServer s X data
      refine SameEntry.of_kept (Kept.tunnelToServer s X data) ?_ ?_
      · rw [hs.proxyClients]
      · rw [hs.clientConnection]
    rcases tunnelToServer_eq hc hlive hclient data with ⟨-,hown⟩ | ⟨o,hto,hout⟩
    · obtain ⟨new,hn,hq⟩ := hown.output
      exact ⟨new,hn,fun x hx o ho => .inl ((hq x hx).2.1 o ho),fun o ho => .inl (he o ho)⟩
    · refine Spares.tells hout ?_ fun o ho => .inl (he o ho)
      intro x hx
      rw [Output.client,Option.mem_some] at hx
      rw [← hx]
      exact .inr (.inr (hpeer o hto))
  | @forwarded _ s o data count hto =>
    refine Spares.tells (x := .sent o (.payload data) data) rfl ?_ fun x _ => .inl ?_
    · intro x hx
      rw [Output.client,Option.mem_some] at hx
      rw [← hx]
      exact .inr (.inl hto)
    · exact SameEntry.of_kept ((Kept.sendData _ _ _ _).trans (Kept.counted _ _)) rfl rfl
  | @taken _ s =>
    exact Spares.silent rfl fun o ho =>
      SameEntry.of_kept (Kept.take s X) (value_remove_of_ne ho) rfl
  | @serverTaken _ s =>
    exact Spares.silent rfl fun o ho =>
      SameEntry.of_kept (Kept.takeServer s X) (value_remove_of_ne ho) rfl
  | @clientTaken _ s =>
    exact Spares.silent rfl fun o ho =>
      SameEntry.of_kept (Kept.takeClient s X) (value_remove_of_ne ho) rfl
  | @clientDetached _ s o hlive hclient hto =>
    obtain ⟨-,-,hserves,-⟩ := hc.attached X o hto
    have htransport : ((s.takeClient X).serverConnection o).m_transportClient = o :=
      hc.serverTransport o hserves
    refine Spares.tells (x := .sent _ _ _) rfl ?_ fun x hx => .inl ?_
    · intro x hx
      rw [Output.client,Option.mem_some] at hx
      rw [← hx,detached_transport,htransport]
      exact .inr (.inr (hpeer o hto))
    · exact SameEntry.of_kept ((Kept.takeClient s X).trans (Kept.detachClient env _ o X))
        (value_remove_of_ne hx) (Function.update_of_ne hx _ _)
  | @finished _ s =>
    obtain ⟨hp,ho⟩ := unregisterClient_rest s X
    refine Spares.silent ho fun o _ => SameEntry.of_kept (Kept.unregisterClient s X) (by rw [hp]) ?_
    rw [(unregisterClient_heaps s X).2.2]
  | @expelled _ s o reason hto =>
    refine Spares.tells (x := .killed o reason) rfl ?_ fun x _ => .inl ?_
    · intro x hx
      rw [Output.client,Option.mem_some] at hx
      rw [← hx]
      exact .inr (.inl hto)
    · exact SameEntry.of_kept (Kept.requestKill s o reason) rfl rfl
  | @expelledAtOnce _ s o reason hto =>
    obtain ⟨-,-,hserves,-⟩ := hc.attached o X hto
    obtain ⟨hp,hout⟩ := unregisterClient_rest
      (detachClient env ((s.requestKill o reason).takeClient o) X o) o
    have htransport := detached_transport ((s.requestKill o reason).takeClient o) X o
    refine Spares.expels hto [.sent _ _ _] (hout.trans (List.append_assoc ..)) ?_ ?_
    · intro x hx y hy
      rw [List.mem_singleton.mp hx,Output.client,Option.mem_some] at hy
      rw [← hy,htransport]
      exact hc.serverTransport X hserves
    · intro x _ hx
      refine SameEntry.of_kept ((((Kept.requestKill s o reason).trans (Kept.takeClient _ o)).trans
        (Kept.detachClient env _ X o)).trans (Kept.unregisterClient _ o)) ?_ ?_
      · rw [hp]
        exact value_remove_of_ne hx
      · rw [(unregisterClient_heaps _ o).2.2]
        exact Function.update_of_ne hx _ _
  | @dropped _ s o _ hto =>
    apply Spares.expels hto [] (rfl : _ = s.output ++ [.killed o _]) (by simp)
    intro x _ hx
    exact SameEntry.of_kept ((Kept.unregisterClientConnection s X o).trans
      (Kept.requestKill _ o _)) rfl (Function.update_of_ne hx _ _)
  | @droppedAtOnce _ s o _ hto =>
    obtain ⟨hp,hout⟩ := unregisterClient_rest
      (((s.unregisterClientConnection X o).requestKill o "Server disconnected").takeClient o) o
    apply Spares.expels hto [] (hout : _ = s.output ++ [.killed o _]) (by simp)
    intro x _ hx
    refine SameEntry.of_kept ((((Kept.unregisterClientConnection s X o).trans
      (Kept.requestKill _ o _)).trans (Kept.takeClient _ o)).trans
        (Kept.unregisterClient _ o)) ?_ ?_
    · rw [hp]
      exact value_remove_of_ne hx
    · rw [(unregisterClient_heaps _ o).2.2]
      exact Function.update_of_ne hx _ _

/-- The next client of a server is given an address that none of its clients holds. -/
def AddressFree (s : TunnelProxyServer) (o : ObjectId) : Prop :=
  (s.serverConnection o).getClientConnection (s.serverConnection o).getFreeAddress.2 = none

theorem Consistent.unlisted (h : Consistent dying s) {o : ObjectId} {uuid serverUuid : QUuid}
    (hfound : s.m_tunnelProxyServerConnections.value serverUuid = some o)
    (hnew : s.m_tunnelProxyClientConnections.value uuid = none) :
    (s.serverConnection o).m_clientConnections.value uuid = none := by
  obtain ⟨hlive,hserver,-⟩ := (h.server_iff _ o).mp hfound
  refine Option.eq_none_iff_forall_ne_some.mpr fun c hv => ?_
  obtain ⟨hl,hc,-,hu⟩ := h.listed o uuid c ⟨hserver,.inl hlive⟩ hv
  rw [(h.client_iff uuid c).mpr ⟨hl,hc,hu⟩] at hnew
  cases hnew

/-- The tables of the servers since `s₀`: as they were, or with `X` at one of them, or with `X`
there and gone again. -/
inductive Tables (X : ObjectId) (client : ObjectId → Prop) (s₀ s : TunnelProxyServer) : Prop where
  | before :
      (∀ x, x ≠ X → s.serverConnection x = s₀.serverConnection x) →
      (s.clientConnection X).m_serverConnection = none → ¬s.isClient X → Tables X client s₀ s
  | during (o : ObjectId) (name : String) : client o → s.isClient X →
      (s₀.serverConnection o).m_clientConnections.value (s.client X).m_uuid = none →
      (∀ x, x ≠ X → s.serverConnection x =
        if x = o then (s₀.registered X (s.client X).m_uuid name o).1 else s₀.serverConnection x) →
      s.clientConnection X = (s₀.registered X (s.client X).m_uuid name o).2 → Tables X client s₀ s
  | after (o : ObjectId) (name : String) : client o → s.isClient X →
      (s₀.serverConnection o).m_clientConnections.value (s.client X).m_uuid = none →
      (∀ x, x ≠ X → s.serverConnection x =
        if x = o then ((s₀.registered X (s.client X).m_uuid name o).1.unregisterClientConnection
          (s₀.registered X (s.client X).m_uuid name o).2).1 else s₀.serverConnection x) →
      (s.clientConnection X).m_serverConnection = none → Tables X client s₀ s

theorem Tables.peer {s₀ : TunnelProxyServer} (h : Tables X client s₀ s) {o : ObjectId}
    (ho : (s.clientConnection X).m_serverConnection = some o) : client o := by
  cases h with
  | before _ hn _ => simp [hn] at ho
  | during so name hso _ _ _ hx =>
    rw [hx] at ho
    exact Option.some.inj ho ▸ hso
  | after _ _ _ _ _ _ hn => simp [hn] at ho

theorem Tables.congr {s₀ : TunnelProxyServer} (h : Tables X client s₀ s)
    (hs : ∀ x, x ≠ X → s'.serverConnection x = s.serverConnection x)
    (hx : s'.clientConnection X = s.clientConnection X)
    (htype : (s'.client X).m_type = (s.client X).m_type)
    (huuid : (s'.client X).m_uuid = (s.client X).m_uuid) : Tables X client s₀ s' := by
  have hclient : s'.isClient X ↔ s.isClient X := by rw [isClient,isClient,htype]
  cases h with
  | before hsc hn hnot =>
    exact .before (fun x hne => (hs x hne).trans (hsc x hne)) (by rw [hx,hn])
      fun h => hnot (hclient.mp h)
  | during o name ho hc hnew hsc hcc =>
    rw [← huuid] at hsc hcc hnew
    exact .during o name ho (hclient.mpr hc) hnew (fun x hne => (hs x hne).trans (hsc x hne))
      (hx.trans hcc)
  | after o name ho hc hnew hsc hn =>
    rw [← huuid] at hsc hnew
    exact .after o name ho (hclient.mpr hc) hnew (fun x hne => (hs x hne).trans (hsc x hne))
      (by rw [hx,hn])

theorem Tables.unregistered {s₀ : TunnelProxyServer} (h : Tables X client s₀ s)
    (htype : (s.client X).m_type = .TypeNone) :
    (∀ x, x ≠ X → s.serverConnection x = s₀.serverConnection x) ∧
      (s.clientConnection X).m_serverConnection = none := by
  cases h with
  | before hsc hn _ => exact ⟨hsc,hn⟩
  | during _ _ _ hc => simp [isClient,htype] at hc
  | after _ _ _ hc => simp [isClient,htype] at hc

theorem Tables.kept {s₀ : TunnelProxyServer} (h : Tables X client s₀ s) (hk : Kept s s')
    (hs : ∀ x, x ≠ X → s'.serverConnection x = s.serverConnection x)
    (hx : s'.clientConnection X = s.clientConnection X) : Tables X client s₀ s' := by
  have hc := hk.client X
  exact h.congr hs hx (by rw [hc]) (by rw [hc])

theorem act_tables {s₀ : TunnelProxyServer} {c c' : Config} (hc : Consistent c.1 c.2)
    (hid : X ∈ c.2.clientIds) (h : Act env X server client c c') (ht : Tables X client s₀ c.2) :
    Tables X client s₀ c'.2 := by
  have hself : ∀ {o}, (c.2.clientConnection o).m_serverConnection = some X → X ≠ o := by
    rintro o hto rfl
    obtain ⟨-,hclient,hserves,-⟩ := hc.attached X X hto
    exact isServer_not_isClient hserves.1 hclient
  cases h with
  | own h =>
    refine ht.congr (fun x _ => ?_) ?_ (h.same.type X) (h.same.uuid X)
    · rw [h.same.serverConnection]
    · rw [h.same.clientConnection]
  | connected hno => exact absurd hid hno
  | @serverAccepted _ s uuid name _ hlive htype =>
    obtain ⟨hsc,hn⟩ := ht.unregistered htype
    refine .before (fun x hx => ?_) ?_ (isServer_not_isClient ?_)
    · rw [acceptServer_serverConnection,Function.update_of_ne hx,hsc x hx]
    · rw [acceptServer_clientConnection,hn]
    · exact (acceptServer_entered s X uuid name).type
  | @clientAccepted _ s o uuid serverUuid name ho hlive htype hns hnc hfound =>
    obtain ⟨hsc,-⟩ := ht.unregistered htype
    have hne : o ≠ X := by
      rintro rfl
      have hserver := ((hc.server_iff _ o).mp hfound).2.1
      simp [isServer,htype] at hserver
    have hreg : s.registered X uuid name o = s₀.registered X uuid name o := by
      have hs : s.serverConnection o = s₀.serverConnection o := hsc o hne
      rw [registered,registered,hs]
    have he := attachClient_entered (s := s) X uuid name o
    have hk := (Kept.sendNotification env (s.attachClient X uuid name o) "TunnelProxy"
      "ClientConnected" (clientConnectedParams env (s.attachClient X uuid name o) X)
      ((s.attachClient X uuid name o).serverConnection o).m_transportClient).client X
    have huuid : ((acceptClient env s X uuid name o).client X).m_uuid = uuid :=
      (congrArg TunnelProxyClient.m_uuid hk).trans he.uuid
    refine .during o name ho ?_ ?_ (fun x hx => ?_) ?_
    · exact (congrArg TunnelProxyClient.m_type hk).trans he.type
    · rw [huuid,← hsc o hne]
      exact hc.unlisted hfound hnc
    · rw [huuid,← hreg]
      refine (congrFun (attachClient_serverConnection (s := s) X uuid name o) x).trans ?_
      rw [Function.update_apply,hsc x hx]
    · rw [huuid,← hreg]
      refine (congrFun (attachClient_clientConnection (s := s) X uuid name o) X).trans ?_
      rw [Function.update_self]
  | @tunnelled _ s data =>
    have hs := SameRegistry.tunnelToServer s X data
    refine ht.kept (Kept.tunnelToServer s X data) (fun x _ => ?_) ?_
    · rw [hs.serverConnection]
    · rw [hs.clientConnection]
  | forwarded => exact ht.kept ((Kept.sendData _ _ _ _).trans (Kept.counted _ _)) (fun _ _ => rfl) rfl
  | taken => exact ht.kept (Kept.take _ _) (fun _ _ => rfl) rfl
  | serverTaken => exact ht.kept (Kept.takeServer _ _) (fun _ _ => rfl) rfl
  | clientTaken => exact ht.kept (Kept.takeClient _ _) (fun _ _ => rfl) rfl
  | @clientDetached _ s o hlive hclient hto =>
    have hk := ((Kept.takeClient s X).trans (Kept.detachClient env (s.takeClient X) o X)).client X
    cases ht with
    | before _ hn _ => exact absurd (hto.symm.trans hn) (by simp)
    | after _ _ _ _ _ _ hn => exact absurd (hto.symm.trans hn) (by simp)
    | during so name hso _ hnew hsc hcc =>
      have hto' := hto
      rw [hcc] at hto'
      obtain rfl : so = o := Option.some.inj hto'
      have huuid : ((detachClient env (s.takeClient X) so X).client X).m_uuid =
          (s.client X).m_uuid := by rw [hk]
      have hne : so ≠ X := by
        rintro rfl
        exact hself hto rfl
      refine .after so name hso ?_ (huuid ▸ hnew) (fun x hx => ?_) ?_
      · rw [isClient,hk]
        exact hclient
      · have hx' : (detachClient env (s.takeClient X) so X).serverConnection x =
            Function.update s.serverConnection so ((s.serverConnection so).unregisterClientConnection
              (s.clientConnection X)).1 x := rfl
        have hso : s.serverConnection so = (s₀.registered X (s.client X).m_uuid name so).1 :=
          (hsc so hne).trans (if_pos rfl)
        have hcX : s.clientConnection X = (s₀.registered X (s.client X).m_uuid name so).2 := hcc
        apply hx'.trans
        rw [huuid,Function.update_apply,hso,hcX]
        split
        · rfl
        · next hxo => exact (hsc x hx).trans (if_neg hxo)
      · have hx' : (detachClient env (s.takeClient X) so X).clientConnection X =
            Function.update s.clientConnection X ((s.serverConnection so).unregisterClientConnection
              (s.clientConnection X)).2 X := rfl
        refine (congrArg TunnelProxyClientConnection.m_serverConnection hx').trans ?_
        rw [Function.update_self]
        rfl
  | @finished _ s =>
    obtain ⟨-,hsc,hcc⟩ := unregisterClient_heaps s X
    exact ht.kept (Kept.unregisterClient s X) (fun x _ => by rw [hsc]) (by rw [hcc])
  | expelled => exact ht.kept (Kept.requestKill _ _ _) (fun _ _ => rfl) rfl
  | @expelledAtOnce _ s o reason hto =>
    obtain ⟨-,hsc,hcc⟩ := unregisterClient_heaps
      (detachClient env ((s.requestKill o reason).takeClient o) X o) o
    refine ht.kept ((((Kept.requestKill s o reason).trans (Kept.takeClient _ o)).trans
      (Kept.detachClient env _ X o)).trans (Kept.unregisterClient _ o)) (fun x hx => ?_) ?_
    · rw [hsc]
      exact Function.update_of_ne hx _ _
    · rw [hcc]
      exact Function.update_of_ne (hself hto) _ _
  | @dropped _ s o _ hto =>
    exact ht.kept ((Kept.unregisterClientConnection s X o).trans (Kept.requestKill _ o _))
      (fun x hx => Function.update_of_ne hx _ _) (Function.update_of_ne (hself hto) _ _)
  | @droppedAtOnce _ s o _ hto =>
    obtain ⟨-,hsc,hcc⟩ := unregisterClient_heaps
      (((s.unregisterClientConnection X o).requestKill o "Server disconnected").takeClient o) o
    refine ht.kept ((((Kept.unregisterClientConnection s X o).trans
      (Kept.requestKill _ o _)).trans (Kept.takeClient _ o)).trans
        (Kept.unregisterClient _ o)) (fun x hx => ?_) ?_
    · rw [hsc]
      exact Function.update_of_ne hx _ _
    · rw [hcc]
      exact Function.update_of_ne (hself hto) _ _

theorem acts_spare {c c' : Config} (hc : Consistent c.1 c.2) (hid : X ∈ c.2.clientIds)
    (ht : Tables X client c.2 c.2) (h : ReflTransGen (Act env X server client) c c') :
    Spares X client c.2 c'.2 ∧ Tables X client c.2 c'.2 ∧ X ∈ c'.2.clientIds := by
  induction h with
  | refl => exact ⟨Spares.refl _,ht,hid⟩
  | tail hs hm ih =>
    obtain ⟨ih1,ih2,ih3⟩ := ih
    have hc' := acts_consistent hc hs
    exact ⟨ih1.trans (act_spares hc' (fun o ho => ih2.peer ho) hm),act_tables hc' ih3 hm ih2,
      act_announced hm ih3⟩

theorem Tables.gained {s₀ : TunnelProxyServer} (h : Tables X client s₀ s) :
    (¬s.isClient X ∧ ∀ o, o ≠ X → s.serverConnection o = s₀.serverConnection o) ∨
      ∃ o, client o ∧ (∀ x, x ≠ X → x ≠ o → s.serverConnection x = s₀.serverConnection x) ∧
        (o ≠ X → s.serverConnection o ≠ s₀.serverConnection o ∧
          (AddressFree s₀ o →
            Gained (s₀.serverConnection o) (s.serverConnection o) X (s.client X).m_uuid)) := by
  have hcounter : ∀ {sc sc' : TunnelProxyServerConnection},
      sc'.m_currentAddressCounter = sc.m_currentAddressCounter + 1 → sc' ≠ sc := by
    rintro sc sc' hc rfl
    have hnat := congrArg UInt16.toNat hc
    rw [UInt16.toNat_add] at hnat
    have hlt := sc'.m_currentAddressCounter.toNat_lt
    simp only [UInt16.reduceToNat,Nat.reducePow] at hnat hlt
    omega
  cases h with
  | before hsc _ hnot => exact .inl ⟨hnot,hsc⟩
  | during so name hso _ hnew hsc =>
    refine .inr ⟨so,hso,fun x hx hne => (hsc x hx).trans (if_neg hne),fun hne => ?_⟩
    rw [hsc so hne,if_pos rfl]
    refine ⟨hcounter rfl,fun hfree => ⟨hnew,hfree,rfl,rfl,rfl,?_,?_,.inl ⟨?_,?_⟩⟩⟩
    · intro u hu
      exact (TunnelProxyServerConnection.clientConnection_register _ _ _ _ u).trans (if_neg hu)
    · intro a ha
      exact (TunnelProxyServerConnection.getClientConnection_register _ _ _ _ a).trans (if_neg ha)
    · exact (TunnelProxyServerConnection.clientConnection_register _ _ _ _ _).trans (if_pos rfl)
    · exact (TunnelProxyServerConnection.getClientConnection_register _ _ _ _ _).trans (if_pos rfl)
  | after so name hso _ hnew hsc =>
    refine .inr ⟨so,hso,fun x hx hne => (hsc x hx).trans (if_neg hne),fun hne => ?_⟩
    rw [hsc so hne,if_pos rfl]
    refine ⟨hcounter rfl,fun hfree => ⟨hnew,hfree,rfl,rfl,rfl,?_,?_,.inr ⟨?_,?_⟩⟩⟩
    · intro u hu
      rw [TunnelProxyServerConnection.clientConnection_unregister]
      refine (if_neg hu).trans ?_
      exact (TunnelProxyServerConnection.clientConnection_register _ _ _ _ u).trans (if_neg hu)
    · intro a ha
      rw [TunnelProxyServerConnection.getClientConnection_unregister]
      refine (if_neg ha).trans ?_
      exact (TunnelProxyServerConnection.getClientConnection_register _ _ _ _ a).trans (if_neg ha)
    · rw [TunnelProxyServerConnection.clientConnection_unregister]
      exact if_pos rfl
    · rw [TunnelProxyServerConnection.getClientConnection_unregister]
      exact if_pos rfl

structure Isolated (env : Environment) (X : ObjectId) (data : QByteArray)
    (s s' : TunnelProxyServer) : Prop where
  output : ∃ new, s'.output = s.output ++ new ∧
    (∀ x ∈ new, ∀ o ∈ Output.client x, o ≠ X → Attached s o X ∨ Attached s X o ∨
      During env s X data fun t item => RegistersClient env t X item o) ∧
    ∀ o, o ≠ X → SameEntry s s' o ∨ Attached s o X ∧ ∃ reason, .killed o reason ∈ new
  registered : ∀ u o, o ≠ X → SameEntry s s' o →
    (s'.m_tunnelProxyServerConnections.value u = some o ↔
      s.m_tunnelProxyServerConnections.value u = some o) ∧
    (s'.m_tunnelProxyClientConnections.value u = some o ↔
      s.m_tunnelProxyClientConnections.value u = some o)
  tables : ∀ o, o ≠ X → s'.serverConnection o = s.serverConnection o ∨
    (During env s X data fun t item => RegistersClient env t X item o) ∧
      Gained (s.serverConnection o) (s'.serverConnection o) X (s'.client X).m_uuid

theorem Consistent.attachedTo (h : Consistent [] s) {o so : ObjectId}
    (hto : (s.clientConnection o).m_serverConnection = some so) : Attached s o so := by
  obtain ⟨hl,hc,hserves,-⟩ := h.attached o so hto
  exact ⟨hl,hc,hserves.2.resolve_right (by simp),hserves.1,hto⟩

theorem SameEntry.registered {o : ObjectId} (h : Consistent [] s) (h' : Consistent [] s')
    (he : SameEntry s s' o) (u : QUuid) :
    (s'.m_tunnelProxyServerConnections.value u = some o ↔
      s.m_tunnelProxyServerConnections.value u = some o) ∧
    (s'.m_tunnelProxyClientConnections.value u = some o ↔
      s.m_tunnelProxyClientConnections.value u = some o) := by
  have hlive : s'.live o ↔ s.live o := by rw [live,live,he.proxyClient]
  rw [h.server_iff,h'.server_iff,h.client_iff,h'.client_iff,hlive,isServer,isServer,isClient,
    isClient,he.type,he.uuid]
  exact ⟨Iff.rfl,Iff.rfl⟩

section Registering

theorem act_isClient {c c' : Config} (hid : X ∈ c.2.clientIds) (h : Act env X server client c c')
    (hc : c.2.isClient X) : c'.2.isClient X := by
  have hnone : (c.2.client X).m_type ≠ .TypeNone := by
    rw [show (c.2.client X).m_type = .TypeClient from hc]
    decide
  rcases h.cases with ho | ⟨hno,-⟩ | ⟨-,-,-,-,htype,-⟩ | ⟨-,-,-,-,-,htype,-⟩ | hk
  · exact (ho.same.isClient_iff X).mpr hc
  · exact absurd hid hno
  · exact absurd htype hnone
  · exact absurd htype hnone
  · rw [isClient,hk.client X]
    exact hc

theorem acts_isClient {c c' : Config} (hid : X ∈ c.2.clientIds)
    (h : ReflTransGen (Act env X server client) c c') :
    X ∈ c'.2.clientIds ∧ (c.2.isClient X → c'.2.isClient X) := by
  induction h with
  | refl => exact ⟨hid,id⟩
  | tail _ hm ih => exact ⟨act_announced hm ih.1,fun hc => act_isClient ih.1 hm (ih.2 hc)⟩

theorem processDataPacket_isClient {data : QByteArray} {r : Request} {o : ObjectId}
    (hx : JsonRpcServer.request env data = some r) (hr : r.RegistersClient env s X o) :
    (JsonRpcServer.processDataPacket env s X data).isClient X := by
  have hm : Handlers.method? env r.targetNamespace r.method = some (Handlers.RegisterClient env) := by
    rw [hr.name.1,hr.name.2]
    rfl
  have haccepted : (Handlers.RegisterClient env s r.params X).1 =
      acceptClient env s X (env.toUuid (r.params.value "clientUuid"))
        (env.toString (r.params.value "clientName")) o := by
    simp only [Handlers.RegisterClient,hr.serverValid,hr.clientValid,Bool.false_eq_true,if_false]
    rw [registerClient_accepted env hr.known hr.unregistered hr.notClient hr.notServer hr.found]
  have hclient : (Handlers.RegisterClient env s r.params X).1.isClient X := by
    rw [haccepted,isClient,acceptClient,(Kept.sendNotification env _ _ _ _ _).client X]
    exact (attachClient_entered (s := s) X _ _ o).type
  have hkept : ∀ t : TunnelProxyServer, t.isClient X → ∀ condition what data,
      (JsonRpcServer.finishCall env (t.assertX condition "validating return value" what) X
        r.commandId data).isClient X := by
    intro t ht condition what data
    have hasserted : (t.assertX condition "validating return value" what).isClient X := by
      rw [isClient,assertX_client]
      exact ht
    have hsent : (JsonRpcServer.sendResponse env (t.assertX condition "validating return value" what)
        X r.commandId data).isClient X := by
      have hk : Kept (t.assertX condition "validating return value" what) (JsonRpcServer.sendResponse
        env (t.assertX condition "validating return value" what) X r.commandId data) :=
          Kept.sendData _ _ _ _
      rw [isClient,hk.client X]
      exact hasserted
    simp only [JsonRpcServer.finishCall]
    split
    · rw [isClient,((kept_leaving env).killConnection _ X _).client X]
      exact hsent
    · split
      · rw [isClient,setClient_client,Function.update_self]
        exact hsent
      · exact hsent
  rcases JsonRpcServer.processDataPacket_cases env s X data with ⟨r',hr',he⟩ | ⟨hnone,-⟩
  · obtain rfl := Option.some.inj (hx.symm.trans hr')
    rw [he]
    simp only [JsonRpcServer.invoke,JsonRpcServer.invokeMethod,hm]
    exact hkept _ hclient _ _ _
  · rw [hx] at hnone
    cases hnone

theorem handle_isClient {item : Item} {o : ObjectId} (h : RegistersClient env s X item o) :
    (handle env X s item).isClient X := by
  obtain ⟨r,hitem,hr⟩ := h
  cases item with
  | packet data => exact processDataPacket_isClient hitem hr
  | frame f =>
    rw [Item.request] at hitem
    split at hitem
    · next ha =>
      rw [handle,processFrame,if_pos ha]
      exact processDataPacket_isClient hitem hr
    · cases hitem
  | payload data => cases hitem

theorem items_isClient (hlive : s.live X) (hc : Consistent [] s) {data : QByteArray}
    {before middle after : List Item} (he : s.items X data = before ++ (middle ++ after))
    (h : (before.foldl (handle env X) (s.buffered env X data)).isClient X) :
    ((before ++ middle).foldl (handle env X) (s.buffered env X data)).isClient X := by
  induction middle using List.reverseRecOn generalizing after with
  | nil =>
    rw [List.append_nil]
    exact h
  | append_singleton middle item ih =>
    have he' : s.items X data = (before ++ middle) ++ item :: after := by
      rw [he,List.append_assoc,List.append_assoc]
      rfl
    have hsplit : s.items X data = before ++ (middle ++ item :: after) := by
      rw [he',List.append_assoc]
    have hclient := ih hsplit
    have hacts := prefix_does env hlive hc data he' hc
    have hid := (acts_isClient (hc.announced X (.inl hlive)) hacts).1
    have hitem := item_does env hlive hc data he' (acts_consistent hc hacts)
    rw [← List.append_assoc,List.foldl_concat]
    exact (acts_isClient hid hitem).2 hclient

theorem registered_isClient (hlive : s.live X) (hc : Consistent [] s) {data : QByteArray}
    {o : ObjectId} {before middle after : List Item} {item : Item}
    (he : s.items X data = before ++ item :: (middle ++ after))
    (hr : RegistersClient env (before.foldl (handle env X) (s.buffered env X data)) X item o) :
    ((before ++ item :: middle).foldl (handle env X) (s.buffered env X data)).isClient X := by
  have he' : s.items X data = (before ++ [item]) ++ (middle ++ after) := by
    rw [he,List.append_assoc]
    rfl
  have hone : ((before ++ [item]).foldl (handle env X) (s.buffered env X data)).isClient X := by
    rw [List.foldl_concat]
    exact handle_isClient hr
  have hall := items_isClient hlive hc he' hone
  rwa [List.append_assoc] at hall

theorem RegistersClient.unique {item : Item} {o o' : ObjectId}
    (h : RegistersClient env s X item o) (h' : RegistersClient env s X item o') : o = o' := by
  obtain ⟨r,hitem,hr⟩ := h
  obtain ⟨r',hitem',hr'⟩ := h'
  obtain rfl := Option.some.inj (hitem.symm.trans hitem')
  exact Option.some.inj (hr.found.symm.trans hr'.found)

theorem registersClient_unique (hlive : s.live X) (hc : Consistent [] s) {data : QByteArray}
    {o o' : ObjectId} (h : During env s X data fun t item => RegistersClient env t X item o)
    (h' : During env s X data fun t item => RegistersClient env t X item o') : o = o' := by
  have hown := received_own (X := X) s data
  have hlive := (hown.same.live_iff X).mpr hlive
  have hc := hc.congr hown.same
  have hlater : ∀ {o o' : ObjectId} {before item middle item' after},
      (s.received X data).items X data = before ++ item :: (middle ++ item' :: after) →
      RegistersClient env (before.foldl (handle env X) ((s.received X data).buffered env X data)) X
        item o →
      ¬RegistersClient env ((before ++ item :: middle).foldl (handle env X)
        ((s.received X data).buffered env X data)) X item' o' := by
    rintro o o' before item middle item' after he hr ⟨r,-,hr'⟩
    have hclient := registered_isClient hlive hc he hr
    exact absurd (hclient.symm.trans hr'.unregistered) (by decide)
  obtain ⟨before,item,after,he,hr⟩ := h
  obtain ⟨before',item',after',he',hr'⟩ := h'
  rcases List.append_eq_append_iff.mp (he.symm.trans he') with
    ⟨middle,hb,hm⟩ | ⟨middle,hb,hm⟩
  · cases middle with
    | nil =>
      rw [List.append_nil] at hb
      subst hb
      obtain ⟨rfl,-⟩ := List.cons.inj hm
      exact hr.unique hr'
    | cons x middle =>
      obtain ⟨rfl,rfl⟩ := List.cons.inj hm
      subst hb
      exact absurd hr' (hlater he hr)
  · cases middle with
    | nil =>
      rw [List.append_nil] at hb
      subst hb
      obtain ⟨rfl,-⟩ := List.cons.inj hm
      exact hr.unique hr'
    | cons x middle =>
      obtain ⟨rfl,rfl⟩ := List.cons.inj hm
      subst hb
      exact absurd hr (hlater he' hr')

end Registering

theorem client_registers_none (hclient : s.isClient X) (data : QByteArray) (o : ObjectId) :
    ¬During env s X data fun t item => RegistersClient env t X item o := by
  have hr : (s.received X data).isClient X :=
    ((received_own (X := X) s data).same.isClient_iff X).mpr hclient
  rintro ⟨before,item,after,he,r,hitem,-⟩
  have hmem : item ∈ (s.received X data).items X data := by rw [he]; simp
  have htype : ((s.received X data).client X).m_type = .TypeClient := hr
  rw [items,if_pos htype,List.mem_singleton] at hmem
  subst hmem
  cases hitem

theorem registers_isClient (hlive : s.live X) (hc : Consistent [] s) {data : QByteArray}
    {o : ObjectId} (h : During env s X data fun t item => RegistersClient env t X item o) :
    (s.step env (.dataAvailable X data)).isClient X := by
  have hown := received_own (X := X) s data
  obtain ⟨before,item,after,he,hr⟩ := h
  have hsplit : (s.received X data).items X data = before ++ item :: (after ++ []) := by
    rw [List.append_nil,he]
  have hall := registered_isClient ((hown.same.live_iff X).mpr hlive) (hc.congr hown.same) hsplit hr
  have hstep : s.step env (.dataAvailable X data) = _ := onClientDataAvailable_eq env hlive data
  rw [hstep,he]
  exact hall

theorem registersClient_ne (hlive : s.live X) (hc : Consistent [] s) {data : QByteArray}
    {o : ObjectId} (h : During env s X data fun t item => RegistersClient env t X item o) :
    o ≠ X := by
  have hown := received_own (X := X) s data
  have hc := hc.congr hown.same
  obtain ⟨before,item,after,he,r,-,hr⟩ := h
  have hacts := prefix_does env ((hown.same.live_iff X).mpr hlive) hc data he hc
  rintro rfl
  obtain ⟨-,hserver,-⟩ := ((acts_consistent hc hacts).server_iff _ o).mp hr.found
  exact absurd (hr.unregistered.symm.trans hserver) (by decide)

theorem client_isolated (hc : Consistent [] s) (hlive : s.live X) (hclient : s.isClient X)
    (data : QByteArray)
    (hreg : ∀ u o, o ≠ X → SameEntry s (s.step env (.dataAvailable X data)) o →
      ((s.step env (.dataAvailable X data)).m_tunnelProxyServerConnections.value u = some o ↔
        s.m_tunnelProxyServerConnections.value u = some o) ∧
      ((s.step env (.dataAvailable X data)).m_tunnelProxyClientConnections.value u = some o ↔
        s.m_tunnelProxyClientConnections.value u = some o)) :
    Isolated env X data s (s.step env (.dataAvailable X data)) := by
  have hown := received_own (X := X) s data
  have hr : (s.received X data).isClient X := (hown.same.isClient_iff X).mpr hclient
  have hstep : s.step env (.dataAvailable X data) =
      (s.received X data).tunnelToServer X data := by
    refine (onClientDataAvailable_eq env hlive data).trans ?_
    have htype : ((s.received X data).client X).m_type = .TypeClient := hr
    rw [items,buffered,if_pos htype,if_pos htype]
    rfl
  have hsame := hown.same.trans (SameRegistry.tunnelToServer (s.received X data) X data)
  have hspares : Spares X (fun o => (s.clientConnection X).m_serverConnection = some o) s
      ((s.received X data).tunnelToServer X data) := by
    have hreceived : Act env X (fun _ => False)
        (fun o => (s.clientConnection X).m_serverConnection = some o) ([],s)
        ([],s.received X data) := .own hown
    have htunnelled : Act env X (fun _ => False)
        (fun o => (s.clientConnection X).m_serverConnection = some o) ([],s.received X data)
        ([],(s.received X data).tunnelToServer X data) :=
      .tunnelled ((hown.same.live_iff X).mpr hlive) hr
    have hpeer : ∀ o, ((s.received X data).clientConnection X).m_serverConnection = some o →
        (s.clientConnection X).m_serverConnection = some o := by
      rw [hown.same.clientConnection]
      exact fun o ho => ho
    have hc₁ : Consistent [] (s.received X data) := hc.congr hown.same
    have h₁ := @act_spares _ _ _ _ ([],s) _ hc (fun _ ho => ho) hreceived
    have h₂ := @act_spares _ _ _ _ ([],s.received X data) _ hc₁ hpeer htunnelled
    exact h₁.trans h₂
  obtain ⟨new,hn,hsent,hentry⟩ := hspares
  rw [← hstep] at hn hentry hsame
  refine ⟨⟨new,hn,?_,?_⟩,hreg,fun o _ => .inl (by rw [hsame.serverConnection])⟩
  · intro x hx o ho hne
    exact ((hsent x hx o ho).resolve_left hne).imp hc.attachedTo fun h => .inl (hc.attachedTo h)
  · exact fun o hne => (hentry o hne).imp_right fun h => ⟨hc.attachedTo h.1,h.2⟩

theorem dataAvailable_spares (env : Environment) (hc : Consistent [] s) (hlive : s.live X) (hclient : ¬s.isClient X)
    (data : QByteArray) :
    Spares X (fun o => During env s X data fun t item => RegistersClient env t X item o) s
        (s.step env (.dataAvailable X data)) ∧
      Tables X (fun o => During env s X data fun t item => RegistersClient env t X item o) s
        (s.step env (.dataAvailable X data)) := by
  have hpeer : (s.clientConnection X).m_serverConnection = none := by
    refine Option.eq_none_iff_forall_ne_some.mpr fun o ho => ?_
    exact hclient (hc.attachedTo ho).isClient
  obtain ⟨hspares,htables,-⟩ := acts_spare hc (hc.announced X (.inl hlive))
    (.before (fun _ _ => rfl) hpeer hclient) (dataAvailable_does env X s data hc)
  exact ⟨hspares,htables⟩

theorem Isolated.addressFree {data : QByteArray}
    (hiso : Isolated env X data s (s.step env (.dataAvailable X data))) (hc : Consistent [] s)
    (hlive : s.live X) {o : ObjectId}
    (hd : During env s X data fun t item => RegistersClient env t X item o) : AddressFree s o := by
  have hclient : ¬s.isClient X := fun hx => client_registers_none hx data o hd
  rcases (dataAvailable_spares env hc hlive hclient data).2.gained with
    ⟨hnot,-⟩ | ⟨o',hd',-,hchanged⟩
  · exact absurd (registers_isClient hlive hc hd) hnot
  · obtain rfl := registersClient_unique hlive hc hd hd'
    have hne : o ≠ X := registersClient_ne hlive hc hd
    rcases hiso.tables o hne with hsame | ⟨-,hgain⟩
    · exact absurd hsame (hchanged hne).1
    · exact hgain.vacant

/-- Whatever a connection sends, it reaches nobody but those it has a tunnel to, exactly if the
address that a server gives it is free. -/
theorem tunnel_isolation_iff (h : Reachable env s) (X : ObjectId) (data : QByteArray) :
    Isolated env X data s (s.step env (.dataAvailable X data)) ↔
      (s.live X → ∀ o, (During env s X data fun t item => RegistersClient env t X item o) →
        AddressFree s o) := by
  have hc := reachable_consistent h
  have hc' := reachable_consistent (Reachable.step h (show s.Fresh (.dataAvailable X data) from trivial))
  have hreg := fun u o (_ : o ≠ X) he => SameEntry.registered (o := o) hc hc' he u
  by_cases hlive : s.live X
  · by_cases hclient : s.isClient X
    · exact iff_of_true (client_isolated hc hlive hclient data hreg)
        fun _ o hd => absurd hd (client_registers_none hclient data o)
    · refine ⟨fun hiso _ o hd => hiso.addressFree hc hlive hd,fun hfree => ?_⟩
      obtain ⟨⟨new,hn,hsent,hentry⟩,htables⟩ := dataAvailable_spares env hc hlive hclient data
      refine ⟨⟨new,hn,?_,?_⟩,hreg,fun o hne => ?_⟩
      · intro x hx o ho hne
        exact ((hsent x hx o ho).resolve_left hne).imp hc.attachedTo .inr
      · exact fun o hne => (hentry o hne).imp_right fun h => ⟨hc.attachedTo h.1,h.2⟩
      · rcases htables.gained with ⟨-,hsame⟩ | ⟨o',hd,hothers,hchanged⟩
        · exact .inl (hsame o hne)
        · rcases eq_or_ne o o' with rfl | ho
          · exact .inr ⟨hd,(hchanged hne).2 (hfree hlive o hd)⟩
          · exact .inl (hothers o hne ho)
  · have hgone : s.m_proxyClients.value X = none := by
      cases hv : s.m_proxyClients.value X with
      | none => rfl
      | some o =>
        obtain rfl := hc.named X o hv
        exact absurd hv hlive
    have hstep : s.step env (.dataAvailable X data) = s := by
      simp only [step,onClientDataAvailable,hgone]
    rw [hstep]
    refine iff_of_true ⟨⟨[],(List.append_nil _).symm,by simp,fun o _ => .inl (SameEntry.refl s o)⟩,
      ?_,?_⟩ fun hl => absurd hl hlive
    · exact fun _ _ _ _ => ⟨Iff.rfl,Iff.rfl⟩
    · exact fun _ _ => .inl rfl

theorem tunnel_isolation_iff_sample :
    Isolated (sampleEnvironment true) ⟨2⟩ (request true registerClientRequest)
        (new.run (sampleEnvironment true) ((sampleEvents true).take 3))
        ((new.run (sampleEnvironment true) ((sampleEvents true).take 3)).step (sampleEnvironment true)
          (.dataAvailable ⟨2⟩ (request true registerClientRequest))) ↔
      ((new.run (sampleEnvironment true) ((sampleEvents true).take 3)).live ⟨2⟩ →
        ∀ o, (During (sampleEnvironment true)
            (new.run (sampleEnvironment true) ((sampleEvents true).take 3)) ⟨2⟩
            (request true registerClientRequest) fun t item =>
              RegistersClient (sampleEnvironment true) t ⟨2⟩ item o) →
          AddressFree (new.run (sampleEnvironment true) ((sampleEvents true).take 3)) o) :=
  tunnel_isolation_iff (Reachable.new.run (by decide +kernel)) ⟨2⟩ (request true registerClientRequest)

end RemoteProxy.TunnelProxyServer
