import RemoteProxy.Proxy.Acts

namespace RemoteProxy.TunnelProxyServer

open Relation

variable {env : Environment} {X : ObjectId} {server : QUuid → Prop} {client : ObjectId → Prop}
  {dying : List ObjectId} {s s' t : TunnelProxyServer}

theorem unregisterClient_heaps (s : TunnelProxyServer) (o : ObjectId) :
    (JsonRpcServer.unregisterClient s o).client = s.client ∧
      (JsonRpcServer.unregisterClient s o).serverConnection = s.serverConnection ∧
      (JsonRpcServer.unregisterClient s o).clientConnection = s.clientConnection := by
  unfold JsonRpcServer.unregisterClient
  split
  · exact ⟨rfl,rfl,rfl⟩
  · exact ⟨rfl,rfl,rfl⟩

section Disconnect

theorem clientDisconnected_take (env : Environment) (h : Consistent dying s) {o : ObjectId}
    (hlive : s.live o) (hclient : s.isClient o) :
    clientDisconnected env (s.take o) o =
      match (s.clientConnection o).m_serverConnection with
      | none => s.takeClient o
      | some server => detachClient env (s.takeClient o) server o := by
  have hval : (s.take o).m_tunnelProxyClientConnections.value ((s.take o).client o).m_uuid =
      some o := (h.client_iff _ o).mpr ⟨hlive,hclient,rfl⟩
  simp only [clientDisconnected]
  rw [hval]
  rfl

theorem disconnected_client {report : TunnelProxyServer → QUuid → TunnelProxyServer} {o : ObjectId}
    (hclient : s.isClient o) : disconnected env report s o =
      JsonRpcServer.unregisterClient (clientDisconnected env s o) o := by
  have htype : (s.client o).m_type = .TypeClient := hclient
  simp [disconnected,htype]

theorem disconnected_server {report : TunnelProxyServer → QUuid → TunnelProxyServer} {o : ObjectId}
    (hserver : s.isServer o) (hkept : (serverDisconnected env report s o).client = s.client) :
    disconnected env report s o =
      JsonRpcServer.unregisterClient (serverDisconnected env report s o) o := by
  have htype : (s.client o).m_type = .TypeServer := hserver
  simp [disconnected,htype,hkept]

theorem disconnected_none {report : TunnelProxyServer → QUuid → TunnelProxyServer} {o : ObjectId}
    (htype : (s.client o).m_type = .TypeNone) :
    disconnected env report s o = JsonRpcServer.unregisterClient s o := by
  simp [disconnected,htype]

theorem within_client (env : Environment) (h : Consistent dying s) {o : ObjectId}
    (hlive : s.live o) (hclient : s.isClient o) (fuel : Nat) :
    onClientDisconnectedWithin env (fuel + 1) s o =
      JsonRpcServer.unregisterClient
        (match (s.clientConnection o).m_serverConnection with
          | none => s.takeClient o
          | some server => detachClient env (s.takeClient o) server o) o := by
  have hv : s.m_proxyClients.value o = some o := hlive
  rw [onClientDisconnectedWithin,hv]
  simp only
  rw [disconnected_client (show (s.take o).isClient o from hclient),
    clientDisconnected_take env h hlive hclient]

theorem unregister_listed (h : Consistent dying s) {server client : ObjectId}
    (hserves : serves dying s server) {clients : List ObjectId}
    (hnodup : (client :: clients).Nodup)
    (hlisted : ∀ u o, (s.serverConnection server).m_clientConnections.value u = some o ↔
      o ∈ client :: clients ∧ (s.client o).m_uuid = u) (u : QUuid) (o : ObjectId) :
    ((s.unregisterClientConnection server client).serverConnection
        server).m_clientConnections.value u = some o ↔
      o ∈ clients ∧ (s.client o).m_uuid = u := by
  have hmem : ∀ x ∈ client :: clients, s.live x ∧ s.isClient x := by
    intro x hx
    obtain ⟨h1,h2,-⟩ := h.listed server _ x hserves ((hlisted _ x).mpr ⟨hx,rfl⟩)
    exact ⟨h1,h2⟩
  obtain ⟨hlive,hclient⟩ := hmem client (List.mem_cons_self ..)
  have huuid := (h.clientTransport client hlive hclient).2
  have hsc : (s.unregisterClientConnection server client).serverConnection server =
      ((s.serverConnection server).unregisterClientConnection (s.clientConnection client)).1 := by
    simp [unregisterClientConnection]
  rw [hsc,TunnelProxyServerConnection.clientConnection_unregister,huuid]
  constructor
  · intro hval
    split at hval
    · simp at hval
    · next hne =>
      obtain ⟨hm,hu⟩ := (hlisted u o).mp hval
      refine ⟨(List.mem_cons.mp hm).resolve_left ?_,hu⟩
      rintro rfl
      exact hne hu.symm
  · rintro ⟨hm,rfl⟩
    rw [if_neg]
    · exact (hlisted _ o).mpr ⟨List.mem_cons_of_mem _ hm,rfl⟩
    · intro he
      obtain ⟨h1,h2⟩ := hmem o (List.mem_cons_of_mem _ hm)
      have := h.uuid_inj h1 hlive h2 hclient he
      subst this
      exact (List.nodup_cons.mp hnodup).1 hm

theorem drop_act (env : Environment) (fuel : Nat) (server : QUuid → Prop)
    (client : ObjectId → Prop) (h : Consistent dying s) (hdying : X ∈ dying) {o : ObjectId}
    (hto : (s.clientConnection o).m_serverConnection = some X) :
    let s' := dropClient env (onClientDisconnectedWithin env fuel) s X o
    (s'.client = s.client ∧
      s'.serverConnection = (s.unregisterClientConnection X o).serverConnection ∧
      s'.clientConnection = (s.unregisterClientConnection X o).clientConnection) ∧
    Act env X server client (dying,s) (dying,s') := by
  obtain ⟨hlive,hclient,hserves,-⟩ := h.attached o X hto
  have hu := h.unregister hlive hclient hto
  have htransport := (hu.clientTransport o hlive hclient).1
  have hkill : dropClient env (onClientDisconnectedWithin env fuel) s X o =
      killConnectionWith env (onClientDisconnectedWithin env fuel)
        (s.unregisterClientConnection X o) o "Server disconnected" := by
    rw [dropClient,htransport]
  rw [hkill]
  simp only [killConnectionWith]
  rw [show ({ (s.unregisterClientConnection X o).emit (.killed o "Server disconnected") with
      killCount := (s.unregisterClientConnection X o).killCount + 1 } : TunnelProxyServer) =
    (s.unregisterClientConnection X o).requestKill o "Server disconnected" from rfl]
  split
  · have hdetached : (((s.unregisterClientConnection X o).requestKill o
        "Server disconnected").clientConnection o).m_serverConnection = none := by
      simp [unregisterClientConnection,requestKill]
    cases fuel with
    | zero => exact ⟨⟨rfl,rfl,rfl⟩,.dropped hdying hto⟩
    | succ fuel =>
      rw [within_client env (hu.congr (quiet_requestKill _ o _).same) hlive hclient fuel,hdetached]
      exact ⟨unregisterClient_heaps _ o,.droppedAtOnce hdying hto⟩
  · exact ⟨⟨rfl,rfl,rfl⟩,.dropped hdying hto⟩

theorem dropClients (env : Environment) (fuel : Nat) (server : QUuid → Prop)
    (client : ObjectId → Prop) (hserver : s.isServer X) (hdying : X ∈ dying)
    (h : Consistent dying s) {clients : List ObjectId} (hnodup : clients.Nodup)
    (hlisted : ∀ u o, (s.serverConnection X).m_clientConnections.value u = some o ↔
      o ∈ clients ∧ (s.client o).m_uuid = u) :
    let s' := clients.foldl
      (fun s client => dropClient env (onClientDisconnectedWithin env fuel) s X client) s
    s'.client = s.client ∧
      (∀ u, (s'.serverConnection X).m_clientConnections.value u = none) ∧
      ReflTransGen (Act env X server client) (dying,s) (dying,s') := by
  induction clients generalizing s with
  | nil =>
    refine ⟨rfl,?_,.refl⟩
    intro u
    refine Option.eq_none_iff_forall_ne_some.mpr fun o ho => ?_
    simpa using (hlisted u o).mp ho
  | cons o clients ih =>
    have hserves : serves dying s X := ⟨hserver,.inr hdying⟩
    obtain ⟨hlive,hclient,hto,-⟩ := h.listed X _ o hserves
      ((hlisted _ o).mpr ⟨List.mem_cons_self ..,rfl⟩)
    have hnext := unregister_listed h hserves hnodup hlisted
    obtain ⟨⟨h1,h2,-⟩,hdrop⟩ := drop_act env fuel server client h hdying hto
    rw [List.foldl_cons]
    generalize dropClient env (onClientDisconnectedWithin env fuel) s X o = s' at *
    obtain ⟨ih1,ih2,ih3⟩ := ih (s := s') (by rw [isServer,h1]; exact hserver)
      (act_consistent h hdrop) (List.nodup_cons.mp hnodup).2 (by rw [h1,h2]; exact hnext)
    exact ⟨ih1.trans h1,ih2,(ReflTransGen.single hdrop).trans ih3⟩

theorem serverDisconnected_take (env : Environment) (h : Consistent dying s) {o : ObjectId}
    (hlive : s.live o) (hserver : s.isServer o)
    (report : TunnelProxyServer → QUuid → TunnelProxyServer) :
    serverDisconnected env report (s.take o) o =
      (env.order (s.serverConnection o).clientConnections).foldl
        (fun s client => dropClient env report s o client) (s.takeServer o) := by
  have hval : (s.take o).m_tunnelProxyServerConnections.value ((s.take o).client o).m_uuid =
      some o := (h.server_iff _ o).mpr ⟨hlive,hserver,rfl⟩
  simp only [serverDisconnected]
  rw [hval]
  rfl

theorem clientConnections_listed (env : Environment) (h : Consistent dying s) {server : ObjectId}
    (hserves : serves dying s server) :
    (env.order (s.serverConnection server).clientConnections).Nodup ∧
      ∀ u o, (s.serverConnection server).m_clientConnections.value u = some o ↔
        o ∈ env.order (s.serverConnection server).clientConnections ∧ (s.client o).m_uuid = u := by
  have huuid : ∀ {u o}, (s.serverConnection server).m_clientConnections.value u = some o →
      (s.client o).m_uuid = u := fun hv => (h.listed server _ _ hserves hv).2.2.2
  have hperm := env.order_perm (s.serverConnection server).clientConnections
  constructor
  · exact hperm.nodup_iff.mpr (QHash.nodup_values fun u u' o hu hu' =>
      (huuid hu).symm.trans (huuid hu'))
  · intro u o
    rw [hperm.mem_iff,TunnelProxyServerConnection.clientConnections,QHash.mem_values]
    constructor
    · intro hv
      exact ⟨⟨u,hv⟩,huuid hv⟩
    · rintro ⟨⟨u',hv⟩,rfl⟩
      rw [huuid hv]
      exact hv

theorem onClientDisconnectedWithin_does (fuel : Nat) (s : TunnelProxyServer) :
    Does env X server client dying s (onClientDisconnectedWithin env fuel s X) := by
  intro h
  cases fuel with
  | zero => exact .refl
  | succ fuel =>
    cases hv : s.m_proxyClients.value X with
    | none => rw [onClientDisconnectedWithin,hv]
    | some o =>
      obtain rfl := h.named X o hv
      cases htype : (s.client o).m_type with
      | TypeNone =>
        rw [onClientDisconnectedWithin,hv]
        simp only
        rw [disconnected_none (show ((s.take o).client o).m_type = .TypeNone from htype)]
        have hs : ¬s.isServer o ∧ ¬s.isClient o := by simp [isServer,isClient,htype]
        exact (ReflTransGen.single (.taken hv hs.1 hs.2)).tail (.finished fun h => absurd h hs.1)
      | TypeServer =>
        have hserver : s.isServer o := htype
        have htaken : Act env o server client (dying,s) (o :: dying,s.takeServer o) :=
          .serverTaken hv hserver
        have hserves : serves dying s o := ⟨hserver,.inl hv⟩
        obtain ⟨hnodup,hlisted⟩ := clientConnections_listed env h hserves
        obtain ⟨h1,h2,h3⟩ := dropClients env fuel server client (s := s.takeServer o) hserver
          (List.mem_cons_self ..) (act_consistent h htaken) hnodup hlisted
        have heq := serverDisconnected_take env h hv hserver (onClientDisconnectedWithin env fuel)
        rw [← heq] at h1 h2 h3
        rw [onClientDisconnectedWithin,hv]
        simp only
        rw [disconnected_server (show (s.take o).isServer o from hserver) h1]
        exact ((ReflTransGen.single htaken).trans h3).tail (.finished fun _ => h2)
      | TypeClient =>
        have hclient : s.isClient o := htype
        rw [within_client env h hv hclient]
        cases hto : (s.clientConnection o).m_serverConnection with
        | none =>
          refine (ReflTransGen.single (.clientTaken hv hclient hto)).tail (.finished ?_)
          exact fun hs => absurd hclient (isServer_not_isClient hs)
        | some so =>
          refine (ReflTransGen.single (.clientDetached hv hclient hto)).tail (.finished ?_)
          intro hs
          have hsame := detachClient_same env (s.takeClient o) so o
          exact absurd hclient (isServer_not_isClient ((hsame.isServer_iff o).mp hs))

theorem killConnection_does (s : TunnelProxyServer) (reason : String) :
    Does env X server client dying s (killConnection env s X reason) := by
  have hq : Does env X server client dying s (s.requestKill X reason) :=
    Does.own (Own.requestKill s reason)
  simp only [killConnection,killConnectionWith]
  split
  · exact hq.trans (onClientDisconnectedWithin_does _ _)
  · exact hq

theorem expel_does {o : ObjectId} (hto : (s.clientConnection o).m_serverConnection = some X)
    (reason : String) : Does env X server client dying s (killConnection env s o reason) := by
  intro h
  obtain ⟨hlive,hclient,-⟩ := h.attached o X hto
  simp only [killConnection,killConnectionWith]
  rw [show ({ s.emit (.killed o reason) with killCount := s.killCount + 1 } : TunnelProxyServer) =
    s.requestKill o reason from rfl]
  split
  · rw [onClientDisconnected]
    cases (s.requestKill o reason).m_proxyClients.entries.length with
    | zero => exact .single (.expelled hto)
    | succ fuel =>
      have hk : ((s.requestKill o reason).clientConnection o).m_serverConnection = some X := hto
      rw [within_client env (h.congr (quiet_requestKill _ o _).same) hlive hclient fuel,hk]
      exact .single (.expelledAtOnce hto)
  · exact .single (.expelled hto)

end Disconnect

section Json

theorem refuse_does (s : TunnelProxyServer) (commandId : Int) (error reason : String) :
    Does env X server client dying s (JsonRpcServer.refuse env s X commandId error reason) := by
  have hq : Own X s (JsonRpcServer.sendErrorResponse env s X commandId error) :=
    Own.sendMessage env s fun _ => trivial
  exact (Does.own hq).trans (killConnection_does _ _)

theorem finishCall_does (s : TunnelProxyServer) (commandId : Int) (data : QVariantMap) :
    Does env X server client dying s (JsonRpcServer.finishCall env s X commandId data) := by
  have hq : Does env X server client dying s (JsonRpcServer.sendResponse env s X commandId data) :=
    Does.own (Own.sendMessage env s fun _ => trivial)
  simp only [JsonRpcServer.finishCall]
  split
  · exact hq.trans (killConnection_does _ _)
  · split
    · next ha => exact hq.trans (Does.own (Own.setClient _ rfl rfl rfl (.inr ⟨ha,rfl⟩)))
    · exact hq

theorem doom_does (s : TunnelProxyServer) (reason : String) :
    Does env X server client dying s (killConnectionAfterResponse s X reason) :=
  Does.own (Own.setClient s rfl rfl rfl (.inl rfl))

theorem turnedDown_does {r : TunnelProxyServer × TunnelProxyError} (h : TurnedDown s X r) :
    Does env X server client dying s r.1 := by
  obtain ⟨-,h | ⟨reason,h⟩⟩ := h
  · rw [h]
    exact Does.refl s
  · rw [h]
    exact doom_does s reason

theorem registerServer_does (s : TunnelProxyServer) (serverUuid : QUuid) (serverName : String)
    (hserver : s.m_proxyClients.value X = some X → (s.client X).m_type = .TypeNone →
      s.m_tunnelProxyServerConnections.value serverUuid = none →
      s.m_tunnelProxyClientConnections.value serverUuid = none → server serverUuid) :
    Does env X server client dying s (registerServer s X serverUuid serverName).1 := by
  intro h
  rcases registerServer_cases (h.named X) serverUuid serverName with hdown | ⟨hv,htype,hns,hnc,he⟩
  · exact turnedDown_does hdown h
  · rw [he]
    exact .single (.serverAccepted (hserver hv htype hns hnc) hv htype hns hnc)

theorem registerClient_does (s : TunnelProxyServer) (clientUuid : QUuid) (clientName : String)
    (serverUuid : QUuid)
    (hclient : ∀ o, s.m_proxyClients.value X = some X → (s.client X).m_type = .TypeNone →
      s.m_tunnelProxyClientConnections.value clientUuid = none →
      s.m_tunnelProxyServerConnections.value clientUuid = none →
      s.m_tunnelProxyServerConnections.value serverUuid = some o → client o) :
    Does env X server client dying s
      (registerClient env s X clientUuid clientName serverUuid).1 := by
  intro h
  rcases registerClient_cases env (h.named X) clientUuid clientName serverUuid with
    hdown | ⟨hv,htype,hnc,hns,o,hfound,he⟩
  · exact turnedDown_does hdown h
  · rw [he]
    exact .single (.clientAccepted (hclient o hv htype hnc hns hfound) hv htype hns hnc hfound)

theorem disconnectClient_does (s : TunnelProxyServer) (socketAddress : UInt16) :
    Does env X server client dying s (disconnectClient env s X socketAddress).1 := by
  intro h
  rcases disconnectClient_cases env (h.named X) socketAddress with
    (he | ⟨reason,he⟩) | ⟨hlive,hserver,o,x,reason,ho,hx,he⟩
  · rw [he]
  · rw [he]
    exact doom_does s reason h
  · obtain rfl := Option.some.inj (ho.symm.trans ((h.server_iff _ X).mpr ⟨hlive,hserver,rfl⟩))
    obtain ⟨hxl,hxc,hto,-⟩ := h.addressed o socketAddress x ⟨hserver,.inl hlive⟩ hx
    rw [he,(h.clientTransport x hxl hxc).1]
    exact expel_does hto reason h

theorem method_does {r : Request} {invoke : Handlers.Method}
    (hm : Handlers.method? env r.targetNamespace r.method = some invoke) (s : TunnelProxyServer) :
    Does env X (r.RegistersServer env s X) (r.RegistersClient env s X) dying s
      (invoke s r.params X).1 := by
  rcases method_cases env hm with hsame | ⟨h1,h2,rfl⟩ | ⟨h1,h2,rfl⟩ | ⟨-,-,rfl⟩
  · rw [hsame]
    exact Does.refl s
  · simp only [Handlers.RegisterServer]
    split
    · exact Does.refl _
    · next hnull =>
      apply registerServer_does _ _ _
      intro hv htype hns hnc
      exact ⟨⟨h1,h2⟩,rfl,by simpa using hnull,hv,htype,hns,hnc⟩
  · simp only [Handlers.RegisterClient]
    split
    · exact Does.refl _
    · next hs =>
      split
      · exact Does.refl _
      · next hc =>
        apply registerClient_does _ _ _ _
        intro o hv htype hnc hns hfound
        exact ⟨⟨h1,h2⟩,by simpa using hs,by simpa using hc,hv,htype,hnc,hns,hfound⟩
  · exact disconnectClient_does _ _

theorem invoke_does (s : TunnelProxyServer) (r : Request) :
    Does env X (r.RegistersServer env s X) (r.RegistersClient env s X) dying s
      (JsonRpcServer.invoke env s X r) := by
  unfold JsonRpcServer.invoke JsonRpcServer.invokeMethod
  split
  · exact Does.refl _
  · next invoke hm =>
    exact (method_does hm s).trans
      ((Does.own (Own.assertX _ _ _ _)).trans (finishCall_does _ _ _))

theorem processDataPacket_does (s : TunnelProxyServer) {item : Item} {data : QByteArray}
    (hitem : item.request env = JsonRpcServer.request env data) :
    Does env X (RegistersServer env s X item) (RegistersClient env s X item) dying s
      (JsonRpcServer.processDataPacket env s X data) := by
  rcases JsonRpcServer.processDataPacket_cases env s X data with ⟨r,hr,heq⟩ | ⟨-,_,_,_,heq⟩
  · rw [heq]
    have hr := hitem.trans hr
    exact (invoke_does s r).mono (fun _ h => ⟨r,hr,h⟩) fun _ h => ⟨r,hr,h⟩
  · rw [heq]
    exact refuse_does _ _ _ _

end Json

section Items

def Named (X : ObjectId) (s : TunnelProxyServer) : Prop :=
  s.isServer X ∧ ∀ o, s.m_tunnelProxyServerConnections.value (s.client X).m_uuid = some o → o = X

theorem Consistent.nameds (h : Consistent dying s) (hlive : s.live X) (hserver : s.isServer X) :
    Named X s := by
  refine ⟨hserver,?_⟩
  intro o ho
  exact Option.some.inj (ho.symm.trans ((h.server_iff _ X).mpr ⟨hlive,hserver,rfl⟩))

theorem Named.congr (hs : SameRegistry s s') (h : Named X s) : Named X s' := by
  refine ⟨(hs.isServer_iff X).mpr h.1,?_⟩
  rw [hs.serverConnections,hs.uuid]
  exact h.2

theorem Named.kept (hk : Kept s s') (h : Named X s) : Named X s' := by
  have hc := hk.client X
  refine ⟨?_,?_⟩
  · rw [isServer,hc]
    exact h.1
  · intro o ho
    rw [hc] at ho
    exact h.2 o (hk.servers _ o ho)

theorem act_named {c c' : Config} (hlive : X ∈ c.2.clientIds) (h : Act env X server client c c')
    (hn : Named X c.2) : Named X c'.2 := by
  have hnone : (c.2.client X).m_type ≠ .TypeNone := by
    rw [hn.1]
    decide
  rcases h.cases with ho | ⟨hid,-⟩ | ⟨-,-,-,-,htype,-⟩ | ⟨-,-,-,-,-,htype,-⟩ | hk
  · exact hn.congr ho.same
  · exact absurd hlive hid
  · exact absurd htype hnone
  · exact absurd htype hnone
  · exact hn.kept hk

theorem act_announced {c c' : Config} (h : Act env X server client c c')
    (hid : X ∈ c.2.clientIds) : X ∈ c'.2.clientIds := by
  rcases h.cases with ho | ⟨hno,-⟩ | ⟨uuid,name,-,-,-,rfl⟩ | ⟨uuid,name,o,-,-,-,rfl⟩ | hk
  · rw [ho.same.clientIds]
    exact hid
  · exact absurd hid hno
  · rw [(acceptServer_entered _ _ _ _).clientIds]
    exact hid
  · rw [acceptClient]
    dsimp only
    rw [(SameRegistry.sendNotification env _ _ _ _ _).clientIds,
      (attachClient_entered _ _ _ _ _).clientIds]
    exact hid
  · rw [hk.clientIds]
    exact hid

theorem acts_named {c c' : Config} (hid : X ∈ c.2.clientIds)
    (h : ReflTransGen (Act env X server client) c c') (hn : Named X c.2) :
    Named X c'.2 ∧ X ∈ c'.2.clientIds := by
  induction h with
  | refl => exact ⟨hn,hid⟩
  | tail hs h ih => exact ⟨act_named ih.2 h ih.1,act_announced h ih.2⟩

theorem processFrame_does (env : Environment) (hn : Named X s) (frame : SlipDataProcessor.Frame) :
    Does env X (RegistersServer env s X (.frame frame)) (RegistersClient env s X (.frame frame))
      dying s (processFrame env s X frame) := by
  unfold processFrame
  split
  · next ha => exact processDataPacket_does s (by simp [Item.request,ha])
  · split
    · exact Does.refl _
    · next o ho =>
      obtain rfl := hn.2 o ho
      split
      · exact Does.refl _
      · next x hx =>
        intro h
        obtain ⟨hlive,hserver,-⟩ := (h.server_iff _ o).mp ho
        obtain ⟨hxl,hxc,hto,-⟩ := h.addressed o _ x ⟨hserver,.inl hlive⟩ hx
        rw [(h.clientTransport x hxl hxc).1]
        exact .single (.forwarded hto)

theorem addRxDataCount_eq (c : TunnelProxyClient) (now dataCount : Nat) :
    c.addRxDataCount now dataCount =
      { c with
        m_rxDataCount := c.m_rxDataCount + .ofNat dataCount
        m_inactiveTimer := (c.addRxDataCount now dataCount).m_inactiveTimer } := by
  simp only [TunnelProxyClient.addRxDataCount]
  split
  · rfl
  · rfl

theorem addRxDataCount_same (c : TunnelProxyClient) (now dataCount : Nat) :
    (c.addRxDataCount now dataCount).m_type = c.m_type ∧
      (c.addRxDataCount now dataCount).m_uuid = c.m_uuid := by
  rw [addRxDataCount_eq]
  exact ⟨rfl,rfl⟩

theorem received_own (s : TunnelProxyServer) (data : QByteArray) : Own X s (s.received X data) := by
  rw [received,addRxDataCount_eq]
  exact Own.setClient s rfl rfl rfl (.inl rfl)

theorem buffered_does (s : TunnelProxyServer) (data : QByteArray) :
    Does env X server client dying s (s.buffered env X data) := by
  have hown : Does env X server client dying s (s.setClient X ((s.client X).processData data).1) :=
    Does.own (Own.setClient s rfl rfl rfl (.inl rfl))
  unfold buffered
  split
  · exact Does.refl s
  · split
    · exact hown
    · split
      · exact Does.refl s
      · split
        · exact hown.trans (killConnection_does _ _)
        · exact hown

theorem foldl_does {items : List Item}
    (hitem : ∀ before item after, items = before ++ item :: after →
      Does env X server client dying (before.foldl (handle env X) s)
        (handle env X (before.foldl (handle env X) s) item)) :
    Does env X server client dying s (items.foldl (handle env X) s) := by
  have hall : ∀ before after, items = before ++ after →
      Does env X server client dying s (before.foldl (handle env X) s) := by
    intro before
    induction before using List.reverseRecOn with
    | nil => exact fun _ _ => Does.refl s
    | append_singleton before item ih =>
      intro after he
      rw [List.foldl_concat]
      exact (ih (item :: after) (by simpa using he)).trans (hitem before item after (by simpa using he))
  exact hall items [] (List.append_nil _).symm

theorem frames_named {frames : List Item} (hf : ∀ item ∈ frames, ∃ frame, item = .frame frame)
    (hc : Consistent dying s) (hid : X ∈ s.clientIds) (hn : Named X s) :
    Named X (frames.foldl (handle env X) s) := by
  induction frames generalizing s with
  | nil => exact hn
  | cons item frames ih =>
    obtain ⟨frame,rfl⟩ := hf item (List.mem_cons_self ..)
    have hacts := processFrame_does env hn frame hc
    obtain ⟨hn',hid'⟩ := acts_named hid hacts hn
    exact ih (fun item hi => hf item (List.mem_cons_of_mem _ hi)) (acts_consistent hc hacts) hid' hn'

theorem item_cases (env : Environment) (hlive : s.live X) (hc : Consistent dying s) (data : QByteArray)
    {before after : List Item} {item : Item}
    (he : s.items X data = before ++ item :: after) :
    (∃ packet, item = .packet packet) ∨
      (∃ frame, item = .frame frame ∧
        Named X (before.foldl (handle env X) (s.buffered env X data))) ∨
      item = .payload data ∧ s.isClient X ∧
        before.foldl (handle env X) (s.buffered env X data) = s := by
  have hmem : ∀ i ∈ before ++ [item], i ∈ s.items X data := by
    intro i hi
    rw [he]
    exact List.mem_append.mpr ((List.mem_append.mp hi).imp_right fun hi => by
      rw [List.mem_singleton.mp hi]
      exact List.mem_cons_self ..)
  simp only [items] at hmem he
  split at he
  · next hclient =>
    obtain ⟨rfl,rfl,-⟩ : before = [] ∧ item = .payload data ∧ after = [] := by
      cases before with
      | nil => simpa [eq_comm] using he
      | cons i before => simp at he
    refine .inr (.inr ⟨rfl,hclient,?_⟩)
    rw [buffered,if_pos hclient]
    rfl
  · next hclient =>
    rw [if_neg hclient] at hmem
    split at he
    · next hframed =>
      have hserver : s.isServer X := by
        simp only [framed,Bool.and_eq_true,decide_eq_true_eq] at hframed
        exact hframed.1
      rw [if_pos hframed] at hmem
      have hf : ∀ i ∈ before ++ [item], ∃ frame, i = .frame frame := by
        intro i hi
        obtain ⟨packet,-,rfl⟩ := List.mem_map.mp (hmem i hi)
        exact ⟨_,rfl⟩
      obtain ⟨frame,rfl⟩ := hf item (by simp)
      have hown : Own X s (s.buffered env X data) := by
        rw [buffered,if_neg hclient,if_pos hframed]
        exact Own.setClient s rfl rfl rfl (.inl rfl)
      refine .inr (.inl ⟨frame,rfl,frames_named (fun i hi => hf i (List.mem_append_left _ hi))
        (hc.congr hown.same) ?_ ?_⟩)
      · rw [hown.same.clientIds]
        exact hc.announced X (.inl hlive)
      · exact (hc.nameds hlive hserver).congr hown.same
    · next hframed =>
      rw [if_neg hframed] at hmem
      have hi := hmem item (by simp)
      split at hi
      · simp at hi
      · obtain ⟨packet,-,rfl⟩ := List.mem_map.mp hi
        exact .inl ⟨packet,rfl⟩

theorem item_does (env : Environment) (hlive : s.live X) (hc : Consistent dying s) (data : QByteArray)
    {before after : List Item} {item : Item}
    (he : s.items X data = before ++ item :: after) :
    Does env X (RegistersServer env (before.foldl (handle env X) (s.buffered env X data)) X item)
      (RegistersClient env (before.foldl (handle env X) (s.buffered env X data)) X item) dying
      (before.foldl (handle env X) (s.buffered env X data))
      (handle env X (before.foldl (handle env X) (s.buffered env X data)) item) := by
  rcases item_cases env hlive hc data he with ⟨packet,rfl⟩ | ⟨frame,rfl,hn⟩ | ⟨rfl,hclient,hs⟩
  · exact processDataPacket_does _ rfl
  · exact processFrame_does env hn frame
  · rw [hs]
    exact fun _ => .single (.tunnelled hlive hclient)

theorem prefix_does (env : Environment) (hlive : s.live X) (hc : Consistent dying s) (data : QByteArray)
    {items after : List Item} (he : s.items X data = items ++ after) :
    Does env X
      (fun uuid => ∃ before item rest, items = before ++ item :: rest ∧
        RegistersServer env (before.foldl (handle env X) (s.buffered env X data)) X item uuid)
      (fun o => ∃ before item rest, items = before ++ item :: rest ∧
        RegistersClient env (before.foldl (handle env X) (s.buffered env X data)) X item o) dying
      s (items.foldl (handle env X) (s.buffered env X data)) := by
  refine (buffered_does s data).trans (foldl_does ?_)
  intro before item rest hr
  have hi : s.items X data = before ++ item :: (rest ++ after) := by
    rw [he,hr,List.append_assoc,List.cons_append]
  exact (item_does env hlive hc data hi).mono (fun _ h => ⟨before,item,rest,hr,h⟩)
    fun _ h => ⟨before,item,rest,hr,h⟩

theorem dataAvailable_does (env : Environment) (X : ObjectId) (s : TunnelProxyServer)
    (data : QByteArray) :
    Does env X (fun uuid => During env s X data fun t item => RegistersServer env t X item uuid)
      (fun o => During env s X data fun t item => RegistersClient env t X item o) dying s
      (onClientDataAvailable env s X data) := by
  intro h
  cases hv : s.m_proxyClients.value X with
  | none =>
    simp only [onClientDataAvailable,hv]
    exact .refl
  | some o =>
    obtain rfl := h.named X o hv
    rw [onClientDataAvailable_eq env hv]
    have hown := received_own (X := o) s data
    have hlive : (s.received o data).live o := (hown.same.live_iff o).mpr hv
    exact ((Does.own hown).trans
      (prefix_does env hlive (h.congr hown.same) data (List.append_nil _).symm)) h

end Items

section Events

theorem inactiveTimeout_does (X : ObjectId) (s : TunnelProxyServer) :
    Does env X server client dying s (inactiveTimeout env s X) := by
  intro h
  simp only [inactiveTimeout]
  cases hv : s.m_proxyClients.value X with
  | none => exact .refl
  | some o =>
    obtain rfl := h.named X o hv
    have hq : Own o s (s.setClient o { s.client o with
        m_inactiveTimer := (s.client o).m_inactiveTimer.timeout s.now }) :=
      Own.setClient s rfl rfl rfl (.inl rfl)
    dsimp only
    split
    · exact ((Does.own hq).trans (killConnection_does _ _)) h
    · exact .refl

def Event.actor : Event → ObjectId
  | .clientConnected clientId _ => clientId
  | .clientDisconnected clientId => clientId
  | .dataAvailable clientId _ => clientId
  | .inactiveTimeout clientId => clientId
  | .elapse _ => QUuid.null

def Event.RegistersServer (env : Environment) (s : TunnelProxyServer) (uuid : QUuid) : Event → Prop
  | .dataAvailable clientId data =>
    During env s clientId data fun t item => TunnelProxyServer.RegistersServer env t clientId item uuid
  | _ => False

def Event.RegistersClient (env : Environment) (s : TunnelProxyServer) (server : ObjectId) :
    Event → Prop
  | .dataAvailable clientId data =>
    During env s clientId data fun t item =>
      TunnelProxyServer.RegistersClient env t clientId item server
  | _ => False

theorem step_does (s : TunnelProxyServer) (event : Event) (hfresh : s.Fresh event) :
    Does env event.actor (fun uuid => event.RegistersServer env s uuid)
      (fun server => event.RegistersClient env s server) dying s (s.step env event) := by
  cases event with
  | clientConnected clientId address => exact fun _ => .single (.connected hfresh)
  | clientDisconnected clientId => exact onClientDisconnectedWithin_does _ s
  | dataAvailable clientId data => exact dataAvailable_does env clientId s data
  | inactiveTimeout clientId => exact inactiveTimeout_does clientId s
  | elapse ms =>
    exact Does.own (Own.of_same ⟨rfl,rfl,rfl,rfl,fun _ => rfl,fun _ => rfl,rfl,rfl,rfl⟩ rfl rfl)

theorem new_consistent : Consistent [] new := by
  have hd : (default : TunnelProxyClientConnection).m_serverConnection = none := rfl
  constructor <;> simp [new,live,serves,hd]

theorem reachable_steps (h : Reachable env s) : ReflTransGen (Micro env) ([],new) ([],s) := by
  induction h with
  | new => exact .refl
  | step _ hfresh ih =>
    exact ih.trans ((step_does _ _ hfresh).leads (steps_consistent env new_consistent ih))

theorem reachable_consistent (h : Reachable env s) : Consistent [] s :=
  steps_consistent env new_consistent (reachable_steps h)

end Events

end RemoteProxy.TunnelProxyServer
