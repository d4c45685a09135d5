import RemoteProxy.Proxy.Isolation

namespace RemoteProxy.TunnelProxyServer

variable {env : Environment} {X : ObjectId} {dying : List ObjectId} {s s' t : TunnelProxyServer}

def Doomed (s : TunnelProxyServer) (X : ObjectId) : Prop := ∃ reason, .killed X reason ∈ s.output

/-- The registration tables are as they were, and no byte went to anybody but `X`. -/
structure Effectless (X : ObjectId) (s s' : TunnelProxyServer) : Prop where
  servers : s'.m_tunnelProxyServerConnections = s.m_tunnelProxyServerConnections
  clients : s'.m_tunnelProxyClientConnections = s.m_tunnelProxyClientConnections
  serverConnection : s'.serverConnection = s.serverConnection
  clientConnection : s'.clientConnection = s.clientConnection
  output : ∃ new, s'.output = s.output ++ new ∧
    ∀ o m data, .sent o m data ∈ new → o = X ∨ data = []

theorem Effectless.refl (s : TunnelProxyServer) : Effectless X s s :=
  ⟨rfl,rfl,rfl,rfl,[],(List.append_nil _).symm,by simp⟩

theorem Effectless.trans (h : Effectless X s s') (h' : Effectless X s' t) : Effectless X s t := by
  obtain ⟨new,hn,hs⟩ := h.output
  obtain ⟨new',hn',hs'⟩ := h'.output
  refine ⟨h'.1.trans h.1,h'.2.trans h.2,h'.3.trans h.3,h'.4.trans h.4,new ++ new',?_,?_⟩
  · rw [hn',hn,List.append_assoc]
  · intro o m data hx
    exact (List.mem_append.mp hx).elim (hs o m data) (hs' o m data)

theorem Effectless.of_own (h : Own X s s') : Effectless X s s' := by
  obtain ⟨new,hn,hq⟩ := h.output
  refine ⟨h.same.2,h.same.3,h.same.serverConnection,h.same.clientConnection,new,hn,?_⟩
  exact fun o m data hx => .inl ((hq _ hx).2.1 o rfl)

theorem Effectless.requestKill (s : TunnelProxyServer) (o : ObjectId) (reason : String) :
    Effectless X s (s.requestKill o reason) :=
  ⟨rfl,rfl,rfl,rfl,[.killed o reason],rfl,by simp⟩

theorem Effectless.killConnection (hlater : ∀ n, env.reportsAtOnce n = false)
    (s : TunnelProxyServer) (o : ObjectId) (reason : String) :
    Effectless X s (killConnection env s o reason) := by
  simp only [TunnelProxyServer.killConnection,killConnectionWith,hlater]
  exact Effectless.requestKill s o reason

theorem Effectless.refuse (hlater : ∀ n, env.reportsAtOnce n = false) (s : TunnelProxyServer)
    (commandId : Int) (error reason : String) :
    Effectless X s (JsonRpcServer.refuse env s X commandId error reason) := by
  have hown : Own X s (JsonRpcServer.sendErrorResponse env s X commandId error) :=
    Own.sendMessage env s fun _ => trivial
  exact (Effectless.of_own hown).trans (Effectless.killConnection hlater _ _ _)

theorem Effectless.finishCall (hlater : ∀ n, env.reportsAtOnce n = false) (s : TunnelProxyServer)
    (commandId : Int) (data : QVariantMap) :
    Effectless X s (JsonRpcServer.finishCall env s X commandId data) := by
  have hown : Effectless X s (JsonRpcServer.sendResponse env s X commandId data) :=
    Effectless.of_own (Own.sendMessage env s fun _ => trivial)
  simp only [JsonRpcServer.finishCall]
  split
  · exact hown.trans (Effectless.killConnection hlater _ _ _)
  · split
    · next ha => exact hown.trans (Effectless.of_own (Own.setClient _ rfl rfl rfl (.inr ⟨ha,rfl⟩)))
    · exact hown

theorem invoke_rest (hlater : ∀ n, env.reportsAtOnce n = false) {r : Request}
    {method : Handlers.Method}
    (hm : Handlers.method? env r.targetNamespace r.method = some method) (s : TunnelProxyServer) :
    Effectless X (method s r.params X).1 (JsonRpcServer.invoke env s X r) := by
  simp only [JsonRpcServer.invoke,JsonRpcServer.invokeMethod,hm]
  exact (Effectless.of_own (Own.assertX _ _ _ _)).trans (Effectless.finishCall hlater _ _ _)

theorem Effectless.doom (s : TunnelProxyServer) (reason : String) :
    Effectless X s (killConnectionAfterResponse s X reason) :=
  Effectless.of_own (Own.setClient s rfl rfl rfl (.inl rfl))

theorem Effectless.turnedDown {r : TunnelProxyServer × TunnelProxyError} (h : TurnedDown s X r) :
    Effectless X s r.1 := by
  obtain ⟨-,h | ⟨reason,h⟩⟩ := h
  · rw [h]
    exact Effectless.refl s
  · rw [h]
    exact Effectless.doom s reason

theorem invoke_effectless (hlater : ∀ n, env.reportsAtOnce n = false) (hc : Consistent dying s)
    {r : Request} (hserver : ∀ uuid, ¬r.RegistersServer env s X uuid)
    (hclient : ∀ o, ¬r.RegistersClient env s X o) :
    Effectless X s (JsonRpcServer.invoke env s X r) := by
  cases hm : Handlers.method? env r.targetNamespace r.method with
  | none =>
    simp only [JsonRpcServer.invoke,JsonRpcServer.invokeMethod,hm]
    exact Effectless.refl s
  | some method =>
    refine Effectless.trans ?_ (invoke_rest hlater hm s)
    rcases method_cases env hm with hsame | ⟨h1,h2,rfl⟩ | ⟨h1,h2,rfl⟩ | ⟨-,-,rfl⟩
    · rw [hsame]
      exact Effectless.refl s
    · simp only [Handlers.RegisterServer]
      split
      · exact Effectless.refl s
      · next hnull =>
        rcases registerServer_cases (hc.named X) (env.toUuid (r.params.value "serverUuid"))
          (env.toString (r.params.value "serverName")) with hdown | ⟨hv,htype,hns,hnc,-⟩
        · exact Effectless.turnedDown hdown
        · exact absurd ⟨⟨h1,h2⟩,rfl,by simpa using hnull,hv,htype,hns,hnc⟩ (hserver _)
    · simp only [Handlers.RegisterClient]
      split
      · exact Effectless.refl s
      · next hs =>
        split
        · exact Effectless.refl s
        · next hcu =>
          rcases registerClient_cases env (hc.named X) (env.toUuid (r.params.value "clientUuid"))
            (env.toString (r.params.value "clientName")) (env.toUuid (r.params.value "serverUuid"))
            with hdown | ⟨hv,htype,hnc,hns,o,hfound,-⟩
          · exact Effectless.turnedDown hdown
          · exact absurd ⟨⟨h1,h2⟩,by simpa using hs,by simpa using hcu,hv,htype,hnc,hns,hfound⟩
              (hclient o)
    · rcases disconnectClient_cases env (hc.named X)
        (UInt16.ofNat (env.toUInt (r.params.value "socketAddress"))) with
        (he | ⟨reason,he⟩) | ⟨-,-,_,_,reason,-,-,he⟩
      · simp only [Handlers.DisconnectClient,he]
        exact Effectless.refl s
      · simp only [Handlers.DisconnectClient,he]
        exact Effectless.doom s reason
      · simp only [Handlers.DisconnectClient,he]
        exact Effectless.killConnection hlater _ _ _

theorem registersServer_effect (hlater : ∀ n, env.reportsAtOnce n = false) {r : Request}
    {uuid : QUuid} (h : r.RegistersServer env s X uuid) :
    ¬Effectless X s (JsonRpcServer.invoke env s X r) := by
  intro he
  have hm : Handlers.method? env r.targetNamespace r.method = some (Handlers.RegisterServer env) := by
    rw [h.name.1,h.name.2]
    rfl
  have hrest := (invoke_rest (X := X) hlater hm s).servers
  simp only [Handlers.RegisterServer,h.serverUuid,h.valid,Bool.false_eq_true,if_false] at hrest
  rw [registerServer_accepted h.known h.unregistered h.notServer h.notClient,he.servers,
    (acceptServer_tables s X uuid _).1] at hrest
  have hvalue := h.notServer
  rw [hrest,QHash.value_insert,if_pos rfl] at hvalue
  simp at hvalue

theorem registersClient_effect (hlater : ∀ n, env.reportsAtOnce n = false) {r : Request}
    {o : ObjectId} (h : r.RegistersClient env s X o) :
    ¬Effectless X s (JsonRpcServer.invoke env s X r) := by
  intro he
  have hm : Handlers.method? env r.targetNamespace r.method = some (Handlers.RegisterClient env) := by
    rw [h.name.1,h.name.2]
    rfl
  have hrest := (invoke_rest (X := X) hlater hm s).clients
  simp only [Handlers.RegisterClient,h.serverValid,h.clientValid,Bool.false_eq_true,
    if_false] at hrest
  rw [registerClient_accepted env h.known h.unregistered h.notClient h.notServer h.found,
    he.clients] at hrest
  have hvalue := h.notClient
  rw [hrest] at hvalue
  simp only [acceptClient,(SameRegistry.sendNotification env _ _ _ _ _).clientConnections,
    (attachClient_tables (s := s) _ _ _ _).2,QHash.value_insert] at hvalue
  simp at hvalue

/-- The item would register its sender, or holds bytes that go through a tunnel of it. -/
inductive Effective (env : Environment) (s : TunnelProxyServer) (X : ObjectId) : Item → Prop where
  | server {item : Item} (uuid : QUuid) : RegistersServer env s X item uuid → Effective env s X item
  | client {item : Item} (server : ObjectId) : RegistersClient env s X item server →
      Effective env s X item
  | frame {frame : SlipDataProcessor.Frame} (client : ObjectId) : frame.socketAddress ≠ 0x0000 →
      frame.data ≠ [] → s.m_tunnelProxyServerConnections.value (s.client X).m_uuid = some X →
      (s.serverConnection X).getClientConnection frame.socketAddress = some client →
      Effective env s X (.frame frame)
  | payload {data : QByteArray} (server : ObjectId) :
      (s.clientConnection X).m_serverConnection = some server → Effective env s X (.payload data)

theorem processDataPacket_effect (hlater : ∀ n, env.reportsAtOnce n = false)
    (hc : Consistent dying s) (item : Item) {data : QByteArray}
    (hitem : item.request env = JsonRpcServer.request env data) :
    Effectless X s (JsonRpcServer.processDataPacket env s X data) ↔
      (∀ uuid, ¬RegistersServer env s X item uuid) ∧ ∀ o, ¬RegistersClient env s X item o := by
  rcases JsonRpcServer.processDataPacket_cases env s X data with ⟨r,hr,heq⟩ | ⟨hr,_,_,_,heq⟩
  · rw [heq]
    constructor
    · intro he
      refine ⟨?_,?_⟩
      · rintro uuid ⟨r',hr',h⟩
        obtain rfl := Option.some.inj (hr'.symm.trans (hitem.trans hr))
        exact registersServer_effect hlater h he
      · rintro o ⟨r',hr',h⟩
        obtain rfl := Option.some.inj (hr'.symm.trans (hitem.trans hr))
        exact registersClient_effect hlater h he
    · rintro ⟨hs,hcl⟩
      exact invoke_effectless hlater hc (fun uuid h => hs uuid ⟨r,hitem.trans hr,h⟩)
        fun o h => hcl o ⟨r,hitem.trans hr,h⟩
  · rw [heq]
    refine iff_of_true (Effectless.refuse hlater _ _ _ _) ⟨?_,?_⟩
    · rintro uuid ⟨r',hr',-⟩
      simp [hr,hitem] at hr'
    · rintro o ⟨r',hr',-⟩
      simp [hr,hitem] at hr'

theorem sent_effect {o : ObjectId} {m : Message} {data : QByteArray} (ho : o ≠ X)
    (hdata : data ≠ []) (hout : s'.output = s.output ++ [.sent o m data]) : ¬Effectless X s s' := by
  intro he
  obtain ⟨new,hn,hs⟩ := he.output
  obtain rfl := List.append_cancel_left (hout.symm.trans hn)
  rcases hs o m data (List.mem_singleton_self _) with h | h
  · exact ho h
  · exact hdata h

theorem Effectless.sendNothing (s : TunnelProxyServer) (o : ObjectId) (m : Message)
    (count : Int32) :
    Effectless X s { s.sendData o m [] with m_troughputCounter := count } := by
  refine ⟨rfl,rfl,rfl,rfl,[.sent o m []],rfl,?_⟩
  intro o' m' data hx
  simp only [List.mem_singleton,Output.sent.injEq] at hx
  exact .inr hx.2.2

theorem processFrame_effect (hlater : ∀ n, env.reportsAtOnce n = false) (hc : Consistent dying s)
    (hn : Named X s) (frame : SlipDataProcessor.Frame) :
    Effectless X s (processFrame env s X frame) ↔ ¬Effective env s X (.frame frame) := by
  by_cases ha : frame.socketAddress = 0x0000
  · have hpacket := processDataPacket_effect (X := X) hlater hc (.frame frame)
      (show Item.request env (.frame frame) = JsonRpcServer.request env frame.data by
        simp [Item.request,ha])
    rw [processFrame,if_pos ha,hpacket]
    constructor
    · rintro ⟨hs,hcl⟩ (⟨uuid,h⟩ | ⟨o,h⟩ | ⟨_,hne,-,-,-⟩ | _)
      · exact hs uuid h
      · exact hcl o h
      · exact hne ha
    · exact fun h => ⟨fun uuid hu => h (.server uuid hu),fun o ho => h (.client o ho)⟩
  · have hrequest : Item.request env (.frame frame) = none := by simp [Item.request,ha]
    have hiff : Effective env s X (.frame frame) ↔ frame.data ≠ [] ∧
        s.m_tunnelProxyServerConnections.value (s.client X).m_uuid = some X ∧
        ∃ o, (s.serverConnection X).getClientConnection frame.socketAddress = some o := by
      constructor
      · rintro (⟨_,r,hr,-⟩ | ⟨_,r,hr,-⟩ | ⟨o,-,hdata,hv,ho⟩ | _)
        · simp [hrequest] at hr
        · simp [hrequest] at hr
        · exact ⟨hdata,hv,o,ho⟩
      · rintro ⟨hdata,hv,o,ho⟩
        exact .frame o ha hdata hv ho
    rw [hiff,processFrame,if_neg ha]
    cases hv : s.m_tunnelProxyServerConnections.value (s.client X).m_uuid with
    | none => exact iff_of_true (Effectless.refl s) (by simp)
    | some so =>
      obtain rfl := hn.2 so hv
      obtain ⟨hlive,hserver,-⟩ := (hc.server_iff _ so).mp hv
      dsimp only
      cases ho : (s.serverConnection so).getClientConnection frame.socketAddress with
      | none => exact iff_of_true (Effectless.refl s) (by simp)
      | some o =>
        obtain ⟨hol,hoc,hto,-⟩ := hc.addressed so frame.socketAddress o ⟨hserver,.inl hlive⟩ ho
        have hne : o ≠ so := by
          rintro rfl
          exact isServer_not_isClient hserver hoc
        dsimp only
        rw [(hc.clientTransport o hol hoc).1]
        by_cases hdata : frame.data = []
        · rw [hdata]
          exact iff_of_true (Effectless.sendNothing s o _ _) (by simp)
        · exact iff_of_false (sent_effect hne hdata rfl) (by simp [hdata])

theorem tunnelToServer_effect (hc : Consistent dying s) (hlive : s.live X) (hclient : s.isClient X)
    (data : QByteArray) :
    Effectless X s (s.tunnelToServer X data) ↔ ¬Effective env s X (.payload data) := by
  have hiff : Effective env s X (.payload data) ↔
      ∃ o, (s.clientConnection X).m_serverConnection = some o := by
    constructor
    · rintro (⟨_,r,hr,-⟩ | ⟨_,r,hr,-⟩ | _ | ⟨o,ho⟩)
      · simp [Item.request] at hr
      · simp [Item.request] at hr
      · exact ⟨o,ho⟩
    · rintro ⟨o,ho⟩
      exact .payload o ho
  rw [hiff]
  rcases tunnelToServer_eq hc hlive hclient data with ⟨hn,hown⟩ | ⟨o,hto,hout⟩
  · exact iff_of_true (Effectless.of_own hown) (by simp [hn])
  · have hne : o ≠ X := by
      rintro rfl
      exact isServer_not_isClient (hc.attached o o hto).2.2.1.1 hclient
    exact iff_of_false (sent_effect hne (by simp [SlipDataProcessor.serializeData]) hout)
      (by simp [hto])

theorem item_effect (hlater : ∀ n, env.reportsAtOnce n = false) (hlive : s.live X)
    (hc : Consistent dying s) (data : QByteArray) {before after : List Item} {item : Item}
    (he : s.items X data = before ++ item :: after) :
    Effectless X (before.foldl (handle env X) (s.buffered env X data))
        (handle env X (before.foldl (handle env X) (s.buffered env X data)) item) ↔
      ¬Effective env (before.foldl (handle env X) (s.buffered env X data)) X item := by
  have hprefix := (prefix_does env hlive hc data he).consistent hc
  rcases item_cases env hlive hc data he with ⟨packet,rfl⟩ | ⟨frame,rfl,hn⟩ | ⟨rfl,hclient,hs⟩
  · rw [handle,processDataPacket_effect hlater hprefix (.packet packet) rfl]
    constructor
    · rintro ⟨hserver,hclient⟩ (⟨uuid,h⟩ | ⟨o,h⟩ | _ | _)
      · exact hserver uuid h
      · exact hclient o h
    · exact fun h => ⟨fun uuid hu => h (.server uuid hu),fun o ho => h (.client o ho)⟩
  · exact processFrame_effect hlater hprefix hn frame
  · rw [hs]
    exact tunnelToServer_effect hc hlive hclient data

theorem run_effectless_iff (hlater : ∀ n, env.reportsAtOnce n = false) (h : Reachable env s)
    {events : List Event} (hfresh : FreshRun env s events) :
    EveryItem env (fun t X item => Doomed t X → Effectless X t (handle env X t item)) s events ↔
      EveryItem env (fun t X item => Doomed t X → ¬Effective env t X item) s events := by
  induction events generalizing s with
  | nil => exact Iff.rfl
  | cons event events ih =>
    rw [EveryItem,EveryItem,everyChunk_cons,everyChunk_cons]
    refine and_congr ?_ (ih (h.step hfresh.1) hfresh.2)
    refine forall_congr' fun X => forall_congr' fun data => forall_congr' fun _ =>
      forall_congr' fun hlive => forall_congr' fun before => forall_congr' fun item =>
      forall_congr' fun after => forall_congr' fun he => imp_congr_right fun _ => ?_
    have hown := received_own (X := X) s data
    exact item_effect hlater ((hown.same.live_iff X).mpr hlive)
      ((reachable_consistent h).congr hown.same) data he

/-- A killed connection goes without effect exactly when nothing it still sends has one. -/
theorem killed_effectless_iff (hlater : ∀ n, env.reportsAtOnce n = false) {events : List Event}
    (hfresh : FreshRun env new events) :
    EveryItem env (fun t X item => Doomed t X → Effectless X t (handle env X t item)) new events ↔
      EveryItem env (fun t X item => Doomed t X → ¬Effective env t X item) new events :=
  run_effectless_iff hlater Reachable.new hfresh

section Sample

def killedEvents : List Event :=
  [.clientConnected ⟨1⟩ "10.0.0.1",.dataAvailable ⟨1⟩ [0x7D],
    .dataAvailable ⟨1⟩ (request false registerServerRequest)]

theorem killed_effectless_sample :
    EveryItem (sampleEnvironment false)
        (fun t X item => Doomed t X → Effectless X t (handle (sampleEnvironment false) X t item)) new
        killedEvents ↔
      EveryItem (sampleEnvironment false)
        (fun t X item => Doomed t X → ¬Effective (sampleEnvironment false) t X item) new
        killedEvents :=
  killed_effectless_iff (fun _ => rfl) (by decide +kernel)

instance decidableKilled (X : ObjectId) : DecidablePred fun x : Output => ∃ reason, x = .killed X reason
  | .sent _ _ _ => isFalse (by simp)
  | .killed o reason => decidable_of_iff (o = X) (by simp)
  | .assertFailed _ _ => isFalse (by simp)

instance : Decidable (Doomed s X) :=
  decidable_of_iff (∃ x ∈ s.output, ∃ reason, x = .killed X reason) (by
    constructor
    · rintro ⟨_,hx,reason,rfl⟩
      exact ⟨reason,hx⟩
    · rintro ⟨reason,hx⟩
      exact ⟨_,hx,reason,rfl⟩)

theorem killed_registers : FreshRun (sampleEnvironment false) new killedEvents ∧
    ¬EveryItem (sampleEnvironment false)
      (fun t X item => Doomed t X → Effectless X t (handle (sampleEnvironment false) X t item)) new
      killedEvents := by
  refine ⟨by decide +kernel,fun h => ?_⟩
  have hitem := h.2.1 (by decide +kernel) [] (.packet (request false registerServerRequest)) []
    (by decide +kernel) (by decide +kernel)
  have hvalue := congrArg (fun table => QHash.value table ⟨5⟩) hitem.servers
  exact absurd hvalue (by decide +kernel)

end Sample

end RemoteProxy.TunnelProxyServer
