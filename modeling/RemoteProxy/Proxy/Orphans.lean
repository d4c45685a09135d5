import RemoteProxy.Proxy.Isolation

namespace RemoteProxy.TunnelProxyServer

open Relation

variable {env : Environment} {X : ObjectId} {server : QUuid → Prop} {client : ObjectId → Prop}
  {s s' : TunnelProxyServer}

def Orphaned (s : TunnelProxyServer) (o : ObjectId) : Prop :=
  .killed o "Server disconnected" ∈ s.output

def OrphansTold (s : TunnelProxyServer) : Prop :=
  ∀ o, s.live o → s.isClient o → (s.clientConnection o).m_serverConnection = none → Orphaned s o

theorem OrphansTold.mono (h : OrphansTold s) (hout : ∃ new, s'.output = s.output ++ new)
    (hback : ∀ o, s'.live o → s'.isClient o → (s'.clientConnection o).m_serverConnection = none →
      s.live o ∧ s.isClient o ∧ (s.clientConnection o).m_serverConnection = none) :
    OrphansTold s' := by
  intro o hlive hclient hnone
  obtain ⟨h1,h2,h3⟩ := hback o hlive hclient hnone
  obtain ⟨new,hnew⟩ := hout
  rw [Orphaned,hnew]
  exact List.mem_append_left new (h o h1 h2 h3)

theorem OrphansTold.same (h : OrphansTold s) (hs : SameRegistry s s')
    (hout : ∃ new, s'.output = s.output ++ new) : OrphansTold s' := by
  refine h.mono hout fun o hlive hclient hnone => ⟨(hs.live_iff o).mp hlive,?_,?_⟩
  · exact (hs.isClient_iff o).mp hclient
  · rw [hs.clientConnection] at hnone
    exact hnone

theorem OrphansTold.notified (h : OrphansTold s) (nameSpace method : String)
    (params : QVariantMap) (o : ObjectId) :
    OrphansTold (JsonRpcServer.sendNotification env s nameSpace method params o) :=
  h.same (SameRegistry.sendNotification env s nameSpace method params o) ⟨_,rfl⟩

theorem OrphansTold.unregisterClient (h : OrphansTold s) (o : ObjectId) :
    OrphansTold (JsonRpcServer.unregisterClient s o) := by
  obtain ⟨hclient,-,hconnection⟩ := unregisterClient_heaps s o
  obtain ⟨hlive,hout⟩ := unregisterClient_rest s o
  refine h.mono ⟨[],by rw [hout,List.append_nil]⟩ fun x hx hc hn => ⟨?_,?_,?_⟩
  · rwa [live,hlive] at hx
  · rwa [isClient,hclient] at hc
  · rwa [hconnection] at hn

theorem OrphansTold.detach (h : OrphansTold s) {o : ObjectId}
    (hout : ∃ new, s'.output = s.output ++ new)
    (htable : s'.m_proxyClients = s.m_proxyClients.remove o) (hclient : s'.client = s.client)
    (hothers : ∀ x, x ≠ o → s'.clientConnection x = s.clientConnection x) : OrphansTold s' := by
  refine h.mono hout fun x hx hc hn => ?_
  rw [live,htable] at hx
  obtain ⟨hne,hx⟩ := (live_take s x o).mp hx
  rw [hothers x hne] at hn
  rw [isClient,hclient] at hc
  exact ⟨hx,hc,hn⟩

theorem OrphansTold.released (h : OrphansTold s) (t : TunnelProxyServer) (o : ObjectId)
    (hout : ∃ new, t.output = s.output ++ new)
    (htable : t.m_proxyClients = s.m_proxyClients.remove o) (hclient : t.client = s.client)
    (hconnection : t.clientConnection = s.clientConnection)
    (server : ObjectId) : OrphansTold (t.unregisterClientConnection server o) := by
  refine h.detach hout htable hclient fun x hx => ?_
  rw [← hconnection]
  exact Function.update_of_ne hx _ _

theorem act_told {c c' : Config} (hc : Consistent c.1 c.2) (h : Act env X server client c c')
    (ht : OrphansTold c.2) : OrphansTold c'.2 := by
  cases h with
  | own h =>
    obtain ⟨new,hnew,-⟩ := h.output
    exact ht.same h.same ⟨new,hnew⟩
  | @connected _ s address hid =>
    have he := onClientConnected_eq env hc hid address
    refine ht.mono ⟨[],by rw [he,List.append_nil]⟩ fun o hlive hclient hnone => ?_
    rw [he] at hlive hclient hnone
    have hne : o ≠ X := by
      rintro rfl
      have htype : (Function.update s.client o
          (TunnelProxyClient.new address env.inactiveTimeout s.now) o).m_type = .TypeClient := hclient
      rw [Function.update_self] at htype
      cases htype
    have hv : QHash.value (s.m_proxyClients.insert X X) o = some o := hlive
    have htype : (Function.update s.client X
        (TunnelProxyClient.new address env.inactiveTimeout s.now) o).m_type = .TypeClient := hclient
    rw [QHash.value_insert,if_neg hne] at hv
    rw [Function.update_of_ne hne] at htype
    exact ⟨hv,htype,hnone⟩
  | @serverAccepted _ s uuid name _ _ htype =>
    have he := acceptServer_entered s X uuid name
    refine ht.mono ⟨[],?_⟩ fun o hlive hclient hnone => ⟨(he.live_iff o).mp hlive,?_,?_⟩
    · rw [acceptServer,enterAs_eq s X (by decide),List.append_nil]
      rfl
    · have hiff := he.type_iff htype (by decide : ClientType.TypeClient ≠ .TypeNone) o
      exact (hiff.mp hclient).resolve_left (by simp)
    · rwa [acceptServer_clientConnection] at hnone
  | @clientAccepted _ s o uuid serverUuid name _ _ htype =>
    have he := attachClient_entered (s := s) X uuid name o
    have hcc := attachClient_clientConnection (s := s) X uuid name o
    have hout : ∃ new, (s.attachClient X uuid name o).output = s.output ++ new :=
      ⟨_,attachClient_output s X uuid name o⟩
    refine OrphansTold.notified (ht.mono hout fun x hlive hclient hnone => ?_) _ _ _ _
    have hne : x ≠ X := by
      rintro rfl
      rw [hcc,Function.update_self] at hnone
      simp [registered] at hnone
    rw [hcc,Function.update_of_ne hne] at hnone
    have hiff := he.type_iff htype (by decide : ClientType.TypeClient ≠ .TypeNone) x
    exact ⟨(he.live_iff x).mp hlive,(hiff.mp hclient).resolve_left (by simp [hne]),hnone⟩
  | @tunnelled _ s data hlive hclient =>
    rcases tunnelToServer_eq hc hlive hclient data with ⟨-,hown⟩ | ⟨o,-,hout⟩
    · obtain ⟨new,hnew,-⟩ := hown.output
      exact ht.same hown.same ⟨new,hnew⟩
    · exact ht.same (SameRegistry.tunnelToServer s X data) ⟨_,hout⟩
  | @forwarded _ s o data count _ =>
    have hsent : OrphansTold (s.sendData o (.payload data) data) :=
      ht.same (SameRegistry.sendData s o (.payload data) data) ⟨_,rfl⟩
    exact hsent.same (SameRegistry.counted _ _) ⟨[],(List.append_nil _).symm⟩
  | @taken _ s =>
    exact ht.detach ⟨[],(List.append_nil _).symm⟩ rfl rfl fun _ _ => rfl
  | @serverTaken _ s =>
    exact ht.detach ⟨[],(List.append_nil _).symm⟩ rfl rfl fun _ _ => rfl
  | @clientTaken _ s =>
    exact ht.detach ⟨[],(List.append_nil _).symm⟩ rfl rfl fun _ _ => rfl
  | @clientDetached _ s o =>
    have hreleased : OrphansTold ((s.takeClient X).unregisterClientConnection o X) :=
      ht.released (s.takeClient X) X ⟨[],(List.append_nil _).symm⟩ rfl rfl rfl o
    exact hreleased.notified _ _ _ _
  | finished => exact ht.unregisterClient X
  | expelled => exact ht.same (quiet_requestKill _ _ _).same ⟨_,rfl⟩
  | @expelledAtOnce _ s o reason =>
    refine OrphansTold.unregisterClient ?_ o
    have hreleased : OrphansTold
        (((s.requestKill o reason).takeClient o).unregisterClientConnection X o) :=
      ht.released ((s.requestKill o reason).takeClient o) o ⟨[.killed o reason],rfl⟩
        rfl rfl rfl X
    exact hreleased.notified _ _ _ _
  | @dropped _ s o =>
    intro x hlive hclient hnone
    rcases eq_or_ne x o with rfl | hne
    · exact List.mem_append_right _ (List.mem_singleton_self _)
    · have hn : (Function.update s.clientConnection o _ x).m_serverConnection = none := hnone
      rw [Function.update_of_ne hne] at hn
      have hkept := (Kept.unregisterClientConnection s X o).trans
        (Kept.requestKill _ o "Server disconnected")
      refine List.mem_append_left _ (ht x (hkept.proxyClients x x hlive) ?_ hn)
      exact (congrArg TunnelProxyClient.m_type (hkept.client x)).symm.trans hclient
  | @droppedAtOnce _ s o =>
    have htaken : OrphansTold
        (((s.unregisterClientConnection X o).requestKill o "Server disconnected").takeClient o) :=
      ht.detach ⟨[.killed o "Server disconnected"],rfl⟩ rfl rfl
        fun x hx => Function.update_of_ne hx _ _
    exact htaken.unregisterClient o

theorem acts_told {c c' : Config} (hc : Consistent c.1 c.2)
    (h : ReflTransGen (Act env X server client) c c') (ht : OrphansTold c.2) :
    OrphansTold c'.2 := by
  induction h with
  | refl => exact ht
  | tail hs h ih => exact act_told (acts_consistent hc hs) h ih

theorem reachable_told (h : Reachable env s) : OrphansTold s := by
  induction h with
  | new =>
    intro o hlive
    simp [live,new] at hlive
  | @step s event h hfresh ih =>
    have hc := reachable_consistent h
    exact acts_told hc (step_does s event hfresh hc) ih

/-- Where `o` is a client, it is registered and attached, and what it sends reaches its server. -/
def Reaches (env : Environment) (s : TunnelProxyServer) (o : ObjectId) (data : QByteArray) : Prop :=
  s.isClient o →
    s.m_tunnelProxyClientConnections.value (s.client o).m_uuid = some o ∧
      ∃ server, (s.clientConnection o).m_serverConnection = some server ∧
        (onClientDataAvailable env s o data).output = s.output ++ [.sent server
          (.tunnelData (s.client o).m_uuid (s.clientConnection o).m_socketAddress data)
          (SlipDataProcessor.serializeData
            (SlipDataProcessor.buildFrame ⟨(s.clientConnection o).m_socketAddress,data⟩))]

theorem onClientDataAvailable_client {o : ObjectId} (hlive : s.live o) (hclient : s.isClient o)
    (data : QByteArray) :
    onClientDataAvailable env s o data = (s.received o data).tunnelToServer o data := by
  have hv : s.m_proxyClients.value o = some o := hlive
  have htype : ((s.received o data).client o).m_type = .TypeClient :=
    ((received_own (X := o) s data).same.type o).trans hclient
  simp only [onClientDataAvailable,hv]
  rw [show s.setClient o ((s.client o).addRxDataCount s.now data.length) = s.received o data
    from rfl,htype]

theorem reaches_of (h : Reachable env s) {o : ObjectId} (hlive : s.live o)
    (horphan : ¬Orphaned s o) (data : QByteArray) : Reaches env s o data := by
  intro hclient
  have hc := reachable_consistent h
  have hsame := (received_own (X := o) s data).same
  refine ⟨(hc.client_iff _ o).mpr ⟨hlive,hclient,rfl⟩,?_⟩
  rw [onClientDataAvailable_client hlive hclient]
  rcases tunnelToServer_eq (hc.congr hsame) ((hsame.live_iff o).mpr hlive)
    ((hsame.isClient_iff o).mpr hclient) data with ⟨hnone,-⟩ | ⟨server,hserver,hout⟩
  · rw [hsame.clientConnection] at hnone
    exact absurd (reachable_told h o hlive hclient hnone) horphan
  · rw [hsame.clientConnection] at hserver hout
    rw [hsame.uuid o] at hout
    exact ⟨server,hserver,hout⟩

theorem run_reaches (h : Reachable env s) {events : List Event} (hfresh : FreshRun env s events)
    (horphans : EveryChunk env (fun t o _ => ¬Orphaned t o) s events) :
    EveryChunk env (Reaches env) s events := by
  induction events generalizing s with
  | nil => exact trivial
  | cons event events ih =>
    rw [everyChunk_cons] at horphans ⊢
    obtain ⟨hchunk,hrest⟩ := horphans
    refine ⟨fun o data he hlive => ?_,ih (h.step hfresh.1) hfresh.2 hrest⟩
    exact reaches_of h hlive (hchunk o data he hlive) data

/-- As long as no orphan is heard, no client is without a server when its data arrives. -/
theorem clients_served {events : List Event} (hfresh : FreshRun env new events)
    (horphans : EveryChunk env (fun t o _ => ¬Orphaned t o) new events) :
    EveryChunk env (Reaches env) new events :=
  run_reaches Reachable.new hfresh horphans

section Sample

def Output.failsAssertion : Output → Bool
  | .assertFailed place _ => place = "TunnelProxyServer"
  | _ => false

/-- The server goes, and its client sends more before its own disconnect is reported. -/
def orphanEvents : List Event :=
  sampleEvents false ++ [.clientDisconnected ⟨1⟩,.dataAvailable ⟨2⟩ [0x01]]

instance : Decidable (Orphaned s X) :=
  decidable_of_iff (s.output.any fun
    | .killed o reason => o = X && reason = "Server disconnected"
    | _ => false) (by
      rw [List.any_eq_true]
      constructor
      · rintro ⟨x,hx,he⟩
        cases x with
        | killed o reason =>
          simp only [Bool.and_eq_true,decide_eq_true_eq] at he
          obtain ⟨rfl,rfl⟩ := he
          exact hx
        | sent => cases he
        | assertFailed => cases he
      · exact fun h => ⟨_,h,by simp⟩)

instance {o : ObjectId} : Decidable (s.isClient o) :=
  inferInstanceAs (Decidable ((s.client o).m_type = .TypeClient))

theorem clients_served_sample :
    EveryChunk (sampleEnvironment false) (Reaches (sampleEnvironment false)) new
      (sampleEvents false) := by
  apply clients_served (by decide +kernel)
  refine ⟨fun _ => ?_,fun _ => ?_,fun _ => ?_,trivial⟩
  · decide +kernel
  · decide +kernel
  · decide +kernel

theorem orphan_heard : FreshRun (sampleEnvironment false) new orphanEvents ∧
    (new.run (sampleEnvironment false) orphanEvents).output.any Output.failsAssertion = true ∧
    ¬EveryChunk (sampleEnvironment false) (Reaches (sampleEnvironment false)) new orphanEvents := by
  refine ⟨by decide +kernel,by decide +kernel,fun h => ?_⟩
  obtain ⟨-,server,hserver,-⟩ := h.2.2.2.1 (by decide +kernel) (by decide +kernel)
  have hsome := Option.isSome_of_eq_some hserver
  exact absurd hsome (by decide +kernel)

end Sample

end RemoteProxy.TunnelProxyServer
