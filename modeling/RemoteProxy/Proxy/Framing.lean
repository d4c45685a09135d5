import RemoteProxy.Proxy.Isolation
import RemoteProxy.Proxy.Leaving

namespace RemoteProxy.TunnelProxyServer

open Relation

variable {env : Environment} {X : ObjectId} {server : QUuid → Prop} {client : ObjectId → Prop}
  {dying : List ObjectId} {s s' t : TunnelProxyServer}

section Report

theorem onClientDisconnectedWithin_kept (env : Environment) (fuel : Nat) (s : TunnelProxyServer)
    (id : QUuid) : Kept s (onClientDisconnectedWithin env fuel s id) :=
  (kept_leaving env).onClientDisconnectedWithin fuel s id

theorem killConnection_kept (env : Environment) (s : TunnelProxyServer) (o : ObjectId)
    (reason : String) : Kept s (killConnection env s o reason) :=
  (kept_leaving env).killConnection s o reason

theorem killConnection_gone (env : Environment) (s : TunnelProxyServer) (o : ObjectId)
    (reason : String) (honce : env.reportsAtOnce s.killCount = true) :
    (killConnection env s o reason).m_proxyClients.value o = none := by
  have hgone : ∀ t : TunnelProxyServer, (onClientDisconnected env t o).m_proxyClients.value o =
      none := by
    intro t
    rw [onClientDisconnected]
    cases hv : t.m_proxyClients.value o with
    | none =>
      refine Option.eq_none_iff_forall_ne_some.mpr fun x hx => ?_
      have := (onClientDisconnectedWithin_kept env _ t o).proxyClients o x hx
      rw [hv] at this
      simp at this
    | some x =>
      rw [← show (t.take o).count + 1 = t.m_proxyClients.entries.length from count_take hv,
        onClientDisconnectedWithin,hv]
      refine Option.eq_none_iff_forall_ne_some.mpr fun y hy => ?_
      have := ((kept_leaving env).disconnected (onClientDisconnectedWithin_kept env _) (t.take o)
        x).proxyClients o y hy
      simp [take,QHash.value_remove] at this
  simp only [killConnection,killConnectionWith,honce]
  exact hgone _

end Report

/-- A connection talks SLIP, or is about to, exactly when it is a server. -/
structure Agrees (s : TunnelProxyServer) (o : ObjectId) : Prop where
  slipAfterResponse : (s.client o).m_slipAfterResponseEnabled = true ↔ s.isServer o
  slip : (s.client o).m_slipEnabled = true ↔ s.isServer o

structure Framing (s : TunnelProxyServer) : Prop where
  named : ∀ id o, s.m_proxyClients.value id = some o → o = id
  agrees : ∀ o, s.live o → Agrees s o

/-- In between, `X` may have asked for SLIP without talking it yet. -/
structure Switching (env : Environment) (X : ObjectId) (s : TunnelProxyServer) : Prop where
  named : ∀ id o, s.m_proxyClients.value id = some o → o = id
  agrees : ∀ o, o ≠ X → s.live o → Agrees s o
  slipAfterResponse : s.live X → ((s.client X).m_slipAfterResponseEnabled = true ↔ s.isServer X)
  slip : s.live X → (s.client X).m_slipEnabled = true → s.isServer X
  prompt : s.live X → (s.client X).m_killConnectionRequested = true →
    env.reportsAtOnce s.killCount = false → s.isServer X → (s.client X).m_slipEnabled = true

theorem agrees_iff {o : ObjectId} : Agrees s o ↔
    ((s.client o).m_slipAfterResponseEnabled = true ↔ s.isServer o) ∧
      ((s.client o).m_slipEnabled = true ↔ s.isServer o) :=
  ⟨fun h => ⟨h.1,h.2⟩,fun h => ⟨h.1,h.2⟩⟩

theorem Agrees.of_client {o : ObjectId} (h : Agrees s o)
    (htype : (s'.client o).m_type = (s.client o).m_type)
    (hafter : (s'.client o).m_slipAfterResponseEnabled = (s.client o).m_slipAfterResponseEnabled)
    (hslip : (s'.client o).m_slipEnabled = (s.client o).m_slipEnabled) : Agrees s' o := by
  refine ⟨?_,?_⟩
  · rw [hafter,isServer,htype]
    exact h.slipAfterResponse
  · rw [hslip,isServer,htype]
    exact h.slip

theorem Agrees.kept {o : ObjectId} (h : Agrees s o) (hk : Kept s s') : Agrees s' o := by
  have hc := hk.client o
  exact h.of_client (by rw [hc]) (by rw [hc]) (by rw [hc])

theorem Framing.kept (h : Framing s) (hk : Kept s s') : Framing s' :=
  ⟨fun id o ho => h.named id o (hk.proxyClients id o ho),
    fun o ho => (h.agrees o (hk.proxyClients o o ho)).kept hk⟩

theorem Framing.setClient (h : Framing s) {o : ObjectId} {c : TunnelProxyClient}
    (htype : c.m_type = (s.client o).m_type)
    (hafter : c.m_slipAfterResponseEnabled = (s.client o).m_slipAfterResponseEnabled)
    (hslip : c.m_slipEnabled = (s.client o).m_slipEnabled) : Framing (s.setClient o c) := by
  refine ⟨h.named,fun x hx => (h.agrees x hx).of_client ?_ ?_ ?_⟩
  · rcases eq_or_ne x o with rfl | hne
    · simpa using htype
    · simp [hne]
  · rcases eq_or_ne x o with rfl | hne
    · simpa using hafter
    · simp [hne]
  · rcases eq_or_ne x o with rfl | hne
    · simpa using hslip
    · simp [hne]

theorem Framing.switching (h : Framing s) (env : Environment) (X : ObjectId) :
    Switching env X s :=
  ⟨h.named,fun o _ => h.agrees o,fun hl => (h.agrees X hl).slipAfterResponse,
    fun hl => (h.agrees X hl).slip.mp,fun hl _ _ => (h.agrees X hl).slip.mpr⟩

theorem Switching.kept (h : Switching env X s) (hk : Kept s s')
    (hcount : s'.killCount = s.killCount) : Switching env X s' := by
  have hc := hk.client X
  have hl : s'.live X → s.live X := hk.proxyClients X X
  refine ⟨fun id o ho => h.named id o (hk.proxyClients id o ho),
    fun o hne ho => (h.agrees o hne (hk.proxyClients o o ho)).kept hk,?_,?_,?_⟩
  · intro hlive
    rw [isServer,hc]
    exact h.slipAfterResponse (hl hlive)
  · intro hlive
    rw [isServer,hc]
    exact h.slip (hl hlive)
  · intro hlive
    rw [isServer,hc,hcount]
    exact h.prompt (hl hlive)

theorem finishCall_framing (h : Switching env X s) (commandId : Int) (data : QVariantMap) :
    Framing (JsonRpcServer.finishCall env s X commandId data) := by
  have ht : Switching env X (JsonRpcServer.sendResponse env s X commandId data) :=
    h.kept (Kept.sendData _ _ _ _) rfl
  simp only [JsonRpcServer.finishCall]
  generalize JsonRpcServer.sendResponse env s X commandId data = t at ht
  split
  · next hrequested =>
    have hk := killConnection_kept env t X (t.client X).m_killConnectionReason
    refine ⟨fun id o ho => ht.named id o (hk.proxyClients id o ho),?_⟩
    intro o ho
    rcases eq_or_ne o X with rfl | hne
    · cases honce : env.reportsAtOnce t.killCount with
      | true =>
        have hgone := killConnection_gone env t o (t.client o).m_killConnectionReason honce
        rw [live,hgone] at ho
        simp at ho
      | false =>
        have hl : t.live o := hk.proxyClients o o ho
        have hagrees : Agrees t o := ⟨ht.slipAfterResponse hl,ht.slip hl,ht.prompt hl hrequested honce⟩
        exact hagrees.kept hk
    · exact (ht.agrees o hne (hk.proxyClients o o ho)).kept hk
  · split
    · next hafter =>
      refine ⟨ht.named,?_⟩
      intro o ho
      rcases eq_or_ne o X with rfl | hne
      · have hserver := (ht.slipAfterResponse ho).mp hafter
        refine ⟨?_,?_⟩
        · simpa [isServer,TunnelProxyClient.setSlipEnabled] using ht.slipAfterResponse ho
        · simpa [isServer,TunnelProxyClient.setSlipEnabled] using hserver
      · exact (ht.agrees o hne ho).of_client (by simp [hne]) (by simp [hne]) (by simp [hne])
    · next hafter =>
      refine ⟨ht.named,?_⟩
      intro o ho
      rcases eq_or_ne o X with rfl | hne
      · have hnot : ¬t.isServer o := fun hs => hafter ((ht.slipAfterResponse ho).mpr hs)
        exact ⟨ht.slipAfterResponse ho,fun hs => absurd (ht.slip ho hs) hnot,fun hs => absurd hs hnot⟩
      · exact ht.agrees o hne ho

theorem activateClient_eq (c : TunnelProxyClient) (now : Nat) :
    c.activateClient now =
      { c with
        m_inactiveTimer := (c.activateClient now).m_inactiveTimer
        rxDataCountConnected := (c.activateClient now).rxDataCountConnected } := by
  simp only [TunnelProxyClient.activateClient]
  split
  · rfl
  · rfl

theorem acceptServer_switching (h : Framing s) (uuid : QUuid) (name : String)
    (hprompt : (s.client X).m_killConnectionRequested = false ∨
      env.reportsAtOnce s.killCount = true) :
    Switching env X (s.acceptServer X uuid name) := by
  have he := acceptServer_entered s X uuid name
  have hc : ((s.acceptServer X uuid name).client X).m_slipAfterResponseEnabled = true ∧
      ((s.acceptServer X uuid name).client X).m_killConnectionRequested =
        (s.client X).m_killConnectionRequested ∧
      (s.acceptServer X uuid name).killCount = s.killCount := by
    rw [acceptServer,enterAs_eq _ _ (by decide),activateClient_eq]
    simp [TunnelProxyClient.enableSlipAfterResponse,TunnelProxyClient.setName,
      TunnelProxyClient.setUuid,TunnelProxyClient.setType]
  have hserver : (s.acceptServer X uuid name).isServer X := he.type
  refine ⟨by rw [he.proxyClients]; exact h.named,?_,?_,fun _ _ => hserver,?_⟩
  · intro o hne ho
    have hx := he.others o hne
    exact (h.agrees o ((he.live_iff o).mp ho)).of_client (by rw [hx]) (by rw [hx]) (by rw [hx])
  · exact fun _ => iff_of_true hc.1 hserver
  · intro _ hrequested honce
    rw [hc.2.1] at hrequested
    rw [hc.2.2] at honce
    simp [hrequested,honce] at hprompt

theorem attachClient_framing (h : Framing s) (hlive : s.live X)
    (htype : (s.client X).m_type = .TypeNone) (uuid : QUuid) (name : String) (o : ObjectId) :
    Framing (s.attachClient X uuid name o) := by
  have he := attachClient_entered (s := s) X uuid name o
  have hold := h.agrees X hlive
  have hnot : ¬s.isServer X := by simp [isServer,htype]
  have hnot' : ¬(s.attachClient X uuid name o).isServer X := by
    have := he.type
    simp [isServer,this]
  have hc : ((s.attachClient X uuid name o).client X).m_slipAfterResponseEnabled =
        (s.client X).m_slipAfterResponseEnabled ∧
      ((s.attachClient X uuid name o).client X).m_slipEnabled = (s.client X).m_slipEnabled := by
    rw [attachClient_client,Function.update_self,activateClient_eq]
    exact ⟨rfl,rfl⟩
  refine ⟨by rw [he.proxyClients]; exact h.named,?_⟩
  intro x hx
  rcases eq_or_ne x X with rfl | hne
  · refine ⟨?_,?_⟩
    · rw [hc.1]
      exact iff_of_false (fun hs => hnot (hold.slipAfterResponse.mp hs)) hnot'
    · rw [hc.2]
      exact iff_of_false (fun hs => hnot (hold.slip.mp hs)) hnot'
  · have hx' := he.others x hne
    exact (h.agrees x ((he.live_iff x).mp hx)).of_client (by rw [hx']) (by rw [hx']) (by rw [hx'])

theorem doom_framing (h : Framing s) (o : ObjectId) (reason : String) :
    Framing (killConnectionAfterResponse s o reason) := h.setClient rfl rfl rfl

theorem turnedDown_framing (h : Framing s) {r : TunnelProxyServer × TunnelProxyError}
    (hdown : TurnedDown s X r) : Framing r.1 := by
  obtain ⟨-,he | ⟨reason,he⟩⟩ := hdown
  · rw [he]
    exact h
  · rw [he]
    exact doom_framing h X reason

theorem registerServer_switching (h : Framing s) (serverUuid : QUuid) (serverName : String)
    (hprompt : s.m_proxyClients.value X = some X → (s.client X).m_type = .TypeNone →
      s.m_tunnelProxyServerConnections.value serverUuid = none →
      s.m_tunnelProxyClientConnections.value serverUuid = none →
      (s.client X).m_killConnectionRequested = false ∨ env.reportsAtOnce s.killCount = true) :
    Switching env X (registerServer s X serverUuid serverName).1 := by
  rcases registerServer_cases (h.named X) serverUuid serverName with hdown | ⟨hv,htype,hns,hnc,he⟩
  · exact (turnedDown_framing h hdown).switching env X
  · rw [he]
    exact acceptServer_switching h _ _ (hprompt hv htype hns hnc)

theorem registerClient_framing (h : Framing s) (clientUuid : QUuid) (clientName : String)
    (serverUuid : QUuid) :
    Framing (registerClient env s X clientUuid clientName serverUuid).1 := by
  rcases registerClient_cases env (h.named X) clientUuid clientName serverUuid with
    hdown | ⟨hv,htype,-,-,o,-,he⟩
  · exact turnedDown_framing h hdown
  · rw [he]
    exact (attachClient_framing h hv htype _ _ o).kept (Kept.sendNotification env _ _ _ _ _)

theorem disconnectClient_framing (h : Framing s) (socketAddress : UInt16) :
    Framing (disconnectClient env s X socketAddress).1 := by
  rcases disconnectClient_cases env (h.named X) socketAddress with
    (he | ⟨reason,he⟩) | ⟨-,-,o,x,reason,-,-,he⟩
  · rw [he]
    exact h
  · rw [he]
    exact doom_framing h X reason
  · rw [he]
    exact h.kept (killConnection_kept env _ _ _)

/-- Unless a kill is pending that is not reported at once, a server that is let in gets its SLIP. -/
def Prompt (env : Environment) (s : TunnelProxyServer) (X : ObjectId) (item : Item) : Prop :=
  ∀ uuid, RegistersServer env s X item uuid →
    (s.client X).m_killConnectionRequested = false ∨ env.reportsAtOnce s.killCount = true

theorem method_switching (h : Framing s) {r : Request} {invoke : Handlers.Method}
    (hm : Handlers.method? env r.targetNamespace r.method = some invoke)
    (hprompt : ∀ uuid, r.RegistersServer env s X uuid →
      (s.client X).m_killConnectionRequested = false ∨ env.reportsAtOnce s.killCount = true) :
    Switching env X (invoke s r.params X).1 := by
  rcases method_cases env hm with hsame | ⟨h1,h2,rfl⟩ | ⟨-,-,rfl⟩ | ⟨-,-,rfl⟩
  · rw [hsame]
    exact h.switching env X
  · simp only [Handlers.RegisterServer]
    split
    · exact h.switching env X
    · next hnull =>
      apply registerServer_switching h _ _
      intro hv htype hns hnc
      exact hprompt _ ⟨⟨h1,h2⟩,rfl,by simpa using hnull,hv,htype,hns,hnc⟩
  · simp only [Handlers.RegisterClient]
    split
    · exact h.switching env X
    · split
      · exact h.switching env X
      · exact (registerClient_framing h _ _ _).switching env X
  · exact (disconnectClient_framing h _).switching env X

theorem invoke_framing (h : Framing s) (r : Request)
    (hprompt : ∀ uuid, r.RegistersServer env s X uuid →
      (s.client X).m_killConnectionRequested = false ∨ env.reportsAtOnce s.killCount = true) :
    Framing (JsonRpcServer.invoke env s X r) := by
  unfold JsonRpcServer.invoke JsonRpcServer.invokeMethod
  split
  · exact h
  · next invoke hm =>
    refine finishCall_framing ((method_switching h hm hprompt).kept
      (Kept.assertX _ _ _ _) ?_) _ _
    rw [TunnelProxyServer.assertX]
    split
    · rfl
    · rfl

theorem processDataPacket_framing (h : Framing s) {item : Item} {data : QByteArray}
    (hitem : item.request env = JsonRpcServer.request env data) (hprompt : Prompt env s X item) :
    Framing (JsonRpcServer.processDataPacket env s X data) := by
  rcases JsonRpcServer.processDataPacket_cases env s X data with ⟨r,hr,heq⟩ | ⟨-,_,_,_,heq⟩
  · rw [heq]
    exact invoke_framing h r fun uuid hu => hprompt uuid ⟨r,hitem.trans hr,hu⟩
  · rw [heq]
    exact h.kept ((Kept.sendData _ _ _ _).trans (killConnection_kept env _ _ _))

theorem handle_framing (h : Framing s) (item : Item) (hprompt : Prompt env s X item) :
    Framing (handle env X s item) := by
  cases item with
  | packet data => exact processDataPacket_framing h rfl hprompt
  | frame frame =>
    simp only [handle,processFrame]
    split
    · next ha => exact processDataPacket_framing h (by simp [Item.request,ha]) hprompt
    · split
      · exact h
      · split
        · exact h
        · exact h.kept ((Kept.sendData _ _ _ _).trans (Kept.counted _ _))
  | payload data => exact h.kept (Kept.tunnelToServer s X data)

theorem buffered_framing (h : Framing s) (data : QByteArray) :
    Framing (s.buffered env X data) := by
  have hs : Framing (s.setClient X ((s.client X).processData data).1) := h.setClient rfl rfl rfl
  unfold buffered
  split
  · exact h
  · split
    · exact hs
    · split
      · exact h
      · split
        · exact hs.kept (killConnection_kept env _ _ _)
        · exact hs

theorem dataAvailable_framing (h : Framing s) (data : QByteArray)
    (hprompt : s.m_proxyClients.value X = some X →
      Throughout env s X data fun t item => Prompt env t X item) :
    Framing (onClientDataAvailable env s X data) := by
  cases hv : s.m_proxyClients.value X with
  | none =>
    simp only [onClientDataAvailable,hv]
    exact h
  | some o =>
    obtain rfl := h.named X o hv
    rw [onClientDataAvailable_eq env hv]
    have hr : Framing (s.received o data) := by
      rw [received,addRxDataCount_eq]
      exact h.setClient rfl rfl rfl
    have hall : ∀ before after, (s.received o data).items o data = before ++ after →
        Framing (before.foldl (handle env o) ((s.received o data).buffered env o data)) := by
      intro before
      induction before using List.reverseRecOn with
      | nil => exact fun _ _ => buffered_framing hr data
      | append_singleton before item ih =>
        intro after he
        rw [List.foldl_concat]
        exact handle_framing (ih (item :: after) (by simpa using he)) item
          (hprompt hv before item after (by simpa using he))
    exact hall _ [] (List.append_nil _).symm

theorem connected_framing (h : Framing s) (id : QUuid) (address : String) :
    Framing (onClientConnected env s id address) := by
  have h' : Framing { s with clientIds := id :: s.clientIds } :=
    ⟨h.named,fun o ho => (h.agrees o ho).of_client rfl rfl rfl⟩
  simp only [onClientConnected]
  split
  · exact h'.kept (killConnection_kept env _ _ _)
  · generalize ht : ({ ({ s with clientIds := id :: s.clientIds } : TunnelProxyServer).setClient id
        (TunnelProxyClient.new address env.inactiveTimeout s.now) with
        m_proxyClients := s.m_proxyClients.insert id id } : TunnelProxyServer) = t
    have hnew : Framing t := by
      subst ht
      refine ⟨?_,?_⟩
      · intro x o hx
        rw [QHash.value_insert] at hx
        split at hx
        · next hxi => rw [hxi,Option.some.inj hx]
        · exact h.named x o hx
      · intro o ho
        rcases eq_or_ne o id with rfl | hne
        · simp [agrees_iff,isServer,TunnelProxyClient.new]
        · have hl : s.live o := by
            rw [live,QHash.value_insert,if_neg hne] at ho
            exact ho
          exact (h.agrees o hl).of_client (by simp [hne]) (by simp [hne]) (by simp [hne])
    apply hnew.kept
    subst ht
    unfold JsonRpcServer.registerClient
    split
    · exact Kept.refl _
    · exact Kept.of_same rfl rfl rfl rfl

theorem step_framing (h : Framing s) (event : Event)
    (hprompt : ∀ o data, event = .dataAvailable o data → s.m_proxyClients.value o = some o →
      Throughout env s o data fun t item => Prompt env t o item) :
    Framing (s.step env event) := by
  cases event with
  | clientConnected clientId address => exact connected_framing h clientId address
  | clientDisconnected clientId => exact h.kept (onClientDisconnectedWithin_kept env _ s clientId)
  | dataAvailable clientId data => exact dataAvailable_framing h data (hprompt clientId data rfl)
  | inactiveTimeout clientId =>
    simp only [step,inactiveTimeout]
    split
    · exact h
    · split
      · refine Framing.kept ?_ (killConnection_kept env _ _ _)
        exact h.setClient rfl rfl rfl
      · exact h
  | elapse ms => exact ⟨h.named,fun o ho => (h.agrees o ho).of_client rfl rfl rfl⟩

structure Speaks (o : ObjectId) (s : TunnelProxyServer) : Prop where
  announced : o ∈ s.clientIds
  isServer : s.isServer o
  slipEnabled : (s.client o).m_slipEnabled = true

theorem Speaks.not_unregistered {o : ObjectId} (h : Speaks o s)
    (htype : (s.client X).m_type = .TypeNone) : o ≠ X := by
  rintro rfl
  have := h.isServer
  simp [TunnelProxyServer.isServer,htype] at this

theorem Speaks.of_client {o : ObjectId} (h : Speaks o s) (hid : o ∈ s'.clientIds)
    (hc : s'.client o = s.client o) : Speaks o s' := by
  refine ⟨hid,?_,?_⟩
  · rw [TunnelProxyServer.isServer,hc]
    exact h.isServer
  · rw [hc]
    exact h.slipEnabled

theorem Speaks.kept {o : ObjectId} (h : Speaks o s) (hk : Kept s s') : Speaks o s' := by
  have hc := hk.client o
  refine ⟨?_,?_,?_⟩
  · rw [hk.clientIds]
    exact h.announced
  · rw [TunnelProxyServer.isServer,hc]
    exact h.isServer
  · rw [hc]
    exact h.slipEnabled

theorem act_speaks {c c' : Config} {o : ObjectId} (hc : Consistent c.1 c.2)
    (h : Act env X server client c c') (ho : Speaks o c.2) : Speaks o c'.2 := by
  rcases h.cases with hown | ⟨hid,address,rfl⟩ | ⟨uuid,name,-,-,htype,rfl⟩ |
    ⟨uuid,name,x,-,-,htype,rfl⟩ | hk
  · rcases eq_or_ne o X with rfl | hne
    · refine ⟨?_,(hown.same.isServer_iff o).mpr ho.isServer,hown.slip_kept ho.slipEnabled⟩
      rw [hown.same.clientIds]
      exact ho.announced
    · refine ho.of_client ?_ (hown.others o hne)
      rw [hown.same.clientIds]
      exact ho.announced
  · have hne : o ≠ X := by
      rintro rfl
      exact hid ho.announced
    rw [onClientConnected_eq env hc hid]
    exact ho.of_client (List.mem_cons_of_mem _ ho.announced) (Function.update_of_ne hne _ _)
  · have he := acceptServer_entered c.2 X uuid name
    refine ho.of_client ?_ (he.others o (ho.not_unregistered htype))
    rw [he.clientIds]
    exact ho.announced
  · have he := attachClient_entered (s := c.2) X uuid name x
    refine Speaks.kept ?_ (Kept.sendNotification env _ _ _ _ _)
    refine ho.of_client ?_ (he.others o (ho.not_unregistered htype))
    rw [he.clientIds]
    exact ho.announced
  · exact ho.kept hk

def Tells (o : ObjectId) (s s' : TunnelProxyServer) : Prop :=
  ∃ new, s'.output = s.output ++ new ∧ ∀ x ∈ new, Output.client x = some o → Output.framed x

theorem Tells.silent {o : ObjectId} (h : s'.output = s.output) : Tells o s s' :=
  ⟨[],by rw [h,List.append_nil],by simp⟩

theorem Tells.trans {o : ObjectId} (h : Tells o s s') (h' : Tells o s' t) : Tells o s t := by
  obtain ⟨new,hn,hf⟩ := h
  obtain ⟨new',hn',hf'⟩ := h'
  refine ⟨new ++ new',by rw [hn',hn,List.append_assoc],?_⟩
  intro x hx
  exact (List.mem_append.mp hx).elim (hf x) (hf' x)

theorem Tells.single {o : ObjectId} {x : Output} (h : s'.output = s.output ++ [x])
    (hx : Output.client x = some o → Output.framed x) : Tells o s s' :=
  ⟨[x],h,by simpa using hx⟩

theorem Tells.notification {o : ObjectId} (h : Speaks o s) (env : Environment)
    (nameSpace method : String) (params : QVariantMap) (x : ObjectId) :
    Tells o s (JsonRpcServer.sendNotification env s nameSpace method params x) := by
  apply Tells.single rfl
  intro hx
  rw [Output.client,Option.some.injEq] at hx
  subst hx
  have hs : (({ s with m_notificationId := s.m_notificationId + 1 } : TunnelProxyServer).client
      x).m_slipEnabled = true := h.slipEnabled
  rw [hs]
  exact jsonFrame_framed env _

theorem act_tells {c c' : Config} {o : ObjectId} (hc : Consistent c.1 c.2)
    (h : Act env X server client c c') (ho : Speaks o c.2) : Tells o c.2 c'.2 := by
  cases h with
  | own h =>
    obtain ⟨new,hn,hq⟩ := h.output
    refine ⟨new,hn,?_⟩
    intro x hx hxo
    obtain rfl := (hq x hx).2.1 o hxo
    exact (hq x hx).2.2 ho.slipEnabled
  | connected hid => exact Tells.silent (by rw [onClientConnected_eq env hc hid])
  | serverAccepted =>
    apply Tells.silent
    rw [acceptServer,enterAs_eq _ _ (by decide)]
    rfl
  | @clientAccepted _ s x uuid serverUuid name _ _ htype =>
    have he := attachClient_entered (s := s) X uuid name x
    have hs : Speaks o (s.attachClient X uuid name x) := by
      refine ho.of_client ?_ (he.others o (ho.not_unregistered htype))
      rw [he.clientIds]
      exact ho.announced
    refine Tells.trans ⟨_,attachClient_output s X uuid name x,?_⟩
      (Tells.notification hs env _ _ _ _)
    intro y hy hyo
    split at hy
    · simp at hy
    · rw [List.mem_singleton.mp hy] at hyo
      simp [Output.client] at hyo
  | tunnelled hlive hclient =>
    rcases tunnelToServer_eq hc hlive hclient _ with ⟨-,hown⟩ | ⟨x,-,hout⟩
    · obtain ⟨new,hn,hq⟩ := hown.output
      refine ⟨new,hn,?_⟩
      intro x hx hxo
      obtain rfl := (hq x hx).2.1 o hxo
      exact (hq x hx).2.2 ho.slipEnabled
    · exact Tells.single hout fun _ => ⟨_,rfl⟩
  | @forwarded _ s x data count hto =>
    apply Tells.single (x := .sent x (.payload data) data) rfl
    intro hxo
    rw [Output.client,Option.some.injEq] at hxo
    subst hxo
    exact absurd (hc.attached x X hto).2.1 (isServer_not_isClient ho.isServer)
  | taken => exact Tells.silent rfl
  | serverTaken => exact Tells.silent rfl
  | clientTaken => exact Tells.silent rfl
  | @clientDetached _ s x hlive hclient hto =>
    have hs := (ho.kept (Kept.takeClient s X)).kept (Kept.unregisterClientConnection _ x X)
    exact Tells.trans (Tells.silent rfl) (Tells.notification hs env _ _ _ _)
  | finished => exact Tells.silent (unregisterClient_rest _ _).2
  | expelled => exact Tells.single (x := .killed _ _) rfl fun _ => trivial
  | @expelledAtOnce _ s x reason hto =>
    have hs := ((ho.kept (Kept.requestKill s x reason)).kept (Kept.takeClient _ x)).kept
      (Kept.unregisterClientConnection _ X x)
    have hkill : Tells o s (s.requestKill x reason) :=
      Tells.single (x := .killed x reason) rfl fun _ => trivial
    exact ((hkill.trans (Tells.silent rfl)).trans (Tells.notification hs env _ _ _ _)).trans
      (Tells.silent (unregisterClient_rest _ _).2)
  | dropped => exact Tells.single (x := .killed _ _) rfl fun _ => trivial
  | droppedAtOnce =>
    exact Tells.single (x := .killed _ _) ((unregisterClient_rest _ _).2.trans rfl) fun _ => trivial

theorem acts_tell {c c' : Config} {o : ObjectId} (hc : Consistent c.1 c.2)
    (h : ReflTransGen (Act env X server client) c c') (ho : Speaks o c.2) :
    Speaks o c'.2 ∧ Tells o c.2 c'.2 := by
  induction h with
  | refl => exact ⟨ho,Tells.silent rfl⟩
  | tail hs hm ih =>
    have hc' := acts_consistent hc hs
    exact ⟨act_speaks hc' hm ih.1,ih.2.trans (act_tells hc' hm ih.1)⟩

theorem act_becomes {c c' : Config} (hid : X ∈ c.2.clientIds)
    (h : Act env X server client c c') (hs : c'.2.isServer X) :
    c.2.isServer X ∨ ∃ uuid, server uuid := by
  rcases h.cases with hown | ⟨hno,-⟩ | ⟨uuid,-,hu,-⟩ | ⟨uuid,name,x,-,-,-,rfl⟩ | hk
  · exact .inl ((hown.same.isServer_iff X).mp hs)
  · exact absurd hid hno
  · exact .inr ⟨uuid,hu⟩
  · have he := attachClient_entered (s := c.2) X uuid name x
    have hsame := SameRegistry.sendNotification env (c.2.attachClient X uuid name x) "TunnelProxy"
      "ClientConnected" (clientConnectedParams env (c.2.attachClient X uuid name x) X)
      ((c.2.attachClient X uuid name x).serverConnection x).m_transportClient
    have := (hsame.isServer_iff X).mp hs
    simp [isServer,he.type] at this
  · have hc := hk.client X
    rw [isServer,hc] at hs
    exact .inl hs

theorem acts_become {c c' : Config} (hid : X ∈ c.2.clientIds)
    (h : ReflTransGen (Act env X server client) c c') (hs : c'.2.isServer X) :
    c.2.isServer X ∨ ∃ uuid, server uuid := by
  have hall : X ∈ c'.2.clientIds ∧ (c'.2.isServer X → c.2.isServer X ∨ ∃ uuid, server uuid) := by
    clear hs
    induction h with
    | refl => exact ⟨hid,.inl⟩
    | tail _ hlast ih =>
      refine ⟨act_announced hlast ih.1,?_⟩
      intro hs
      exact (act_becomes ih.1 hlast hs).elim ih.2 .inr
  exact hall.2 hs

/-- Nothing else of a chunk is handled once it has made its connection a server. -/
def Alone (env : Environment) (s : TunnelProxyServer) (o : ObjectId) (data : QByteArray) : Prop :=
  ∀ before item after, (s.received o data).items o data = before ++ item :: after →
    (∃ uuid, RegistersServer env (before.foldl (handle env o)
      ((s.received o data).buffered env o data)) o item uuid) → after = []

/-- The framing of every connection is that of its role, now and for all it exchanges from here. -/
structure FramingAgrees (env : Environment) (s : TunnelProxyServer) : Prop where
  boundary : ∀ o, s.live o → ((s.client o).m_slipEnabled = true ↔ s.isServer o)
  received : ∀ o data, s.live o → s.isServer o → (s.received o data).items o data =
    (TunnelProxyClient.processSlip (s.client o).m_dataBuffer data).2.map fun packet =>
      .frame (SlipDataProcessor.parseFrame packet)
  sent : ∀ o event, s.live o → s.isServer o → s.Fresh event →
    (s.step env event).isServer o ∧ Tells o s (s.step env event)

theorem items_framed (h : Framing s) {o : ObjectId} (hlive : s.live o) (hserver : s.isServer o)
    (data : QByteArray) : s.items o data =
      (TunnelProxyClient.processSlip (s.client o).m_dataBuffer data).2.map fun packet =>
        .frame (SlipDataProcessor.parseFrame packet) := by
  have hslip := (h.agrees o hlive).slip.mpr hserver
  have htype : (s.client o).m_type = .TypeServer := hserver
  simp [items,framed,htype,hslip,TunnelProxyClient.processData]

theorem received_framing (h : Framing s) (o : ObjectId) (data : QByteArray) :
    Framing (s.received o data) := by
  rw [received,addRxDataCount_eq]
  exact h.setClient rfl rfl rfl

theorem Framing.agreesAll (h : Framing s) (hc : Consistent [] s) : FramingAgrees env s := by
  refine ⟨fun o ho => (h.agrees o ho).slip,?_,?_⟩
  · intro o data ho hs
    have hown := received_own (X := o) s data
    rw [items_framed (received_framing h o data) ((hown.same.live_iff o).mpr ho)
      ((hown.same.isServer_iff o).mpr hs)]
    have hbuffer : ((s.received o data).client o).m_dataBuffer = (s.client o).m_dataBuffer := by
      rw [received,addRxDataCount_eq]
      simp
    rw [hbuffer]
  · intro o event ho hs hfresh
    have hspeaks : Speaks o s := ⟨hc.announced o (.inl ho),hs,(h.agrees o ho).slip.mpr hs⟩
    obtain ⟨h1,h2⟩ := acts_tell hc (step_does s event hfresh hc) hspeaks
    exact ⟨h1.isServer,h2⟩

theorem alone_framed (h : Framing s) (hc : Consistent [] s) {o : ObjectId} (hlive : s.live o)
    {data : QByteArray} (halone : Alone env s o data) :
    Throughout env s o data fun t item => t.isServer o → ∃ frame, item = .frame frame := by
  intro before item after he hs
  have hown := received_own (X := o) s data
  have hlive' : (s.received o data).live o := (hown.same.live_iff o).mpr hlive
  have hc' := hc.congr hown.same
  have hpre := prefix_does env hlive' hc' data he
  rcases acts_become (hc'.announced o (.inl hlive')) (hpre hc') hs with hs | ⟨uuid,b,i,r,hb,hu⟩
  · have hmem : item ∈ (s.received o data).items o data := by
      rw [he]
      exact List.mem_append_right _ (List.mem_cons_self ..)
    rw [items_framed (received_framing h o data) hlive' hs] at hmem
    obtain ⟨packet,-,rfl⟩ := List.mem_map.mp hmem
    exact ⟨_,rfl⟩
  · have hnil := halone b i (r ++ item :: after) (by rw [he,hb,List.append_assoc,List.cons_append])
      ⟨uuid,hu⟩
    simp at hnil

theorem run_framing {events : List Event} (hr : Reachable env s) (h : Framing s)
    (hfresh : FreshRun env s events) (hprompt : EveryItem env (Prompt env) s events) :
    Reachable env (s.run env events) ∧ Framing (s.run env events) ∧
      (EveryChunk env (Alone env) s events →
        EveryItem env (fun t o item => t.isServer o → ∃ frame, item = .frame frame) s events) := by
  induction events generalizing s with
  | nil => exact ⟨hr,h,fun _ => trivial⟩
  | cons event events ih =>
    obtain ⟨hitem,hrest⟩ := (everyChunk_cons env).mp hprompt
    obtain ⟨ih1,ih2,ih3⟩ := ih (hr.step hfresh.1) (step_framing h event hitem) hfresh.2 hrest
    refine ⟨ih1,ih2,?_⟩
    intro halone
    obtain ⟨hchunk,hafter⟩ := (everyChunk_cons env).mp halone
    refine (everyChunk_cons env).mpr ⟨?_,ih3 hafter⟩
    intro o data he hlive
    exact alone_framed h (reachable_consistent hr) hlive (hchunk o data he hlive)

theorem new_framing : Framing new := ⟨by simp [new],by simp [new,live]⟩

/-- As long as nobody registers as a server while its kill is pending, role and framing agree. -/
theorem framing_agrees {events : List Event} (hfresh : FreshRun env new events)
    (hprompt : EveryItem env (Prompt env) new events) :
    FramingAgrees env (new.run env events) ∧
      (EveryChunk env (Alone env) new events →
        EveryItem env (fun t o item => t.isServer o → ∃ frame, item = .frame frame) new events) := by
  obtain ⟨h1,h2,h3⟩ := run_framing Reachable.new new_framing hfresh hprompt
  exact ⟨h2.agreesAll (reachable_consistent h1),h3⟩

section Sample

def registeringEvents : List Event :=
  [.clientConnected ⟨1⟩ "10.0.0.1",.dataAvailable ⟨1⟩ (request false registerServerRequest)]

theorem framing_agrees_registering :
    FramingAgrees (sampleEnvironment false) (new.run (sampleEnvironment false) registeringEvents) ∧
      (EveryChunk (sampleEnvironment false) (Alone (sampleEnvironment false)) new
          registeringEvents →
        EveryItem (sampleEnvironment false)
          (fun t o item => t.isServer o → ∃ frame, item = .frame frame) new registeringEvents) := by
  refine framing_agrees (by decide +kernel) ⟨fun _ => ?_,trivial⟩
  intro before item after he uuid _
  have hone : (((new.step (sampleEnvironment false) (.clientConnected ⟨1⟩ "10.0.0.1")).received ⟨1⟩
      (request false registerServerRequest)).items ⟨1⟩
        (request false registerServerRequest)).length = 1 := by decide +kernel
  rw [he,List.length_append,List.length_cons] at hone
  obtain rfl : before = [] := List.eq_nil_of_length_eq_zero (by omega)
  exact .inl (by decide +kernel)

/-- A client asks for a server that is not there, and then to be a server itself. -/
def pendingKillEvents : List Event :=
  [.clientConnected ⟨1⟩ "10.0.0.1",
    .dataAvailable ⟨1⟩ (request false registerClientRequest ++ request false registerServerRequest)]

theorem pending_kill_unframed : FreshRun (sampleEnvironment false) new pendingKillEvents ∧
    ¬FramingAgrees (sampleEnvironment false)
      (new.run (sampleEnvironment false) pendingKillEvents) := by
  refine ⟨by decide +kernel,fun h => ?_⟩
  have hlive : (new.run (sampleEnvironment false) pendingKillEvents).live ⟨1⟩ := by
    rw [live]
    decide +kernel
  have hserver : (new.run (sampleEnvironment false) pendingKillEvents).isServer ⟨1⟩ := by
    rw [isServer]
    decide +kernel
  have hslip : ((new.run (sampleEnvironment false) pendingKillEvents).client ⟨1⟩).m_slipEnabled =
      false := by decide +kernel
  have := (h.boundary ⟨1⟩ hlive).mpr hserver
  rw [hslip] at this
  simp at this

end Sample

end RemoteProxy.TunnelProxyServer
