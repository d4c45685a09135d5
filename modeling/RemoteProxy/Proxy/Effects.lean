import RemoteProxy.Proxy.Answers

namespace RemoteProxy.TunnelProxyServer

open Relation

/-- At most the tables change, and nobody gets into `m_proxyClients`. -/
structure SameTraffic (s s' : TunnelProxyServer) : Prop where
  proxyClients : ∀ u o, s'.m_proxyClients.value u = some o → s.m_proxyClients.value u = some o
  client : s'.client = s.client
  troughputCounter : s'.m_troughputCounter = s.m_troughputCounter
  notificationId : s'.m_notificationId = s.m_notificationId
  now : s'.now = s.now
  clientIds : s'.clientIds = s.clientIds
  output : s'.output = s.output

def passUp (s : TunnelProxyServer) (server : ObjectId) (clientUuid : QUuid)
    (socketAddress : UInt16) (data : QByteArray) : TunnelProxyServer :=
  { s.sendData server (.tunnelData clientUuid socketAddress data)
      (SlipDataProcessor.serializeData (SlipDataProcessor.buildFrame ⟨socketAddress,data⟩)) with
    m_troughputCounter := s.m_troughputCounter + .ofNat data.length }

def passDown (s : TunnelProxyServer) (client : ObjectId) (data : QByteArray) :
    TunnelProxyServer :=
  { s.sendData client (.payload data) data with
    m_troughputCounter := s.m_troughputCounter + .ofNat data.length }

def processed (s : TunnelProxyServer) (o : ObjectId) (data : QByteArray) : TunnelProxyServer :=
  s.setClient o ((s.client o).processData data).1

def registeredAs (s : TunnelProxyServer) (o : ObjectId) (type : ClientType) (uuid : QUuid)
    (name : String) : TunnelProxyServer :=
  s.setClient o
    (((((s.client o).setType type).setUuid uuid).setName name).activateClient s.now)

variable (env : Environment)

def admitted (s : TunnelProxyServer) (id : QUuid) (address : String) : TunnelProxyServer :=
  { s with
    clientIds := id :: s.clientIds
    client := Function.update s.client id
      (TunnelProxyClient.new address env.inactiveTimeout s.now)
    m_proxyClients := s.m_proxyClients.insert id id
    m_clients := s.m_clients ++ [id] }

/-- A method has returned what its description does not allow; `Introspect` is not checked. -/
structure Misreturns (s : TunnelProxyServer) (o : ObjectId) (data : QByteArray) (r : Request)
    (method : Handlers.Method) : Prop where
  request : JsonRpcServer.request env data = some r
  found : Handlers.method? env r.targetNamespace r.method = some method
  checked : (r.targetNamespace = "RemoteProxy" && r.method = "Introspect") = false
  returns : (r.handler.validateReturns env.toQt r.method (method s r.params o).2).1 = false

/-- What is sent in answer to a request: what its method returns, or an error. -/
inductive Answer : Message → Prop where
  | response {s : TunnelProxyServer} {o : ObjectId} {data : QByteArray} {r : Request}
      {method : Handlers.Method} : JsonRpcServer.request env data = some r →
      Handlers.method? env r.targetNamespace r.method = some method →
      Answer (.response r.commandId (method s r.params o).2)
  | errorResponse {commandId : Int} {error : String} : Answer (.errorResponse commandId error)

inductive Flaw : String → Prop where
  | unattached : Flaw "TunnelProxyServer"
  | noFreeAddress : Flaw "TunnelProxyServerConnection"
  | misreturned {s : TunnelProxyServer} {o : ObjectId} {data : QByteArray} {r : Request}
      {method : Handlers.Method} : Misreturns env s o data r method →
      Flaw "validating return value"

/-- The handlers do nothing else to the proxy, whatever the tables hold; where the data of a client
are passed up, `up` holds. -/
inductive Effect (up : Prop) : TunnelProxyServer → TunnelProxyServer → Prop where
  | tables {s s' : TunnelProxyServer} : SameTraffic s s' → Effect up s s'
  | processed {s : TunnelProxyServer} {o : ObjectId} {data : QByteArray} :
      (s.client o).m_slipEnabled = true ∨ s.overflows o data = false →
      Effect up s (s.processed o data)
  | overflowed {s : TunnelProxyServer} {o : ObjectId} {data : QByteArray} {reason : String} :
      Effect up s ((s.processed o data).requestKill o reason)
  | doomed {s : TunnelProxyServer} {o : ObjectId} {reason : String} :
      Effect up s (killConnectionAfterResponse s o reason)
  | registered {s : TunnelProxyServer} {o : ObjectId} {type : ClientType} {uuid : QUuid}
      {name : String} : type ≠ .TypeNone → (s.client o).m_type = .TypeNone →
      Effect up s (s.registeredAs o type uuid name)
  | slipRequested {s : TunnelProxyServer} {o : ObjectId} :
      Effect up s (s.setClient o (s.client o).enableSlipAfterResponse)
  | slipEnabled {s : TunnelProxyServer} {o : ObjectId} :
      Effect up s (s.setClient o ((s.client o).setSlipEnabled true))
  | timedOut {s : TunnelProxyServer} {o : ObjectId} {reason : String} :
      Effect up s ((s.setClient o { s.client o with
        m_inactiveTimer := (s.client o).m_inactiveTimer.timeout s.now }).requestKill o reason)
  | answered {s : TunnelProxyServer} {o : ObjectId} {m : Message} : Answer env m →
      Effect up s (JsonRpcServer.sendMessage env s o m)
  | notified {s : TunnelProxyServer} {nameSpace method : String} {params : QVariantMap}
      {o : ObjectId} : Effect up s (JsonRpcServer.sendNotification env s nameSpace method params o)
  | passedUp {s : TunnelProxyServer} {server : ObjectId} {clientUuid : QUuid}
      {socketAddress : UInt16} {data : QByteArray} : up →
      Effect up s (s.passUp server clientUuid socketAddress data)
  | passedDown {s : TunnelProxyServer} {o : ObjectId} {data : QByteArray} : s.isClient o →
      Effect up s (s.passDown o data)
  | asserted {s : TunnelProxyServer} {place what : String} : Flaw env place →
      Effect up s (s.emit (.assertFailed place what))
  | killRequested {s : TunnelProxyServer} {o : ObjectId} {reason : String} :
      Effect up s (s.requestKill o reason)

abbrev Effects (up : Prop) : TunnelProxyServer → TunnelProxyServer → Prop :=
  ReflTransGen (Effect env up)

variable {env} {up : Prop} {s s' t : TunnelProxyServer}

theorem Answer.isSome {m : Message} (h : Answer env m) : (Message.answer? m).isSome = true := by
  cases h with
  | response => rfl
  | errorResponse => rfl

theorem SameTraffic.of_same (hp : s'.m_proxyClients = s.m_proxyClients)
    (hc : s'.client = s.client) (ht : s'.m_troughputCounter = s.m_troughputCounter)
    (hn : s'.m_notificationId = s.m_notificationId) (hnow : s'.now = s.now)
    (hids : s'.clientIds = s.clientIds) (ho : s'.output = s.output) : SameTraffic s s' :=
  ⟨fun _ _ h => hp ▸ h,hc,ht,hn,hnow,hids,ho⟩

section Leave

theorem effects_leaving (env : Environment) : Leaving env (Effects env up) where
  refl _ := .refl
  trans := ReflTransGen.trans
  take _ _ := .single (.tables ⟨fun _ _ h => value_remove_shrinks h,rfl,rfl,rfl,rfl,rfl,rfl⟩)
  serverEntry _ _ := .single (.tables (.of_same rfl rfl rfl rfl rfl rfl rfl))
  clientEntry _ _ := .single (.tables (.of_same rfl rfl rfl rfl rfl rfl rfl))
  detach _ _ _ := .single (.tables (.of_same rfl rfl rfl rfl rfl rfl rfl))
  kill _ _ _ := .single .killRequested
  notify _ _ _ _ _ := .single .notified
  unregister s o := by
    refine .single (.tables ?_)
    unfold JsonRpcServer.unregisterClient
    split
    · exact .of_same rfl rfl rfl rfl rfl rfl rfl
    · exact .of_same rfl rfl rfl rfl rfl rfl rfl

theorem effects_killed {o : ObjectId} {reason : String}
    (hw : Effect env up s (t.requestKill o reason)) :
    Effects env up s (killConnection env t o reason) := by
  simp only [killConnection,killConnectionWith]
  split
  · exact (ReflTransGen.single hw).trans ((effects_leaving env).onClientDisconnectedWithin _ _ o)
  · exact .single hw

theorem effects_onClientDisconnected (env : Environment) (s : TunnelProxyServer) (id : QUuid) :
    Effects env False s (onClientDisconnected env s id) :=
  (effects_leaving env).onClientDisconnectedWithin _ s id

end Leave

section Deeds

variable (env) in
/-- What a handler does at a time: an effect that kills nobody, or a kill with all that it brings. -/
inductive Deed (up : Prop) : TunnelProxyServer → TunnelProxyServer → Prop where
  | quiet {s s' : TunnelProxyServer} : Effect env up s s' → s'.m_proxyClients = s.m_proxyClients →
      s'.killCount = s.killCount → Deed up s s'
  | killed {s t : TunnelProxyServer} {o : ObjectId} {reason : String} :
      Effect env up s (t.requestKill o reason) → t.m_proxyClients = s.m_proxyClients →
      t.killCount = s.killCount → t.output = s.output →
      Deed up s (killConnection env t o reason)

variable (env) in
abbrev Deeds (up : Prop) : TunnelProxyServer → TunnelProxyServer → Prop :=
  ReflTransGen (Deed env up)

theorem effects_of_deed (h : Deed env up s s') : Effects env up s s' := by
  cases h with
  | quiet hw _ _ => exact .single hw
  | killed hw _ _ _ => exact effects_killed hw

theorem effects_of_deeds (h : Deeds env up s s') : Effects env up s s' := by
  induction h with
  | refl => exact .refl
  | tail _ hd ih => exact ih.trans (effects_of_deed hd)

theorem deeds_assertX (s : TunnelProxyServer) {condition : Bool} {place : String} (what : String)
    (h : condition = false → Flaw env place) : Deeds env up s (s.assertX condition place what) := by
  rw [assertX]
  split
  · exact .refl
  · next hc => exact .single (.quiet (.asserted (h (by simpa using hc))) rfl rfl)

theorem deed_notified (s : TunnelProxyServer) (nameSpace method : String) (params : QVariantMap)
    (o : ObjectId) : Deed env up s (JsonRpcServer.sendNotification env s nameSpace method params o) :=
  .quiet .notified rfl rfl

theorem deeds_killConnection (env : Environment) (s : TunnelProxyServer) (o : ObjectId)
    (reason : String) : Deeds env up s (killConnection env s o reason) :=
  .single (.killed .killRequested rfl rfl rfl)

end Deeds

section Methods

theorem deeds_acceptServer {o : ObjectId} (htype : (s.client o).m_type = .TypeNone)
    (uuid : QUuid) (name : String) : Deeds env up s (s.acceptServer o uuid name) := by
  rw [acceptServer,enterAs_eq s o (by decide)]
  have hregistered : Deeds env up s (s.registeredAs o .TypeServer uuid name) :=
    .single (.quiet (.registered (by decide) htype) rfl rfl)
  exact (hregistered.tail (.quiet .slipRequested rfl rfl)).tail
    (.quiet (.tables (.of_same rfl rfl rfl rfl rfl rfl rfl)) rfl rfl)

theorem deeds_registerClientConnection (s : TunnelProxyServer) (server client : ObjectId) :
    Deeds env up s (s.registerClientConnection server client) := by
  rw [registerClientConnection]
  exact (deeds_assertX s _ fun _ => .noFreeAddress).tail
    (.quiet (.tables (.of_same rfl rfl rfl rfl rfl rfl rfl)) rfl rfl)

theorem deeds_acceptClient {o : ObjectId} (htype : (s.client o).m_type = .TypeNone)
    (uuid : QUuid) (name : String) (server : ObjectId) :
    Deeds env up s (acceptClient env s o uuid name server) := by
  rw [acceptClient,attachClient,enterAs_eq s o (by decide)]
  have hregistered : Deeds env up s (s.registeredAs o .TypeClient uuid name) :=
    .single (.quiet (.registered (by decide) htype) rfl rfl)
  refine ((hregistered.tail (.quiet (.tables ?_) ?_ ?_)).trans
    (deeds_registerClientConnection _ server o)).tail (deed_notified _ _ _ _ _)
  · exact .of_same rfl rfl rfl rfl rfl rfl rfl
  · rfl
  · rfl

theorem deeds_registerServer (s : TunnelProxyServer) (clientId uuid : QUuid) (name : String) :
    Deeds env up s (registerServer s clientId uuid name).1 := by
  simp only [registerServer]
  split
  · exact .refl
  · split
    · exact .single (.quiet .doomed rfl rfl)
    · next htype =>
      split
      · exact .single (.quiet .doomed rfl rfl)
      · split
        · exact .single (.quiet .doomed rfl rfl)
        · exact deeds_acceptServer (not_not.mp htype) _ _

theorem deeds_registerClient (s : TunnelProxyServer) (clientId clientUuid : QUuid)
    (name : String) (serverUuid : QUuid) :
    Deeds env up s (registerClient env s clientId clientUuid name serverUuid).1 := by
  simp only [registerClient]
  split
  · exact .refl
  · split
    · exact .single (.quiet .doomed rfl rfl)
    · next htype =>
      split
      · exact .single (.quiet .doomed rfl rfl)
      · split
        · exact .single (.quiet .doomed rfl rfl)
        · split
          · exact .single (.quiet .doomed rfl rfl)
          · exact deeds_acceptClient (not_not.mp htype) _ _ _

theorem deeds_disconnectClient (s : TunnelProxyServer) (clientId : QUuid)
    (socketAddress : UInt16) : Deeds env up s (disconnectClient env s clientId socketAddress).1 := by
  simp only [disconnectClient]
  split
  · exact .refl
  · split
    · exact .single (.quiet .doomed rfl rfl)
    · split
      · exact .single (.quiet .doomed rfl rfl)
      · split
        · exact .refl
        · exact deeds_killConnection env s _ _

theorem deeds_method {targetNamespace name : String} {method : Handlers.Method}
    (hm : Handlers.method? env targetNamespace name = some method) (s : TunnelProxyServer)
    (params : QVariantMap) (o : ObjectId) : Deeds env up s (method s params o).1 := by
  rcases method_cases env hm with hsame | ⟨-,-,rfl⟩ | ⟨-,-,rfl⟩ | ⟨-,-,rfl⟩
  · rw [hsame]
  · simp only [Handlers.RegisterServer]
    split
    · exact .refl
    · exact deeds_registerServer s _ _ _
  · simp only [Handlers.RegisterClient]
    split
    · exact .refl
    · split
      · exact .refl
      · exact deeds_registerClient s _ _ _ _
  · exact deeds_disconnectClient s _ _

end Methods

section Packets

theorem deeds_finishCall (s : TunnelProxyServer) (o : ObjectId) {commandId : Int}
    {data : QVariantMap} (hanswer : Answer env (.response commandId data)) :
    Deeds env up s (JsonRpcServer.finishCall env s o commandId data) := by
  have hanswered : Deeds env up s (JsonRpcServer.sendResponse env s o commandId data) :=
    .single (.quiet (.answered hanswer) rfl rfl)
  simp only [JsonRpcServer.finishCall]
  split
  · exact hanswered.trans (deeds_killConnection env _ o _)
  · split
    · exact hanswered.tail (.quiet .slipEnabled rfl rfl)
    · exact hanswered

theorem deeds_invoke {data : QByteArray} {r : Request}
    (hr : JsonRpcServer.request env data = some r) (s : TunnelProxyServer) (o : ObjectId) :
    Deeds env up s (JsonRpcServer.invoke env s o r) := by
  simp only [JsonRpcServer.invoke,JsonRpcServer.invokeMethod]
  split
  · exact .refl
  · next method hm =>
    refine ((deeds_method hm s r.params o).trans (deeds_assertX _ _ fun hflaw => ?_)).trans
      (deeds_finishCall _ o (.response hr hm))
    rw [Bool.or_eq_false_iff] at hflaw
    exact .misreturned ⟨hr,hm,hflaw.1,hflaw.2⟩

theorem deeds_refuse (s : TunnelProxyServer) (o : ObjectId) (commandId : Int)
    (error reason : String) : Deeds env up s (JsonRpcServer.refuse env s o commandId error reason) :=
  (ReflTransGen.single (.quiet (.answered .errorResponse) rfl rfl)).trans
    (deeds_killConnection env _ o reason)

theorem deeds_processDataPacket (s : TunnelProxyServer) (o : ObjectId) (data : QByteArray) :
    Deeds env up s (JsonRpcServer.processDataPacket env s o data) := by
  rcases JsonRpcServer.processDataPacket_cases env s o data with
    ⟨r,hr,heq⟩ | ⟨-,commandId,error,reason,heq⟩
  · rw [heq]
    exact deeds_invoke hr s o
  · rw [heq]
    exact deeds_refuse s o commandId error reason

theorem deeds_tunnelToServer (hup : up) (s : TunnelProxyServer) (o : ObjectId)
    (data : QByteArray) : Deeds env up s (s.tunnelToServer o data) := by
  unfold tunnelToServer
  split
  · exact .refl
  · split
    · exact deeds_assertX s _ fun _ => .unattached
    · exact .single (.quiet (.passedUp hup) rfl rfl)

theorem deeds_processFrame (hc : Consistent [] s) (o : ObjectId)
    (frame : SlipDataProcessor.Frame) : Deeds env up s (processFrame env s o frame) := by
  simp only [processFrame]
  split
  · exact deeds_processDataPacket s o _
  · split
    · exact .refl
    · next server hserver =>
      split
      · exact .refl
      · next client hclient =>
        obtain ⟨hlive,hisServer,-⟩ := (hc.server_iff _ server).mp hserver
        obtain ⟨hl,hisClient,-⟩ := hc.addressed server _ client ⟨hisServer,.inl hlive⟩ hclient
        rw [(hc.clientTransport client hl hisClient).1]
        exact .single (.quiet (.passedDown hisClient) rfl rfl)

theorem deeds_handle (hc : Consistent [] s) (o : ObjectId) {item : Item}
    (hup : ∀ data, item = .payload data → up) : Deeds env up s (handle env o s item) := by
  cases item with
  | packet data => exact deeds_processDataPacket s o data
  | frame frame => exact deeds_processFrame hc o frame
  | payload data => exact deeds_tunnelToServer (hup data rfl) s o data

theorem deeds_buffered (s : TunnelProxyServer) (o : ObjectId) (data : QByteArray) :
    Deeds env up s (s.buffered env o data) := by
  simp only [buffered]
  split
  · exact .refl
  · split
    · next hframed =>
      simp only [framed,Bool.and_eq_true] at hframed
      exact .single (.quiet (.processed (.inl hframed.2)) rfl rfl)
    · split
      · exact .refl
      · split
        · exact .single (.killed .overflowed rfl rfl rfl)
        · next hfits => exact .single (.quiet (.processed (.inr (by simpa using hfits))) rfl rfl)

theorem items_payload {o : ObjectId} {data payload : QByteArray}
    (hm : .payload payload ∈ s.items o data) : s.isClient o := by
  rw [items] at hm
  split at hm
  · assumption
  · split at hm
    · simp at hm
    · split at hm
      · simp at hm
      · simp at hm

theorem deeds_items (hc : Consistent [] s) {o : ObjectId} (hlive : s.live o) (data : QByteArray)
    {items after : List Item} (he : s.items o data = items ++ after) :
    Deeds env (s.isClient o) s (items.foldl (handle env o) (s.buffered env o data)) := by
  induction items using List.reverseRecOn generalizing after with
  | nil => exact deeds_buffered s o data
  | append_singleton items item ih =>
    rw [List.append_assoc] at he
    have hbefore := (prefix_does env hlive hc data he).consistent hc
    rw [List.foldl_append,List.foldl_cons,List.foldl_nil]
    refine (ih he).trans (deeds_handle hbefore o fun payload hitem => ?_)
    refine items_payload (show .payload payload ∈ s.items o data from ?_)
    rw [he,hitem]
    simp

end Packets

section Run

theorem deeds_inactiveTimeout (s : TunnelProxyServer) (id : QUuid) :
    Deeds env False s (inactiveTimeout env s id) := by
  simp only [inactiveTimeout]
  split
  · exact .refl
  · split
    · exact .single (.killed .timedOut rfl rfl rfl)
    · exact .refl

theorem deeds_dataAvailable (hc : Consistent [] s) {o : ObjectId} (hlive : s.live o)
    (data : QByteArray) :
    Deeds env (s.isClient o) (s.received o data) (onClientDataAvailable env s o data) := by
  have hown := received_own (X := o) s data
  have hkind : (s.received o data).isClient o = s.isClient o := by
    rw [received,addRxDataCount_eq,isClient,setClient_client,Function.update_self]
    rfl
  rw [onClientDataAvailable_eq env hlive,← hkind]
  exact deeds_items (hc.congr hown.same) ((hown.same.live_iff o).mpr hlive) data
    (List.append_nil _).symm

/-- What an event is to the connection it comes from, and the effects that follow. -/
inductive Stepped (env : Environment) (s : TunnelProxyServer) :
    Event → TunnelProxyServer → Prop where
  | admitted {id : QUuid} {address : String} : id ∉ s.clientIds →
      Stepped env s (.clientConnected id address) (admitted env s id address)
  | received {o : ObjectId} {data : QByteArray} {t : TunnelProxyServer} : s.live o →
      Effects env (s.isClient o) (s.received o data) t → Stepped env s (.dataAvailable o data) t
  | ignored {o : ObjectId} {data : QByteArray} : ¬s.live o →
      Stepped env s (.dataAvailable o data) s
  | left {id : QUuid} {t : TunnelProxyServer} : Effects env False s t →
      Stepped env s (.clientDisconnected id) t
  | timedOut {id : QUuid} {t : TunnelProxyServer} : Effects env False s t →
      Stepped env s (.inactiveTimeout id) t
  | elapsed {ms : Nat} : Stepped env s (.elapse ms) { s with now := s.now + ms }

theorem stepped (env : Environment) (hc : Consistent [] s) {event : Event} (hfresh : s.Fresh event) :
    Stepped env s event (s.step env event) := by
  cases event with
  | clientConnected id address =>
    rw [step,onClientConnected_eq env hc hfresh]
    exact .admitted hfresh
  | clientDisconnected id => exact .left (effects_onClientDisconnected env s id)
  | dataAvailable id data =>
    rw [step]
    cases hv : s.m_proxyClients.value id with
    | none =>
      simp only [onClientDataAvailable,hv]
      exact .ignored fun hlive => by simp [live,hv] at hlive
    | some o =>
      obtain rfl := hc.named id o hv
      exact .received hv (effects_of_deeds (deeds_dataAvailable hc hv data))
  | inactiveTimeout id => exact .timedOut (effects_of_deeds (deeds_inactiveTimeout s id))
  | elapse ms => exact .elapsed

theorem effects_keep {P : TunnelProxyServer → Prop}
    (heffect : ∀ s s', P s → Effect env up s s' → P s')
    (hw : Effects env up s s') (hs : P s) : P s' := by
  induction hw with
  | refl => exact hs
  | tail _ hw ih => exact heffect _ _ ih hw

theorem reachable_of_effects {P : TunnelProxyServer → Prop} (hnew : P new)
    (hadmitted : ∀ s id address, Reachable env s → id ∉ s.clientIds → P s →
      P (admitted env s id address))
    (hreceived : ∀ s o data, P s → P (s.received o data))
    (helapsed : ∀ (s : TunnelProxyServer) ms, P s → P { s with now := s.now + ms })
    (heffect : ∀ {up} s s', P s → Effect env up s s' → P s') (h : Reachable env s) : P s := by
  induction h with
  | new => exact hnew
  | @step s event h hfresh ih =>
    have hstep := stepped env (reachable_consistent h) hfresh
    generalize s.step env event = t at hstep
    cases hstep with
    | admitted hid => exact hadmitted s _ _ h hid ih
    | received hlive hw => exact effects_keep heffect hw (hreceived s _ _ ih)
    | ignored => exact ih
    | left hw => exact effects_keep heffect hw ih
    | timedOut hw => exact effects_keep heffect hw ih
    | elapsed => exact helapsed s _ ih

end Run

end RemoteProxy.TunnelProxyServer
