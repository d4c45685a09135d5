import RemoteProxy.Proxy.Microsteps
import RemoteProxy.Proxy.Packets

namespace RemoteProxy.QHash

variable {K V : Type} [DecidableEq K]

theorem nodup_values {h : QHash K V}
    (hinj : ∀ k k' v, h.value k = some v → h.value k' = some v → k = k') : h.values.Nodup := by
  refine List.Nodup.map_on ?_ (List.NodupKeys.nodup h.nodupKeys)
  rintro ⟨k,v⟩ hk ⟨k',v'⟩ hk' (rfl : v = v')
  have := hinj k k' v (AList.mem_lookup_iff.mpr hk) (AList.mem_lookup_iff.mpr hk')
  rw [this]

end RemoteProxy.QHash

namespace RemoteProxy.TunnelProxyServer

open Relation

def Output.client : Output → Option QUuid
  | .sent clientId _ _ => some clientId
  | .killed clientId _ => some clientId
  | .assertFailed _ _ => none

def Output.framed : Output → Prop
  | .sent _ _ data => ∃ frame, data = SlipDataProcessor.serializeData (SlipDataProcessor.buildFrame frame)
  | _ => True

section Own

structure Own (X : ObjectId) (s s' : TunnelProxyServer) : Prop where
  same : SameRegistry s s'
  others : ∀ o, o ≠ X → s'.client o = s.client o
  slipAfterResponse :
    (s'.client X).m_slipAfterResponseEnabled = (s.client X).m_slipAfterResponseEnabled
  slip : (s'.client X).m_slipEnabled = (s.client X).m_slipEnabled ∨
    (s.client X).m_slipAfterResponseEnabled = true ∧ (s'.client X).m_slipEnabled = true
  output : ∃ new, s'.output = s.output ++ new ∧ ∀ x ∈ new, Output.quiet x ∧
    (∀ o ∈ Output.client x, o = X) ∧ ((s.client X).m_slipEnabled = true → Output.framed x)

variable {X : ObjectId} {s s' t : TunnelProxyServer}

theorem Own.quiet (h : Own X s s') : Quiet s s' := by
  obtain ⟨new,hn,hq⟩ := h.output
  exact ⟨h.same,new,hn,fun x hx => (hq x hx).1⟩

theorem Own.of_same (h : SameRegistry s s') (hc : s'.client = s.client)
    (ho : s'.output = s.output) : Own X s s' :=
  ⟨h,fun o _ => by rw [hc],by rw [hc],.inl (by rw [hc]),[],by rw [ho,List.append_nil],by simp⟩

theorem Own.refl (X : ObjectId) (s : TunnelProxyServer) : Own X s s :=
  Own.of_same (SameRegistry.refl s) rfl rfl

theorem Own.slip_kept (h : Own X s s') (hs : (s.client X).m_slipEnabled = true) :
    (s'.client X).m_slipEnabled = true := by
  rcases h.slip with h | h
  · rw [h,hs]
  · exact h.2

theorem Own.trans (h : Own X s s') (h' : Own X s' t) : Own X s t := by
  obtain ⟨new,hn,hq⟩ := h.output
  obtain ⟨new',hn',hq'⟩ := h'.output
  refine ⟨h.same.trans h'.same,?_,h'.slipAfterResponse.trans h.slipAfterResponse,?_,new ++ new',?_,?_⟩
  · intro o ho
    rw [h'.others o ho,h.others o ho]
  · rcases h'.slip with hs' | ⟨ha,hs'⟩
    · rw [hs']
      exact h.slip
    · exact .inr ⟨h.slipAfterResponse.symm.trans ha,hs'⟩
  · rw [hn',hn,List.append_assoc]
  · intro x hx
    rcases List.mem_append.mp hx with hx | hx
    · exact hq x hx
    · obtain ⟨h1,h2,h3⟩ := hq' x hx
      exact ⟨h1,h2,fun hs => h3 (h.slip_kept hs)⟩

theorem Own.setClient (s : TunnelProxyServer) {c : TunnelProxyClient}
    (htype : c.m_type = (s.client X).m_type) (huuid : c.m_uuid = (s.client X).m_uuid)
    (hafter : c.m_slipAfterResponseEnabled = (s.client X).m_slipAfterResponseEnabled)
    (hslip : c.m_slipEnabled = (s.client X).m_slipEnabled ∨
      (s.client X).m_slipAfterResponseEnabled = true ∧ c.m_slipEnabled = true) :
    Own X s (s.setClient X c) := by
  refine ⟨SameRegistry.setClient s htype huuid,?_,?_,?_,[],(List.append_nil _).symm,by simp⟩
  · intro o ho
    simp [ho]
  · simpa using hafter
  · simpa using hslip

theorem Own.emit (s : TunnelProxyServer) {x : Output} (hq : Output.quiet x)
    (hc : ∀ o ∈ Output.client x, o = X) (hf : (s.client X).m_slipEnabled = true → Output.framed x) :
    Own X s (s.emit x) :=
  ⟨SameRegistry.emit s x,fun _ _ => rfl,rfl,.inl rfl,[x],rfl,by simpa using ⟨hq,hc,hf⟩⟩

theorem Own.assertX (s : TunnelProxyServer) (condition : Bool) (place what : String) :
    Own X s (s.assertX condition place what) := by
  rw [TunnelProxyServer.assertX]
  split
  · exact Own.refl X s
  · exact Own.emit s trivial (by simp [Output.client]) fun _ => trivial

def requestKill (s : TunnelProxyServer) (o : ObjectId) (reason : String) : TunnelProxyServer :=
  { s.emit (.killed o reason) with killCount := s.killCount + 1 }

theorem Own.requestKill (s : TunnelProxyServer) (reason : String) :
    Own X s (s.requestKill X reason) := by
  refine (Own.emit s (x := .killed X reason) trivial (by simp [Output.client]) fun _ =>
    trivial).trans (Own.of_same ?_ rfl rfl)
  exact ⟨rfl,rfl,rfl,rfl,fun _ => rfl,fun _ => rfl,rfl,rfl,rfl⟩

theorem jsonFrame_framed (env : Environment) (m : Message) :
    ∃ frame, JsonRpcServer.jsonFrame env true m =
      SlipDataProcessor.serializeData (SlipDataProcessor.buildFrame frame) :=
  ⟨⟨0x0000,env.toJson (JsonRpcServer.toVariant m) ++ [JsonPackets.newline]⟩,rfl⟩

theorem Own.sendMessage (env : Environment) (s : TunnelProxyServer) {m : Message}
    (hm : ∀ data, Output.quiet (.sent X m data)) :
    Own X s (JsonRpcServer.sendMessage env s X m) := by
  have hc : Own X s (s.setClient X ((s.client X).addTxDataCount
      (JsonRpcServer.jsonFrame env (s.client X).m_slipEnabled m).length)) :=
    Own.setClient s rfl rfl rfl (.inl rfl)
  refine hc.trans (Own.emit _ (hm _) (by simp [Output.client]) ?_)
  intro hs
  have hs : (s.client X).m_slipEnabled = true := by
    simpa [TunnelProxyClient.addTxDataCount] using hs
  rw [hs]
  exact jsonFrame_framed env m

end Own

section Kept

/-- No client is told anything but to send, and nobody gets into a table. -/
structure Kept (s s' : TunnelProxyServer) : Prop where
  client : ∀ o, s'.client o =
    { s.client o with m_txDataCount := (s'.client o).m_txDataCount }
  proxyClients : ∀ u o, s'.m_proxyClients.value u = some o → s.m_proxyClients.value u = some o
  servers : ∀ u o, s'.m_tunnelProxyServerConnections.value u = some o →
    s.m_tunnelProxyServerConnections.value u = some o
  clientIds : s'.clientIds = s.clientIds

variable {s s' t : TunnelProxyServer}

theorem Kept.trans (h : Kept s s') (h' : Kept s' t) : Kept s t := by
  refine ⟨?_,fun u o ho => h.proxyClients u o (h'.proxyClients u o ho),
    fun u o ho => h.servers u o (h'.servers u o ho),h'.clientIds.trans h.clientIds⟩
  intro o
  rw [h'.client o,h.client o]

theorem Kept.of_same (hc : s'.client = s.client) (hp : s'.m_proxyClients = s.m_proxyClients)
    (hs : s'.m_tunnelProxyServerConnections = s.m_tunnelProxyServerConnections)
    (hids : s'.clientIds = s.clientIds) : Kept s s' := by
  refine ⟨?_,?_,?_,hids⟩
  · intro o
    rw [hc]
  · rw [hp]
    exact fun _ _ ho => ho
  · rw [hs]
    exact fun _ _ ho => ho

theorem Kept.refl (s : TunnelProxyServer) : Kept s s := Kept.of_same rfl rfl rfl rfl

theorem Kept.sendData (s : TunnelProxyServer) (o : ObjectId) (m : Message) (data : QByteArray) :
    Kept s (s.sendData o m data) := by
  refine ⟨?_,fun _ _ ho => ho,fun _ _ ho => ho,rfl⟩
  intro x
  rcases eq_or_ne x o with rfl | hx
  · simp [TunnelProxyServer.sendData,TunnelProxyClient.addTxDataCount]
  · simp [TunnelProxyServer.sendData,hx]

theorem value_remove_shrinks {t : QHash QUuid ObjectId} {u u' : QUuid} {o : ObjectId}
    (h : (t.remove u).value u' = some o) : t.value u' = some o := by
  rw [QHash.value_remove] at h
  split at h
  · simp at h
  · exact h

theorem Kept.counted (s : TunnelProxyServer) (n : Int32) : Kept s { s with m_troughputCounter := n } :=
  Kept.of_same rfl rfl rfl rfl

theorem Kept.take (s : TunnelProxyServer) (id : QUuid) : Kept s (s.take id) :=
  ⟨fun _ => rfl,fun _ _ ho => value_remove_shrinks ho,fun _ _ ho => ho,rfl⟩

theorem Kept.takeServer (s : TunnelProxyServer) (o : ObjectId) : Kept s (s.takeServer o) :=
  ⟨fun _ => rfl,fun _ _ ho => value_remove_shrinks ho,fun _ _ ho => value_remove_shrinks ho,rfl⟩

theorem Kept.takeClient (s : TunnelProxyServer) (o : ObjectId) : Kept s (s.takeClient o) :=
  ⟨fun _ => rfl,fun _ _ ho => value_remove_shrinks ho,fun _ _ ho => ho,rfl⟩

theorem Kept.requestKill (s : TunnelProxyServer) (o : ObjectId) (reason : String) :
    Kept s (s.requestKill o reason) := Kept.of_same rfl rfl rfl rfl

theorem Kept.unregisterClientConnection (s : TunnelProxyServer) (server o : ObjectId) :
    Kept s (s.unregisterClientConnection server o) := Kept.of_same rfl rfl rfl rfl

theorem Kept.unregisterClient (s : TunnelProxyServer) (o : ObjectId) :
    Kept s (JsonRpcServer.unregisterClient s o) := by
  unfold JsonRpcServer.unregisterClient
  split
  · exact Kept.refl s
  · exact Kept.of_same rfl rfl rfl rfl

theorem Kept.sendNotification (env : Environment) (s : TunnelProxyServer)
    (nameSpace method : String) (params : QVariantMap) (o : ObjectId) :
    Kept s (JsonRpcServer.sendNotification env s nameSpace method params o) := by
  have hn : Kept s { s with m_notificationId := s.m_notificationId + 1 } :=
    Kept.of_same rfl rfl rfl rfl
  exact hn.trans (Kept.sendData _ _ _ _)

theorem Kept.detachClient (env : Environment) (s : TunnelProxyServer) (server o : ObjectId) :
    Kept s (detachClient env s server o) :=
  (Kept.unregisterClientConnection s server o).trans (Kept.sendNotification env _ _ _ _ _)

theorem Kept.assertX (s : TunnelProxyServer) (condition : Bool) (place what : String) :
    Kept s (s.assertX condition place what) := by
  rw [TunnelProxyServer.assertX]
  split
  · exact Kept.refl s
  · exact Kept.of_same rfl rfl rfl rfl

theorem Kept.tunnelToServer (s : TunnelProxyServer) (o : ObjectId) (data : QByteArray) :
    Kept s (s.tunnelToServer o data) := by
  unfold TunnelProxyServer.tunnelToServer
  split
  · exact Kept.refl s
  · split
    · exact Kept.assertX s _ _ _
    · refine Kept.trans ?_ (Kept.counted _ _)
      exact Kept.sendData s _ _ _

end Kept

variable (env : Environment)

/-- What an event of `X` does, piece by piece, where `server` and `client` say what `X` registers as
during the event. -/
inductive Act (X : ObjectId) (server : QUuid → Prop) (client : ObjectId → Prop) :
    Config → Config → Prop where
  | own {dying : List ObjectId} {s s' : TunnelProxyServer} :
      Own X s s' → Act X server client (dying,s) (dying,s')
  | connected {dying : List ObjectId} {s : TunnelProxyServer} {address : String} :
      X ∉ s.clientIds → Act X server client (dying,s) (dying,onClientConnected env s X address)
  | serverAccepted {dying : List ObjectId} {s : TunnelProxyServer} {uuid : QUuid} {name : String} :
      server uuid → s.live X → (s.client X).m_type = .TypeNone →
      s.m_tunnelProxyServerConnections.value uuid = none →
      s.m_tunnelProxyClientConnections.value uuid = none →
      Act X server client (dying,s) (dying,s.acceptServer X uuid name)
  | clientAccepted {dying : List ObjectId} {s : TunnelProxyServer} {o : ObjectId}
      {uuid serverUuid : QUuid} {name : String} : client o → s.live X →
      (s.client X).m_type = .TypeNone → s.m_tunnelProxyServerConnections.value uuid = none →
      s.m_tunnelProxyClientConnections.value uuid = none →
      s.m_tunnelProxyServerConnections.value serverUuid = some o →
      Act X server client (dying,s) (dying,acceptClient env s X uuid name o)
  | tunnelled {dying : List ObjectId} {s : TunnelProxyServer} {data : QByteArray} :
      s.live X → s.isClient X → Act X server client (dying,s) (dying,s.tunnelToServer X data)
  | forwarded {dying : List ObjectId} {s : TunnelProxyServer} {o : ObjectId} {data : QByteArray}
      {count : Int32} : (s.clientConnection o).m_serverConnection = some X →
      Act X server client (dying,s)
        (dying,{ s.sendData o (.payload data) data with m_troughputCounter := count })
  | taken {dying : List ObjectId} {s : TunnelProxyServer} :
      s.live X → ¬s.isServer X → ¬s.isClient X → Act X server client (dying,s) (X :: dying,s.take X)
  | serverTaken {dying : List ObjectId} {s : TunnelProxyServer} :
      s.live X → s.isServer X → Act X server client (dying,s) (X :: dying,s.takeServer X)
  | clientTaken {dying : List ObjectId} {s : TunnelProxyServer} :
      s.live X → s.isClient X → (s.clientConnection X).m_serverConnection = none →
      Act X server client (dying,s) (X :: dying,s.takeClient X)
  | clientDetached {dying : List ObjectId} {s : TunnelProxyServer} {o : ObjectId} :
      s.live X → s.isClient X → (s.clientConnection X).m_serverConnection = some o →
      Act X server client (dying,s) (X :: dying,detachClient env (s.takeClient X) o X)
  | finished {dying : List ObjectId} {s : TunnelProxyServer} :
      (s.isServer X → ∀ u, (s.serverConnection X).m_clientConnections.value u = none) →
      Act X server client (X :: dying,s) (dying,JsonRpcServer.unregisterClient s X)
  | expelled {dying : List ObjectId} {s : TunnelProxyServer} {o : ObjectId} {reason : String} :
      (s.clientConnection o).m_serverConnection = some X →
      Act X server client (dying,s) (dying,s.requestKill o reason)
  | expelledAtOnce {dying : List ObjectId} {s : TunnelProxyServer} {o : ObjectId}
      {reason : String} : (s.clientConnection o).m_serverConnection = some X →
      Act X server client (dying,s) (dying,JsonRpcServer.unregisterClient
        (detachClient env ((s.requestKill o reason).takeClient o) X o) o)
  | dropped {dying : List ObjectId} {s : TunnelProxyServer} {o : ObjectId} :
      X ∈ dying → (s.clientConnection o).m_serverConnection = some X →
      Act X server client (dying,s)
        (dying,(s.unregisterClientConnection X o).requestKill o "Server disconnected")
  | droppedAtOnce {dying : List ObjectId} {s : TunnelProxyServer} {o : ObjectId} :
      X ∈ dying → (s.clientConnection o).m_serverConnection = some X →
      Act X server client (dying,s) (dying,JsonRpcServer.unregisterClient
        (((s.unregisterClientConnection X o).requestKill o "Server disconnected").takeClient o) o)

variable {env} {X : ObjectId} {server : QUuid → Prop} {client : ObjectId → Prop}
  {dying : List ObjectId} {s s' t : TunnelProxyServer}

theorem Act.mono {server' : QUuid → Prop} {client' : ObjectId → Prop} {c c' : Config}
    (hserver : ∀ u, server u → server' u) (hclient : ∀ o, client o → client' o)
    (h : Act env X server client c c') : Act env X server' client' c c' := by
  cases h with
  | own h => exact .own h
  | connected hid => exact .connected hid
  | serverAccepted h1 h2 h3 h4 h5 => exact .serverAccepted (hserver _ h1) h2 h3 h4 h5
  | clientAccepted h1 h2 h3 h4 h5 h6 => exact .clientAccepted (hclient _ h1) h2 h3 h4 h5 h6
  | tunnelled h1 h2 => exact .tunnelled h1 h2
  | forwarded h => exact .forwarded h
  | taken h1 h2 h3 => exact .taken h1 h2 h3
  | serverTaken h1 h2 => exact .serverTaken h1 h2
  | clientTaken h1 h2 h3 => exact .clientTaken h1 h2 h3
  | clientDetached h1 h2 h3 => exact .clientDetached h1 h2 h3
  | finished h => exact .finished h
  | expelled h => exact .expelled h
  | expelledAtOnce h => exact .expelledAtOnce h
  | dropped h1 h2 => exact .dropped h1 h2
  | droppedAtOnce h1 h2 => exact .droppedAtOnce h1 h2

theorem Act.cases {c c' : Config} (h : Act env X server client c c') :
    Own X c.2 c'.2 ∨
      (X ∉ c.2.clientIds ∧ ∃ address, c' = (c.1,onClientConnected env c.2 X address)) ∨
      (∃ uuid name, server uuid ∧ c.2.live X ∧ (c.2.client X).m_type = .TypeNone ∧
        c' = (c.1,c.2.acceptServer X uuid name)) ∨
      (∃ uuid name o, client o ∧ c.2.live X ∧ (c.2.client X).m_type = .TypeNone ∧
        c' = (c.1,acceptClient env c.2 X uuid name o)) ∨
      Kept c.2 c'.2 := by
  cases h with
  | own h => exact .inl h
  | connected hid => exact .inr (.inl ⟨hid,_,rfl⟩)
  | serverAccepted h1 h2 h3 => exact .inr (.inr (.inl ⟨_,_,h1,h2,h3,rfl⟩))
  | clientAccepted h1 h2 h3 => exact .inr (.inr (.inr (.inl ⟨_,_,_,h1,h2,h3,rfl⟩)))
  | tunnelled => exact .inr (.inr (.inr (.inr (Kept.tunnelToServer _ _ _))))
  | forwarded =>
    refine .inr (.inr (.inr (.inr (Kept.trans ?_ (Kept.counted _ _)))))
    exact Kept.sendData _ _ _ _
  | taken => exact .inr (.inr (.inr (.inr (Kept.take _ _))))
  | serverTaken => exact .inr (.inr (.inr (.inr (Kept.takeServer _ _))))
  | clientTaken => exact .inr (.inr (.inr (.inr (Kept.takeClient _ _))))
  | @clientDetached _ s o =>
    exact .inr (.inr (.inr (.inr ((Kept.takeClient s X).trans (Kept.detachClient env _ o X)))))
  | finished => exact .inr (.inr (.inr (.inr (Kept.unregisterClient _ _))))
  | expelled => exact .inr (.inr (.inr (.inr (Kept.requestKill _ _ _))))
  | @expelledAtOnce _ s o reason =>
    exact .inr (.inr (.inr (.inr ((((Kept.requestKill s o reason).trans
      (Kept.takeClient _ o)).trans (Kept.detachClient env _ X o)).trans
        (Kept.unregisterClient _ o)))))
  | @dropped _ s o =>
    exact .inr (.inr (.inr (.inr ((Kept.unregisterClientConnection s X o).trans
      (Kept.requestKill _ o _)))))
  | @droppedAtOnce _ s o =>
    exact .inr (.inr (.inr (.inr ((((Kept.unregisterClientConnection s X o).trans
      (Kept.requestKill _ o _)).trans (Kept.takeClient _ o)).trans
        (Kept.unregisterClient _ o)))))

theorem detachClient_same (env : Environment) (s : TunnelProxyServer) (o x : ObjectId) :
    SameRegistry (s.unregisterClientConnection o x) (detachClient env s o x) :=
  SameRegistry.sendNotification env _ _ _ _ _

theorem quiet_requestKill (s : TunnelProxyServer) (o : ObjectId) (reason : String) :
    Quiet s (s.requestKill o reason) :=
  (Own.requestKill (X := o) s reason).quiet

theorem Act.micros {c c' : Config} (hc : Consistent c.1 c.2) (h : Act env X server client c c') :
    ReflTransGen (Micro env) c c' := by
  cases h with
  | own h => exact .single (.quiet h.quiet)
  | connected hid => exact .single (.connected hid)
  | serverAccepted _ hlive htype hserver hclient =>
    exact .single (.serverAccepted hlive htype hserver hclient)
  | clientAccepted _ hlive htype hserver hclient hfound =>
    exact .single (.clientAccepted hlive htype hserver hclient hfound)
  | tunnelled hlive hclient => exact .single (.tunnelled hlive hclient)
  | @forwarded dying s o data count _ =>
    have hq : Quiet s (s.sendData o (.payload data) data) :=
      ⟨SameRegistry.sendData s o _ data,[_],rfl,by simp [Output.quiet]⟩
    refine .tail (.single (.quiet hq)) (.quiet ⟨SameRegistry.counted _ _,[],?_,by simp⟩)
    exact (List.append_nil _).symm
  | taken hlive hserver hclient => exact .single (.taken hlive hserver hclient)
  | serverTaken hlive hserver => exact .single (.serverTaken hlive hserver)
  | clientTaken hlive hclient hdetached => exact .single (.clientTaken hlive hclient hdetached)
  | clientDetached hlive hclient hto => exact .single (.clientDetached hlive hclient hto)
  | finished hdone => exact .single (.finished hdone)
  | expelled _ => exact .single (.quiet (quiet_requestKill _ _ _))
  | @expelledAtOnce dying s o reason hto =>
    obtain ⟨hlive,hclient,-⟩ := hc.attached o X hto
    refine ((ReflTransGen.single (.quiet (quiet_requestKill s o reason))).tail
      (.clientDetached hlive hclient hto)).tail (.finished ?_)
    intro hs
    exact absurd hclient (isServer_not_isClient (((detachClient_same env _ X o).isServer_iff o).mp hs))
  | @dropped dying s o hdying hto =>
    obtain ⟨hlive,hclient,-⟩ := hc.attached o X hto
    exact (ReflTransGen.single (.dropped hdying hlive hclient hto)).tail
      (.quiet (quiet_requestKill _ o _))
  | @droppedAtOnce dying s o hdying hto =>
    obtain ⟨hlive,hclient,-⟩ := hc.attached o X hto
    have hdetached : ((s.unregisterClientConnection X o).clientConnection o).m_serverConnection =
        none := by
      simp [unregisterClientConnection]
    refine (((ReflTransGen.single (.dropped hdying hlive hclient hto)).tail
      (.quiet (quiet_requestKill _ o _))).tail
        (.clientTaken hlive hclient hdetached)).tail (.finished ?_)
    exact fun hs => absurd hclient (isServer_not_isClient hs)

theorem act_consistent {c c' : Config} (hc : Consistent c.1 c.2)
    (h : Act env X server client c c') : Consistent c'.1 c'.2 :=
  steps_consistent env hc (h.micros hc)

theorem acts_consistent {c c' : Config} (hc : Consistent c.1 c.2)
    (h : ReflTransGen (Act env X server client) c c') : Consistent c'.1 c'.2 := by
  induction h with
  | refl => exact hc
  | tail _ h ih => exact act_consistent ih h

theorem acts_micros {c c' : Config} (hc : Consistent c.1 c.2)
    (h : ReflTransGen (Act env X server client) c c') : ReflTransGen (Micro env) c c' := by
  induction h with
  | refl => exact .refl
  | tail hs h ih => exact ih.trans (h.micros (acts_consistent hc hs))

variable (env X server client) in
def Does (dying : List ObjectId) (s s' : TunnelProxyServer) : Prop :=
  Consistent dying s → ReflTransGen (Act env X server client) (dying,s) (dying,s')

namespace Does

theorem refl (s : TunnelProxyServer) : Does env X server client dying s s := fun _ => .refl

theorem own (h : Own X s s') : Does env X server client dying s s' := fun _ => .single (.own h)

theorem consistent (h : Does env X server client dying s s') (hs : Consistent dying s) :
    Consistent dying s' :=
  acts_consistent hs (h hs)

theorem trans (h : Does env X server client dying s s') (h' : Does env X server client dying s' t) :
    Does env X server client dying s t :=
  fun hs => (h hs).trans (h' (h.consistent hs))

theorem mono {server' : QUuid → Prop} {client' : ObjectId → Prop}
    (hserver : ∀ u, server u → server' u) (hclient : ∀ o, client o → client' o)
    (h : Does env X server client dying s s') : Does env X server' client' dying s s' :=
  fun hs => ReflTransGen.mono (fun _ _ => Act.mono hserver hclient) _ _ (h hs)

theorem leads (h : Does env X server client dying s s') : Leads env dying s s' :=
  fun hs => acts_micros hs (h hs)

end Does

end RemoteProxy.TunnelProxyServer
