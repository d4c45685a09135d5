import RemoteProxy.Proxy.Handlers

namespace RemoteProxy.TunnelProxyServer

variable {env : Environment} {x o : ObjectId} {s s' t : TunnelProxyServer}

def NamedById (s : TunnelProxyServer) : Prop := ∀ u o, s.m_proxyClients.value u = some o → o = u

structure Unmoved (x : ObjectId) (s s' : TunnelProxyServer) : Prop where
  now : s'.now = s.now
  type : (s'.client x).m_type = (s.client x).m_type
  connected : (s'.client x).rxDataCountConnected = (s.client x).rxDataCountConnected
  timer : (s'.client x).m_inactiveTimer = (s.client x).m_inactiveTimer
  live : s'.live x → s.live x
  named : NamedById s → NamedById s'

theorem Unmoved.trans (h : Unmoved x s s') (h' : Unmoved x s' t) : Unmoved x s t :=
  ⟨h'.now.trans h.now,h'.type.trans h.type,h'.connected.trans h.connected,
    h'.timer.trans h.timer,fun hx => h.live (h'.live hx),fun hn => h'.named (h.named hn)⟩

theorem Unmoved.of_kept (h : Kept s s') (hnow : s'.now = s.now) : Unmoved x s s' := by
  have hclient := h.client x
  refine ⟨hnow,?_,?_,?_,h.proxyClients x x,fun hn u o ho => hn u o (h.proxyClients u o ho)⟩
  · rw [hclient]
  · rw [hclient]
  · rw [hclient]

theorem Unmoved.refl (x : ObjectId) (s : TunnelProxyServer) : Unmoved x s s :=
  .of_kept (.refl s) rfl

theorem Unmoved.other (hne : o ≠ x) (c : TunnelProxyClient) : Unmoved x s (s.setClient o c) := by
  have hsame : (s.setClient o c).client x = s.client x := Function.update_of_ne hne.symm _ _
  exact ⟨rfl,congrArg _ hsame,congrArg _ hsame,congrArg _ hsame,id,id⟩

theorem Unmoved.setClient {c : TunnelProxyClient} (htype : c.m_type = (s.client o).m_type)
    (hconnected : c.rxDataCountConnected = (s.client o).rxDataCountConnected)
    (htimer : c.m_inactiveTimer = (s.client o).m_inactiveTimer) :
    Unmoved x s (s.setClient o c) := by
  by_cases hne : o = x
  · subst hne
    refine ⟨rfl,?_,?_,?_,id,id⟩
    · exact (congrArg TunnelProxyClient.m_type (Function.update_self ..)).trans htype
    · exact (congrArg TunnelProxyClient.rxDataCountConnected
        (Function.update_self ..)).trans hconnected
    · exact (congrArg TunnelProxyClient.m_inactiveTimer (Function.update_self ..)).trans htimer
  · exact .other hne c

section Disconnect

variable {report : TunnelProxyServer → QUuid → TunnelProxyServer}

theorem sendData_unmoved (s : TunnelProxyServer) (o : ObjectId) (message : Message)
    (data : QByteArray) : Unmoved x s (s.sendData o message data) :=
  .of_kept (.sendData s o message data) rfl

theorem assertX_unmoved (s : TunnelProxyServer) (condition : Bool) (place what : String) :
    Unmoved x s (s.assertX condition place what) := by
  refine .of_kept (.assertX s condition place what) ?_
  rw [assertX]
  split
  · rfl
  · rfl

theorem unregisterClient_unmoved (s : TunnelProxyServer) (o : ObjectId) :
    Unmoved x s (JsonRpcServer.unregisterClient s o) := by
  refine .of_kept (.unregisterClient s o) ?_
  rw [JsonRpcServer.unregisterClient]
  split
  · rfl
  · rfl

theorem killConnectionWith_unmoved (hreport : ∀ s id, Unmoved x s (report s id))
    (s : TunnelProxyServer) (o : ObjectId) (reason : String) :
    Unmoved x s (killConnectionWith env report s o reason) := by
  have hkilled : Unmoved x s (s.requestKill o reason) := .of_kept (.requestKill s o reason) rfl
  simp only [killConnectionWith]
  split
  · exact hkilled.trans (hreport _ _)
  · exact hkilled

theorem serverDisconnected_unmoved (hreport : ∀ s id, Unmoved x s (report s id))
    (s : TunnelProxyServer) (o : ObjectId) :
    Unmoved x s (serverDisconnected env report s o) := by
  have hdrops : ∀ (clients : List ObjectId) (server : ObjectId) (s : TunnelProxyServer),
      Unmoved x s (clients.foldl (fun s client => dropClient env report s server client) s) := by
    intro clients server
    induction clients with
    | nil => exact fun s => .refl x s
    | cons client clients ih =>
      intro s
      have hdropped : Unmoved x s (dropClient env report s server client) :=
        (Unmoved.of_kept (.unregisterClientConnection s server client) rfl).trans
          (killConnectionWith_unmoved hreport _ _ _)
      exact hdropped.trans (ih _)
  simp only [serverDisconnected]
  split
  · exact .refl x s
  · have htaken : Unmoved x s { s with
        m_tunnelProxyServerConnections :=
          s.m_tunnelProxyServerConnections.remove (s.client o).m_uuid } :=
      ⟨rfl,rfl,rfl,rfl,id,id⟩
    exact htaken.trans (hdrops _ _ _)

theorem clientDisconnected_unmoved (s : TunnelProxyServer) (o : ObjectId) :
    Unmoved x s (clientDisconnected env s o) := by
  have htaken : Unmoved x s { s with
      m_tunnelProxyClientConnections :=
        s.m_tunnelProxyClientConnections.remove (s.client o).m_uuid } :=
    ⟨rfl,rfl,rfl,rfl,id,id⟩
  simp only [clientDisconnected]
  split
  · exact .refl x s
  · split
    · exact htaken
    · exact htaken.trans (.of_kept (.detachClient env _ _ _) rfl)

theorem disconnected_unmoved (hreport : ∀ s id, Unmoved x s (report s id))
    (s : TunnelProxyServer) (o : ObjectId) : Unmoved x s (disconnected env report s o) := by
  have hserver : Unmoved x s (if (s.client o).m_type = .TypeServer then
      serverDisconnected env report s o else s) := by
    split
    · exact serverDisconnected_unmoved hreport s o
    · exact .refl x s
  simp only [disconnected]
  generalize (if (s.client o).m_type = .TypeServer then
    serverDisconnected env report s o else s) = u at hserver ⊢
  refine hserver.trans (Unmoved.trans ?_ (unregisterClient_unmoved _ o))
  split
  · exact clientDisconnected_unmoved u o
  · exact .refl x u

theorem onClientDisconnectedWithin_unmoved (fuel : Nat) (s : TunnelProxyServer) (clientId : QUuid) :
    Unmoved x s (onClientDisconnectedWithin env fuel s clientId) := by
  induction fuel generalizing s clientId with
  | zero => exact .refl x s
  | succ fuel ih =>
    simp only [onClientDisconnectedWithin]
    split
    · exact .refl x s
    · exact (Unmoved.of_kept (.take s clientId) rfl).trans (disconnected_unmoved ih _ _)

theorem killConnection_unmoved (s : TunnelProxyServer) (o : ObjectId) (reason : String) :
    Unmoved x s (killConnection env s o reason) :=
  killConnectionWith_unmoved (fun s id => onClientDisconnectedWithin_unmoved _ s id) s o reason

end Disconnect

section Requests

theorem Unmoved.of_entered {type : ClientType} {uuid : QUuid} (h : Entered s s' o type uuid)
    (hne : x ≠ o) (hnow : s'.now = s.now) : Unmoved x s s' := by
  have hsame := h.others x hne
  refine ⟨hnow,congrArg _ hsame,congrArg _ hsame,congrArg _ hsame,(h.live_iff x).mp,?_⟩
  simp only [NamedById,h.proxyClients,imp_self]

theorem killAfterResponse_unmoved (s : TunnelProxyServer) (o : ObjectId) (reason : String) :
    Unmoved x s (killConnectionAfterResponse s o reason) := .setClient rfl rfl rfl

theorem turnedDown_unmoved {r : TunnelProxyServer × TunnelProxyError} (h : TurnedDown s o r) :
    Unmoved x s r.1 := by
  obtain ⟨-,h | ⟨reason,h⟩⟩ := h
  · rw [h]
    exact .refl x s
  · rw [h]
    exact killAfterResponse_unmoved s o reason

theorem acceptServer_now (s : TunnelProxyServer) (o : ObjectId) (uuid : QUuid) (name : String) :
    (s.acceptServer o uuid name).now = s.now := by
  rw [acceptServer,enterAs_eq s o (by decide)]
  rfl

theorem attachClient_now (s : TunnelProxyServer) (o : ObjectId) (uuid : QUuid) (name : String)
    (server : ObjectId) : (s.attachClient o uuid name server).now = s.now := by
  rw [attachClient_eq]
  exact (assertX_unmoved (x := o) _ _ _ _).now

theorem registerServer_unmoved (hnamed : NamedById s)
    (htype : (s.client x).m_type ≠ .TypeNone) (serverUuid : QUuid) (serverName : String) :
    Unmoved x s (registerServer s o serverUuid serverName).1 := by
  rcases registerServer_cases (hnamed o) serverUuid serverName with hdown | ⟨-,hnone,-,-,he⟩
  · exact turnedDown_unmoved hdown
  · have hne : x ≠ o := fun hx => htype (hx ▸ hnone)
    rw [he]
    exact .of_entered (acceptServer_entered s o serverUuid serverName) hne
      (acceptServer_now s o serverUuid serverName)

theorem registerClient_unmoved (hnamed : NamedById s)
    (htype : (s.client x).m_type ≠ .TypeNone) (clientUuid : QUuid) (clientName : String)
    (serverUuid : QUuid) :
    Unmoved x s (registerClient env s o clientUuid clientName serverUuid).1 := by
  rcases registerClient_cases env (hnamed o) clientUuid clientName serverUuid with
    hdown | ⟨-,hnone,-,-,server,-,he⟩
  · exact turnedDown_unmoved hdown
  · have hne : x ≠ o := fun hx => htype (hx ▸ hnone)
    have hattached : Unmoved x s (s.attachClient o clientUuid clientName server) :=
      .of_entered (attachClient_entered s o clientUuid clientName server) hne
        (attachClient_now s o clientUuid clientName server)
    rw [he]
    exact hattached.trans (.of_kept (.sendNotification env _ _ _ _ _) rfl)

theorem disconnectClient_unmoved (hnamed : NamedById s) (socketAddress : UInt16) :
    Unmoved x s (disconnectClient env s o socketAddress).1 := by
  rcases disconnectClient_cases env (hnamed o) socketAddress with
    (he | ⟨reason,he⟩) | ⟨-,-,server,client,reason,-,-,he⟩
  · rw [he]
    exact .refl x s
  · rw [he]
    exact killAfterResponse_unmoved s o reason
  · rw [he]
    exact killConnection_unmoved s _ reason

theorem method_unmoved {targetNamespace method : String} {invoke : Handlers.Method}
    (hm : Handlers.method? env targetNamespace method = some invoke) (hnamed : NamedById s)
    (htype : (s.client x).m_type ≠ .TypeNone) (params : QVariantMap) :
    Unmoved x s (invoke s params o).1 := by
  rcases method_cases env hm with hsame | ⟨-,-,rfl⟩ | ⟨-,-,rfl⟩ | ⟨-,-,rfl⟩
  · rw [hsame]
    exact .refl x s
  · simp only [Handlers.RegisterServer]
    split
    · exact .refl x s
    · exact registerServer_unmoved hnamed htype _ _
  · simp only [Handlers.RegisterClient]
    split
    · exact .refl x s
    · split
      · exact .refl x s
      · exact registerClient_unmoved hnamed htype _ _ _
  · exact disconnectClient_unmoved hnamed _

theorem finishCall_unmoved (s : TunnelProxyServer) (o : ObjectId) (commandId : Int)
    (data : QVariantMap) : Unmoved x s (JsonRpcServer.finishCall env s o commandId data) := by
  have hsent : Unmoved x s (JsonRpcServer.sendResponse env s o commandId data) :=
    sendData_unmoved s o _ _
  simp only [JsonRpcServer.finishCall]
  split
  · exact hsent.trans (killConnection_unmoved _ _ _)
  · split
    · exact hsent.trans (.setClient rfl rfl rfl)
    · exact hsent

theorem processDataPacket_unmoved (hnamed : NamedById s)
    (htype : (s.client x).m_type ≠ .TypeNone) (data : QByteArray) :
    Unmoved x s (JsonRpcServer.processDataPacket env s o data) := by
  rcases JsonRpcServer.processDataPacket_cases env s o data with
    ⟨r,-,he⟩ | ⟨-,commandId,error,reason,he⟩
  · rw [he]
    simp only [JsonRpcServer.invoke,JsonRpcServer.invokeMethod]
    split
    · exact .refl x s
    · next invoke hm =>
      exact (method_unmoved hm hnamed htype r.params).trans
        ((assertX_unmoved _ _ _ _).trans (finishCall_unmoved _ _ _ _))
  · rw [he]
    exact (sendData_unmoved s o _ _).trans (killConnection_unmoved _ _ _)

end Requests

section Chunks

theorem tunnelToServer_unmoved (s : TunnelProxyServer) (o : ObjectId) (data : QByteArray) :
    Unmoved x s (s.tunnelToServer o data) := by
  refine .of_kept (.tunnelToServer s o data) ?_
  simp only [tunnelToServer]
  split
  · rfl
  · split
    · exact (assertX_unmoved (x := x) s _ _ _).now
    · rfl

theorem handle_unmoved (hnamed : NamedById s) (htype : (s.client x).m_type ≠ .TypeNone)
    (item : Item) : Unmoved x s (handle env o s item) := by
  cases item with
  | packet data => exact processDataPacket_unmoved hnamed htype data
  | frame frame =>
    simp only [handle,processFrame]
    split
    · exact processDataPacket_unmoved hnamed htype frame.data
    · split
      · exact .refl x s
      · split
        · exact .refl x s
        · exact (sendData_unmoved s _ _ _).trans (.of_kept (.counted _ _) rfl)
  | payload data => exact tunnelToServer_unmoved s o data

theorem items_unmoved (hnamed : NamedById s) (htype : (s.client x).m_type ≠ .TypeNone)
    (items : List Item) : Unmoved x s (items.foldl (handle env o) s) := by
  induction items generalizing s with
  | nil => exact .refl x s
  | cons item items ih =>
    have hone : Unmoved x s (handle env o s item) := handle_unmoved hnamed htype item
    exact hone.trans (ih (hone.named hnamed) (hone.type.symm ▸ htype))

theorem buffered_unmoved (s : TunnelProxyServer) (o : ObjectId) (data : QByteArray) :
    Unmoved x s (s.buffered env o data) := by
  have hread : Unmoved x s (s.setClient o ((s.client o).processData data).1) :=
    .setClient rfl rfl rfl
  simp only [buffered]
  split
  · exact .refl x s
  · split
    · exact hread
    · split
      · exact .refl x s
      · split
        · exact hread.trans (killConnection_unmoved _ _ _)
        · exact hread

theorem dataAvailable_unmoved (hnamed : NamedById s) (hlive : s.m_proxyClients.value o = some o)
    {data : QByteArray} (htype : ((s.received o data).client x).m_type ≠ .TypeNone) :
    Unmoved x (s.received o data) (onClientDataAvailable env s o data) := by
  have hbuffered : Unmoved x (s.received o data) ((s.received o data).buffered env o data) :=
    buffered_unmoved _ o data
  have hreceived : NamedById (s.received o data) := hnamed
  rw [onClientDataAvailable_eq env hlive]
  exact hbuffered.trans (items_unmoved (hbuffered.named hreceived)
    (hbuffered.type.symm ▸ htype) _)

end Chunks

section Events

theorem step_unmoved (hc : Consistent [] s) {event : Event} (hfresh : s.Fresh event)
    (hactor : event.actor ≠ x) (helapse : ∀ ms, event ≠ .elapse ms)
    (htype : (s.client x).m_type ≠ .TypeNone) : Unmoved x s (s.step env event) := by
  have hnamed : NamedById s := fun u o ho => hc.named u o ho
  cases event with
  | clientConnected clientId address =>
    have hne : x ≠ clientId := fun hx => hactor hx.symm
    have hsame : (onClientConnected env s clientId address).client x = s.client x := by
      rw [onClientConnected_eq env hc hfresh]
      exact Function.update_of_ne hne _ _
    have htable : (onClientConnected env s clientId address).m_proxyClients =
        s.m_proxyClients.insert clientId clientId := by
      rw [onClientConnected_eq env hc hfresh]
    refine ⟨?_,congrArg _ hsame,congrArg _ hsame,congrArg _ hsame,?_,?_⟩
    · simp only [step]
      rw [onClientConnected_eq env hc hfresh]
    · simp only [step,live,htable,QHash.value_insert,if_neg hne]
      exact id
    · intro _ u o ho
      simp only [step,htable,QHash.value_insert] at ho
      split at ho
      · next hu => rw [hu,Option.some.inj ho]
      · exact hnamed u o ho
  | clientDisconnected clientId => exact onClientDisconnectedWithin_unmoved _ s clientId
  | dataAvailable clientId data =>
    cases hv : s.m_proxyClients.value clientId with
    | none =>
      simp only [step,onClientDataAvailable,hv]
      exact .refl x s
    | some o =>
      obtain rfl := hnamed clientId o hv
      have hreceived : Unmoved x s (s.received o data) := .other hactor _
      exact hreceived.trans (dataAvailable_unmoved hnamed hv (hreceived.type.symm ▸ htype))
  | inactiveTimeout clientId =>
    simp only [step,inactiveTimeout]
    cases hv : s.m_proxyClients.value clientId with
    | none => exact .refl x s
    | some o =>
      obtain rfl := hnamed clientId o hv
      dsimp only
      split
      · exact (Unmoved.other hactor _).trans (killConnection_unmoved _ _ _)
      · exact .refl x s
  | elapse ms => exact absurd rfl (helapse ms)

theorem dataAvailable_restarts (env : Environment) (hnamed : NamedById s) (hlive : s.live x)
    (htype : s.isServer x) (hconnected : (s.client x).rxDataCountConnected = true)
    {data : QByteArray} (hdata : data ≠ []) :
    let s' := onClientDataAvailable env s x data
    s'.isServer x ∧ (s'.client x).rxDataCountConnected = true ∧ s'.now = s.now ∧
      (s'.client x).m_inactiveTimer = (s.client x).m_inactiveTimer.start s.now := by
  have hcounted : (s.received x data).client x =
      { s.client x with
        m_rxDataCount := (s.client x).m_rxDataCount + .ofNat data.length
        m_inactiveTimer := (s.client x).m_inactiveTimer.start s.now } := by
    have hpos : data.length > 0 ∧ (s.client x).rxDataCountConnected = true :=
      ⟨List.length_pos_iff.mpr hdata,hconnected⟩
    refine (Function.update_self ..).trans ?_
    exact if_pos hpos
  have hserver : ((s.received x data).client x).m_type = .TypeServer :=
    (congrArg TunnelProxyClient.m_type hcounted).trans htype
  have hrest : Unmoved x (s.received x data) (onClientDataAvailable env s x data) :=
    dataAvailable_unmoved hnamed hlive (by rw [hserver]; decide)
  refine ⟨hrest.type.trans hserver,?_,hrest.now,?_⟩
  · exact hrest.connected.trans ((congrArg _ hcounted).trans hconnected)
  · exact hrest.timer.trans (congrArg _ hcounted)

end Events

end RemoteProxy.TunnelProxyServer
