import RemoteProxy.Proxy.Arrivals

namespace RemoteProxy.TunnelProxyServer

open JsonPackets

variable {env : Environment} {o : ObjectId} {uuids : List QUuid} {s t : TunnelProxyServer}
  {b : QByteArray}

section Answer

/-- A request that was accepted is answered, and SLIP is switched on if it asked for that. -/
structure Answered (o : ObjectId) (s t : TunnelProxyServer) : Prop where
  same : SameRegistry s t
  client : t.client o =
    { s.client o with
      m_slipEnabled := (s.client o).m_slipEnabled || (s.client o).m_slipAfterResponseEnabled
      m_txDataCount := (t.client o).m_txDataCount }
  output : ∃ new, t.output = s.output ++ new ∧ new.filter Output.tunnelled = []

theorem assertX_output (s : TunnelProxyServer) (condition : Bool) (place what : String) :
    ∃ new, (s.assertX condition place what).output = s.output ++ new ∧
      new.filter Output.tunnelled = [] := by
  rw [assertX]
  split
  · exact ⟨[],(List.append_nil _).symm,rfl⟩
  · exact ⟨[_],rfl,rfl⟩

theorem finishCall_unkilled (env : Environment)
    (h : (s.client o).m_killConnectionRequested = false) (commandId : Int) (data : QVariantMap) :
    Answered o s (JsonRpcServer.finishCall env s o commandId data) := by
  have hk : Kept s (JsonRpcServer.sendResponse env s o commandId data) := Kept.sendData _ _ _ _
  have hsame : SameRegistry s (JsonRpcServer.sendResponse env s o commandId data) :=
    SameRegistry.sendData _ _ _ _
  have hout : ∃ new, (JsonRpcServer.sendResponse env s o commandId data).output = s.output ++ new ∧
      new.filter Output.tunnelled = [] := ⟨[_],rfl,rfl⟩
  simp only [JsonRpcServer.finishCall]
  generalize JsonRpcServer.sendResponse env s o commandId data = t at hk hsame hout
  have hc := hk.client o
  have hrequested : (t.client o).m_killConnectionRequested = false := by
    rw [hc]
    exact h
  rw [hrequested,if_neg (by decide)]
  have hslip : (t.client o).m_slipAfterResponseEnabled = (s.client o).m_slipAfterResponseEnabled := by
    rw [hc]
  cases hafter : (s.client o).m_slipAfterResponseEnabled with
  | true =>
    rw [hslip,hafter,if_pos rfl]
    refine ⟨hsame.trans (SameRegistry.setClient t rfl rfl),?_,hout⟩
    rw [setClient_client,Function.update_self,hc,hafter,Bool.or_true]
    rfl
  | false =>
    rw [hslip,hafter,if_neg (by decide)]
    refine ⟨hsame,?_,hout⟩
    rw [hafter,Bool.or_false,hc]

theorem invoke_answered {r : Request} {method : Handlers.Method}
    (hm : Handlers.method? env r.targetNamespace r.method = some method)
    (h : ((method s r.params o).1.client o).m_killConnectionRequested = false) :
    Answered o (method s r.params o).1 (JsonRpcServer.invoke env s o r) := by
  simp only [JsonRpcServer.invoke,JsonRpcServer.invokeMethod,hm]
  generalize (method s r.params o).1 = u at h
  generalize (((r.targetNamespace = "RemoteProxy" && r.method = "Introspect") ||
    (r.handler.validateReturns env.toQt r.method (method s r.params o).2).1) : Bool) = condition
  obtain ⟨new,hnew,hq⟩ := assertX_output u condition "validating return value"
    (JsonRpcServer.formatAssertion env r.targetNamespace r.method r.handler (method s r.params o).2)
  have hc := assertX_client u condition "validating return value"
    (JsonRpcServer.formatAssertion env r.targetNamespace r.method r.handler (method s r.params o).2)
  have hsame := SameRegistry.assertX u condition "validating return value"
    (JsonRpcServer.formatAssertion env r.targetNamespace r.method r.handler (method s r.params o).2)
  generalize u.assertX condition "validating return value"
    (JsonRpcServer.formatAssertion env r.targetNamespace r.method r.handler (method s r.params o).2)
      = v at hnew hc hsame
  rw [← hc] at h
  obtain ⟨h1,h2,new',hnew',hq'⟩ := finishCall_unkilled env h r.commandId
    (method s r.params o).2
  refine ⟨hsame.trans h1,?_,new ++ new',?_,?_⟩
  · rw [h2,hc]
  · rw [hnew',hnew,List.append_assoc]
  · rw [List.filter_append,hq,hq']
    rfl

theorem processDataPacket_request {x : QByteArray} {r : Request}
    (hx : JsonRpcServer.request env x = some r) :
    JsonRpcServer.processDataPacket env s o x = JsonRpcServer.invoke env s o r := by
  rcases JsonRpcServer.processDataPacket_cases env s o x with ⟨r',hr',he⟩ | ⟨hnone,-⟩
  · rw [he,Option.some.inj (hr'.symm.trans hx)]
  · rw [hx] at hnone
    simp at hnone

end Answer

section Client

structure Tunnelling (s : TunnelProxyServer) (o server : ObjectId) (uuid : QUuid) : Prop where
  known : s.m_proxyClients.value o = some o
  role : (s.client o).m_type = .TypeClient
  named : (s.client o).m_uuid = uuid
  registered : s.m_tunnelProxyClientConnections.value uuid = some o
  attached : (s.clientConnection o).m_serverConnection = some server

/-- The frame with the address of `o` in which its server is sent some bytes. -/
def tunnelFrame (s : TunnelProxyServer) (o server : ObjectId) (data : QByteArray) : Output :=
  .sent (s.serverConnection server).m_transportClient
    (.tunnelData (s.client o).m_uuid (s.clientConnection o).m_socketAddress data)
    (SlipDataProcessor.serializeData
      (SlipDataProcessor.buildFrame ⟨(s.clientConnection o).m_socketAddress,data⟩))

def Request.askedFor (env : Environment) (r : Request) : List QUuid :=
  [env.toUuid (r.params.value "clientUuid"),env.toUuid (r.params.value "serverUuid")]

theorem Tunnelling.same {server : ObjectId} {uuid : QUuid} (hs : SameRegistry s t)
    (h : Tunnelling s o server uuid) : Tunnelling t o server uuid :=
  ⟨by rw [hs.proxyClients]; exact h.known,(hs.type o).trans h.role,(hs.uuid o).trans h.named,
    by rw [hs.clientConnections]; exact h.registered,by rw [hs.clientConnection]; exact h.attached⟩

theorem Tunnelling.congr {server : ObjectId} {uuid : QUuid} (huuid : uuid ∈ uuids)
    (hs : t.standing o uuids = s.standing o uuids) (h : Tunnelling s o server uuid) :
    Tunnelling t o server uuid := by
  simp only [standing,Standing.mk.injEq] at hs
  obtain ⟨h1,-,h3,h4,-,-,-,-,-,h10,h11⟩ := hs
  refine ⟨h1.trans h.known,h3.trans h.role,h4.trans h.named,?_,?_⟩
  · exact (List.map_inj_left.mp h10 uuid huuid).trans h.registered
  · rw [h.attached,Option.map_some,Option.map_eq_some_iff] at h11
    obtain ⟨server',hserver,he⟩ := h11
    rw [hserver,(Prod.mk.inj he).1]

theorem tunnelFrame_congr {server : ObjectId} {uuid : QUuid} (h : Tunnelling s o server uuid)
    (hs : t.standing o uuids = s.standing o uuids) (data : QByteArray) :
    tunnelFrame t o server data = tunnelFrame s o server data := by
  simp only [standing,Standing.mk.injEq] at hs
  obtain ⟨-,-,-,h4,-,-,-,-,-,-,h11⟩ := hs
  rw [h.attached,Option.map_some,Option.map_eq_some_iff] at h11
  obtain ⟨server',-,he⟩ := h11
  simp only [Prod.mk.injEq] at he
  obtain ⟨rfl,htransport,haddress⟩ := he
  rw [tunnelFrame,tunnelFrame,h4,htransport,haddress]

theorem standing_same (hs : SameRegistry s t) (hc : t.client o =
    { s.client o with m_txDataCount := (t.client o).m_txDataCount }) :
    t.standing o uuids = s.standing o uuids := by
  simp only [standing,hs.proxyClients,hs.serverConnections,hs.clientConnections,hs.jsonClients,
    hs.serverConnection,hs.clientConnection]
  rw [hc]

theorem Tunnelling.dataAvailable (env : Environment) (uuids : List QUuid) {server : ObjectId}
    {uuid : QUuid} (h : Tunnelling s o server uuid) (data : QByteArray) :
    (s.step env (.dataAvailable o data)).standing o uuids = s.standing o uuids ∧
      (s.step env (.dataAvailable o data)).output = s.output ++ [tunnelFrame s o server data] ∧
      taken o s data = [.payload data] := by
  have hown := (received_own (X := o) s data).same
  have hr := h.same hown
  have hstep : s.step env (.dataAvailable o data) = (s.received o data).tunnelToServer o data := by
    rw [step,onClientDataAvailable_eq env h.known,items,buffered,if_pos hr.role,if_pos hr.role]
    rfl
  have hreceived := standing_received s o data []
  have hframe : tunnelFrame (s.received o data) o server data = tunnelFrame s o server data :=
    tunnelFrame_congr h hreceived data
  rw [hstep]
  refine ⟨?_,?_,?_⟩
  · rw [← standing_received s o data uuids]
    exact standing_same (SameRegistry.tunnelToServer _ _ _)
      ((Kept.tunnelToServer _ _ _).client o)
  · have hval := hr.registered
    rw [← hr.named] at hval
    simp only [tunnelToServer,hval,hr.attached]
    exact congrArg (fun x => s.output ++ [x]) hframe
  · rw [taken,if_pos h.known,items,if_pos hr.role]

theorem Tunnelling.run {server : ObjectId} {uuid : QUuid} {arrivals : List Arrival}
    (huuid : uuid ∈ uuids) (h : Tunnelling s o server uuid)
    (hu : LeftAlone env o uuids s arrivals) :
    (arrived env o s arrivals).standing o uuids = s.standing o uuids ∧
      heard env o s arrivals = [] ∧
      forwarded env o s arrivals =
        arrivals.map fun a => tunnelFrame (arrived env o s arrivals) o server a.chunk := by
  induction arrivals generalizing s with
  | nil => exact ⟨rfl,rfl,rfl⟩
  | cons a arrivals ih =>
    have hb : Tunnelling (s.before env a) o server uuid := h.congr huuid hu.1
    obtain ⟨hstanding,hout,htaken⟩ := hb.dataAvailable env uuids a.chunk
    obtain ⟨h1,h2,h3⟩ := ih (s := arrive env o s a) (hb.congr huuid hstanding) hu.2
    have hall : (arrived env o s (a :: arrivals)).standing o uuids =
        (s.before env a).standing o uuids := h1.trans hstanding
    refine ⟨hall.trans hu.1,?_,?_⟩
    · rw [heard_cons,h2,htaken]
      rfl
    · rw [forwarded_cons s a arrivals hout,h3,List.map_cons,tunnelFrame_congr hb hall]
      rfl

theorem acceptClient_output (env : Environment) (s : TunnelProxyServer) (o : ObjectId) (uuid : QUuid)
    (name : String) (server : ObjectId) :
    ∃ new, (acceptClient env s o uuid name server).output = s.output ++ new ∧
      new.filter Output.tunnelled = [] := by
  have hattach := attachClient_output s o uuid name server
  have hnotified : ∃ x, (acceptClient env s o uuid name server).output =
      (s.attachClient o uuid name server).output ++ [x] ∧ Output.tunnelled x = false :=
    ⟨_,rfl,rfl⟩
  obtain ⟨x,hx,hq⟩ := hnotified
  rw [hattach] at hx
  split at hx
  · exact ⟨[x],by simpa using hx,by simp [hq]⟩
  · refine ⟨_,hx.trans (List.append_assoc _ _ _),?_⟩
    simp only [List.filter_append,List.filter_cons,hq]
    rfl

theorem Waiting.accepted {x : QByteArray} {r : Request} {server : ObjectId} (hw : Waiting s o b)
    (hx : JsonRpcServer.request env x = some r) (hr : r.RegistersClient env s o server) :
    Answered o (acceptClient env s o (env.toUuid (r.params.value "clientUuid"))
      (env.toString (r.params.value "clientName")) server)
        (JsonRpcServer.processDataPacket env s o x) := by
  have hm : Handlers.method? env r.targetNamespace r.method = some (Handlers.RegisterClient env) := by
    rw [hr.name.1,hr.name.2]
    rfl
  have haccepted : (Handlers.RegisterClient env s r.params o).1 =
      acceptClient env s o (env.toUuid (r.params.value "clientUuid"))
        (env.toString (r.params.value "clientName")) server := by
    simp only [Handlers.RegisterClient,hr.serverValid,hr.clientValid,Bool.false_eq_true,if_false]
    rw [registerClient_accepted env hr.known hr.unregistered hr.notClient hr.notServer hr.found]
  have hunkilled : ((Handlers.RegisterClient env s r.params o).1.client o).m_killConnectionRequested
      = false := by
    rw [haccepted,acceptClient,(Kept.sendNotification env _ _ _ _ _).client o,attachClient_client,
      Function.update_self,activateClient_eq]
    exact hw.unkilled
  rw [processDataPacket_request hx,← haccepted]
  exact invoke_answered hm hunkilled

theorem Waiting.registersClient {x : QByteArray} {r : Request} {server : ObjectId}
    (hw : Waiting s o b) (hx : JsonRpcServer.request env x = some r)
    (hr : r.RegistersClient env s o server) :
    Tunnelling (JsonRpcServer.processDataPacket env s o x) o server
        (env.toUuid (r.params.value "clientUuid")) ∧
      ∃ new, (JsonRpcServer.processDataPacket env s o x).output = s.output ++ new ∧
        new.filter Output.tunnelled = [] := by
  have ha := hw.accepted hx hr
  generalize env.toString (r.params.value "clientName") = name at ha
  generalize env.toUuid (r.params.value "clientUuid") = uuid at ha
  have he := attachClient_entered (s := s) o uuid name server
  have hattached : Tunnelling (s.attachClient o uuid name server) o server uuid := by
    refine ⟨by rw [he.proxyClients]; exact hw.known,he.type,he.uuid,?_,?_⟩
    · rw [(attachClient_tables (s := s) o uuid name server).2,QHash.value_insert,if_pos rfl]
    · rw [attachClient_clientConnection,Function.update_self]
      rfl
  refine ⟨(hattached.same (SameRegistry.sendNotification env _ _ _ _ _)).same ha.same,?_⟩
  obtain ⟨new,hnew,hq⟩ := acceptClient_output env s o uuid name server
  obtain ⟨new',hnew',hq'⟩ := ha.output
  refine ⟨new ++ new',?_,?_⟩
  · rw [hnew',hnew,List.append_assoc]
  · rw [List.filter_append,hq,hq']
    rfl

end Client

section Server

open SlipDataProcessor

/-- `o` is registered as a server and sends frames, with `b` in its buffer. -/
structure Framed (s : TunnelProxyServer) (o : ObjectId) (b : QByteArray) : Prop where
  named : ∀ x, s.m_proxyClients.value o = some x → x = o
  role : (s.client o).m_type = .TypeServer
  slip : (s.client o).m_slipEnabled = true
  buffer : (s.client o).m_dataBuffer = b

theorem Framed.kept (hk : Kept s t) (h : Framed s o b) : Framed t o b := by
  have hc := hk.client o
  refine ⟨fun x hx => h.named x (hk.proxyClients o x hx),?_,?_,?_⟩
  · rw [hc]
    exact h.role
  · rw [hc]
    exact h.slip
  · rw [hc]
    exact h.buffer

theorem Framed.setClient (h : Framed s o b) {c : TunnelProxyClient} {b' : QByteArray}
    (htype : c.m_type = (s.client o).m_type) (hslip : c.m_slipEnabled = true)
    (hbuffer : c.m_dataBuffer = b') : Framed (s.setClient o c) o b' := by
  refine ⟨h.named,?_,?_,?_⟩
  · rw [setClient_client,Function.update_self,htype,h.role]
  · rw [setClient_client,Function.update_self,hslip]
  · rw [setClient_client,Function.update_self,hbuffer]

theorem Framed.doom (h : Framed s o b) (reason : String) :
    Framed (killConnectionAfterResponse s o reason) o b := h.setClient rfl h.slip h.buffer

theorem Framed.turnedDown (h : Framed s o b) {r : TunnelProxyServer × TunnelProxyError}
    (hr : TurnedDown s o r) : Framed r.1 o b := by
  obtain ⟨-,he | ⟨reason,he⟩⟩ := hr
  · rw [he]
    exact h
  · rw [he]
    exact h.doom reason

theorem Framed.method (h : Framed s o b) {r : Request} {method : Handlers.Method}
    (hm : Handlers.method? env r.targetNamespace r.method = some method) :
    Framed (method s r.params o).1 o b := by
  have hnot : (s.client o).m_type ≠ .TypeNone := by
    rw [h.role]
    decide
  rcases method_cases env hm with hsame | ⟨-,-,rfl⟩ | ⟨-,-,rfl⟩ | ⟨-,-,rfl⟩
  · rw [hsame]
    exact h
  · simp only [Handlers.RegisterServer]
    split
    · exact h
    · rcases registerServer_cases h.named (env.toUuid (r.params.value "serverUuid"))
        (env.toString (r.params.value "serverName")) with hdown | ⟨-,htype,-⟩
      · exact h.turnedDown hdown
      · exact absurd htype hnot
  · simp only [Handlers.RegisterClient]
    split
    · exact h
    · split
      · exact h
      · rcases registerClient_cases env h.named (env.toUuid (r.params.value "clientUuid"))
          (env.toString (r.params.value "clientName")) (env.toUuid (r.params.value "serverUuid"))
          with hdown | ⟨-,htype,-⟩
        · exact h.turnedDown hdown
        · exact absurd htype hnot
  · rcases disconnectClient_cases env h.named
      (UInt16.ofNat (env.toUInt (r.params.value "socketAddress"))) with
      (he | ⟨reason,he⟩) | ⟨-,-,_,_,reason,-,-,he⟩
    · simp only [Handlers.DisconnectClient,he]
      exact h
    · simp only [Handlers.DisconnectClient,he]
      exact h.doom reason
    · simp only [Handlers.DisconnectClient,he]
      exact h.kept (killConnection_kept env s _ reason)

theorem Framed.finishCall (h : Framed s o b) (commandId : Int) (data : QVariantMap) :
    Framed (JsonRpcServer.finishCall env s o commandId data) o b := by
  have ht : Framed (JsonRpcServer.sendResponse env s o commandId data) o b :=
    h.kept (Kept.sendData _ _ _ _)
  simp only [JsonRpcServer.finishCall]
  split
  · exact ht.kept (killConnection_kept env _ _ _)
  · split
    · exact ht.setClient rfl rfl ht.buffer
    · exact ht

theorem Framed.processFrame (h : Framed s o b) (frame : Frame) :
    Framed (processFrame env s o frame) o b := by
  unfold TunnelProxyServer.processFrame
  split
  · rcases JsonRpcServer.processDataPacket_cases env s o frame.data with
      ⟨r,-,he⟩ | ⟨-,commandId,error,reason,he⟩
    · rw [he,JsonRpcServer.invoke,JsonRpcServer.invokeMethod]
      split
      · exact h
      · next method hm =>
        exact Framed.finishCall ((h.method hm).kept (Kept.assertX _ _ _ _)) _ _
    · rw [he,JsonRpcServer.refuse]
      have hsent : Framed (JsonRpcServer.sendErrorResponse env s o commandId error) o b :=
        h.kept (Kept.sendData _ _ _ _)
      exact hsent.kept (killConnection_kept env _ _ _)
  · split
    · exact h
    · split
      · exact h
      · exact h.kept ((Kept.sendData _ _ _ _).trans (Kept.counted _ _))

theorem Framed.frames (h : Framed s o b) (packets : List QByteArray) :
    Framed ((packets.map fun packet => Item.frame (parseFrame packet)).foldl (handle env o) s) o b := by
  induction packets generalizing s with
  | nil => exact h
  | cons packet packets ih => exact ih (h.processFrame (parseFrame packet))

theorem Framed.received (h : Framed s o b) (data : QByteArray) :
    Framed (s.received o data) o b := by
  rw [TunnelProxyServer.received,addRxDataCount_eq]
  exact h.setClient rfl h.slip h.buffer

theorem Framed.dataAvailable (env : Environment) (h : Framed s o b)
    (hknown : s.m_proxyClients.value o = some o)
    (data : QByteArray) :
    Framed (s.step env (.dataAvailable o data)) o (TunnelProxyClient.processSlip b data).1 ∧
      taken o s data = (TunnelProxyClient.processSlip b data).2.map fun packet =>
        .frame (parseFrame packet) := by
  have hr := h.received data
  have hnot : ((s.received o data).client o).m_type ≠ .TypeClient := by
    rw [hr.role]
    decide
  have hframed : (s.received o data).framed o = true := by simp [framed,hr.role,hr.slip]
  have hprocess : ((s.received o data).client o).processData data =
      ({ (s.received o data).client o with
          m_dataBuffer := (TunnelProxyClient.processSlip b data).1 },
        (TunnelProxyClient.processSlip b data).2) := by
    simp only [TunnelProxyClient.processData,hr.slip,if_true,hr.buffer]
  have hitems : (s.received o data).items o data =
      (TunnelProxyClient.processSlip b data).2.map fun packet => .frame (parseFrame packet) := by
    rw [items,if_neg hnot,hframed,if_pos rfl,hprocess]
  refine ⟨?_,by rw [taken,if_pos hknown,hitems]⟩
  rw [step,onClientDataAvailable_eq env hknown,hitems,buffered,if_neg hnot,hframed,if_pos rfl,hprocess]
  have hset : Framed ((s.received o data).setClient o { (s.received o data).client o with
      m_dataBuffer := (TunnelProxyClient.processSlip b data).1 }) o
      (TunnelProxyClient.processSlip b data).1 := hr.setClient rfl hr.slip rfl
  exact hset.frames _

theorem Framed.congr (hs : t.standing o uuids = s.standing o uuids) (h : Framed s o b) :
    Framed t o b := by
  simp only [standing,Standing.mk.injEq] at hs
  obtain ⟨h1,-,h3,-,h5,-,-,h8,-⟩ := hs
  exact ⟨by rw [h1]; exact h.named,h3.trans h.role,h8.trans h.slip,h5.trans h.buffer⟩

theorem Framed.unknown (h : Framed s o b) (hu : ¬s.m_proxyClients.value o = some o) :
    s.m_proxyClients.value o = none := by
  refine Option.eq_none_iff_forall_ne_some.mpr fun x hx => hu ?_
  rw [hx,h.named x hx]

variable (env o) in
def Undropped : TunnelProxyServer → List Arrival → Prop
  | _, [] => True
  | s, a :: arrivals =>
    (ProtocolByteEnd ∈ a.chunk → (s.before env a).m_proxyClients.value o = some o) ∧
      Undropped (arrive env o s a) arrivals

theorem gone_framesRead {arrivals : List Arrival} (hgone : s.m_proxyClients.value o = none)
    (hu : LeftAlone env o uuids s arrivals) : framesRead env o s arrivals = [] :=
  gone_along (fun t data ht => by rw [gone_taken t data ht]; rfl) hgone hu

theorem Undropped.of_not_mem {arrivals : List Arrival} (h : ProtocolByteEnd ∉ bytes arrivals) :
    Undropped env o s arrivals := by
  induction arrivals generalizing s with
  | nil => trivial
  | cons a arrivals ih =>
    rw [bytes_cons,List.mem_append,not_or] at h
    exact ⟨fun hm => absurd hm h.1,ih h.2⟩

theorem gone_step {a : Arrival} (hgone : (s.before env a).m_proxyClients.value o = none) :
    arrive env o s a = s.before env a := by
  simp only [arrive,step,onClientDataAvailable,hgone]

theorem Undropped.not_mem {arrivals : List Arrival} (hgone : s.m_proxyClients.value o = none)
    (hu : LeftAlone env o uuids s arrivals) (h : Undropped env o s arrivals) :
    ProtocolByteEnd ∉ bytes arrivals := by
  induction arrivals generalizing s with
  | nil => simp
  | cons a arrivals ih =>
    have hbefore : (s.before env a).m_proxyClients.value o = none :=
      (congrArg Standing.known hu.1).trans hgone
    have hrest := ih (s := arrive env o s a) (by rw [gone_step hbefore]; exact hbefore) hu.2 h.2
    rw [bytes_cons,List.mem_append,not_or]
    refine ⟨fun hm => ?_,hrest⟩
    rw [h.1 hm] at hbefore
    simp at hbefore

theorem framesRead_known (h : Framed s o b) {a : Arrival}
    (hbefore : (s.before env a).standing o uuids = s.standing o uuids)
    (hknown : (s.before env a).m_proxyClients.value o = some o) (arrivals : List Arrival) :
    Framed (arrive env o s a) o (TunnelProxyClient.processSlip b a.chunk).1 ∧
      framesRead env o s (a :: arrivals) =
        (TunnelProxyClient.processSlip b a.chunk).2.map parseFrame ++
          framesRead env o (arrive env o s a) arrivals := by
  obtain ⟨hframed,htaken⟩ := (h.congr hbefore).dataAvailable env hknown a.chunk
  refine ⟨hframed,?_⟩
  have hframes : Item.frame? ∘ (fun packet => Item.frame (parseFrame packet)) =
      some ∘ parseFrame := rfl
  rw [framesRead_cons,htaken,List.filterMap_map,hframes,List.filterMap_eq_map]

theorem framesRead_eq {arrivals : List Arrival} (h : Framed s o b)
    (hu : LeftAlone env o uuids s arrivals) (hd : Undropped env o s arrivals) :
    framesRead env o s arrivals =
      (TunnelProxyClient.processSlip b (bytes arrivals)).2.map parseFrame := by
  induction arrivals generalizing s b with
  | nil => rfl
  | cons a arrivals ih =>
    by_cases hknown : (s.before env a).m_proxyClients.value o = some o
    · obtain ⟨hframed,hread⟩ := framesRead_known h hu.1 hknown arrivals
      rw [hread,ih hframed hu.2 hd.2,bytes_cons,TunnelProxyClient.processSlip_append,List.map_append]
    · have hgone : s.m_proxyClients.value o = none :=
        (congrArg Standing.known hu.1).symm.trans ((h.congr hu.1).unknown hknown)
      have hnone := Undropped.not_mem hgone hu hd
      rw [gone_framesRead hgone hu,TunnelProxyClient.processSlip,
        Delimited.run_body ProtocolByteEnd TunnelProxyClient.closeFrame _ hnone]
      rfl

theorem length_framesRead {arrivals : List Arrival} (h : Framed s o b)
    (hu : LeftAlone env o uuids s arrivals) :
    (framesRead env o s arrivals).length ≤ (bytes arrivals).count ProtocolByteEnd ∧
      ((framesRead env o s arrivals).length = (bytes arrivals).count ProtocolByteEnd →
        Undropped env o s arrivals) := by
  induction arrivals generalizing s b with
  | nil => exact ⟨Nat.le_refl _,fun _ => trivial⟩
  | cons a arrivals ih =>
    by_cases hknown : (s.before env a).m_proxyClients.value o = some o
    · obtain ⟨hframed,hread⟩ := framesRead_known h hu.1 hknown arrivals
      obtain ⟨hle,hundropped⟩ := ih hframed hu.2
      have hchunk := TunnelProxyClient.length_processSlip_le b a.chunk
      rw [hread,bytes_cons,List.length_append,List.length_map,List.count_append]
      exact ⟨by omega,fun he => ⟨fun _ => hknown,hundropped (by omega)⟩⟩
    · have hgone : s.m_proxyClients.value o = none :=
        (congrArg Standing.known hu.1).symm.trans ((h.congr hu.1).unknown hknown)
      rw [gone_framesRead hgone hu]
      refine ⟨Nat.zero_le _,fun he => Undropped.of_not_mem ?_⟩
      exact List.count_eq_zero.mp he.symm

theorem heard_framed {arrivals : List Arrival} (h : Framed s o b)
    (hu : LeftAlone env o uuids s arrivals) : heard env o s arrivals = [] := by
  induction arrivals generalizing s b with
  | nil => rfl
  | cons a arrivals ih =>
    by_cases hknown : (s.before env a).m_proxyClients.value o = some o
    · obtain ⟨hframed,htaken⟩ := (h.congr hu.1).dataAvailable env hknown a.chunk
      rw [heard_cons,htaken,List.filterMap_map,ih (s := arrive env o s a) hframed hu.2,
        List.append_nil]
      exact List.filterMap_eq_nil_iff.mpr fun _ _ => rfl
    · have hgone : s.m_proxyClients.value o = none :=
        (congrArg Standing.known hu.1).symm.trans ((h.congr hu.1).unknown hknown)
      exact gone_heard hgone hu

theorem Waiting.registersServer {x : QByteArray} {r : Request} {uuid : QUuid}
    (hw : Waiting s o b) (hx : JsonRpcServer.request env x = some r)
    (hr : r.RegistersServer env s o uuid) :
    Framed (JsonRpcServer.processDataPacket env s o x) o b := by
  have hm : Handlers.method? env r.targetNamespace r.method = some (Handlers.RegisterServer env) := by
    rw [hr.name.1,hr.name.2]
    rfl
  have haccepted : (Handlers.RegisterServer env s r.params o).1 =
      s.acceptServer o uuid (env.toString (r.params.value "serverName")) := by
    simp only [Handlers.RegisterServer,hr.serverUuid,hr.valid,Bool.false_eq_true,if_false]
    rw [registerServer_accepted hr.known hr.unregistered hr.notServer hr.notClient]
  have he := acceptServer_entered s o uuid (env.toString (r.params.value "serverName"))
  have hc : ((s.acceptServer o uuid (env.toString (r.params.value "serverName"))).client
        o).m_slipAfterResponseEnabled = true ∧
      ((s.acceptServer o uuid (env.toString (r.params.value "serverName"))).client
        o).m_killConnectionRequested = (s.client o).m_killConnectionRequested ∧
      ((s.acceptServer o uuid (env.toString (r.params.value "serverName"))).client
        o).m_dataBuffer = (s.client o).m_dataBuffer := by
    rw [acceptServer,enterAs_eq _ _ (by decide),activateClient_eq]
    simp [TunnelProxyClient.enableSlipAfterResponse,TunnelProxyClient.setName,
      TunnelProxyClient.setUuid,TunnelProxyClient.setType]
  have ha := invoke_answered (s := s) (o := o) hm (by rw [haccepted,hc.2.1]; exact hw.unkilled)
  rw [haccepted] at ha
  have hclient := ha.client
  rw [processDataPacket_request hx]
  refine ⟨?_,?_,?_,?_⟩
  · rw [ha.same.proxyClients,he.proxyClients,hw.known]
    exact fun x hx => (Option.some.inj hx).symm
  · rw [hclient]
    exact he.type
  · rw [hclient,hc.1]
    exact Bool.or_true _
  · rw [hclient]
    exact hc.2.2.trans hw.buffer

end Server

end RemoteProxy.TunnelProxyServer
