import RemoteProxy.Proxy.Framing
import RemoteProxy.Proxy.Registered

namespace RemoteProxy.TunnelProxyServer

open JsonRpcServer

variable {env : Environment} {o : ObjectId} {s s' t : TunnelProxyServer}

def Message.answer? : Message → Option (Int × Bool)
  | .response commandId _ => some (commandId,false)
  | .errorResponse commandId _ => some (commandId,true)
  | _ => none

def Output.isAnswer : Output → Bool
  | .sent _ message _ => (Message.answer? message).isSome
  | _ => false

def answers (s : TunnelProxyServer) : List Output := s.output.filter Output.isAnswer

def packetId (env : Environment) (data : QByteArray) : Int :=
  match env.fromJson data with
  | .error _ => -1
  | .ok jsonDoc => (env.toInt (jsonDoc.toMap.value "id")).getD (-1)

def lineFrame (env : Environment) (slipEnabled : Bool) (object : QVariantMap) : QByteArray :=
  let line := env.toJson object ++ [JsonPackets.newline]
  if slipEnabled then
    SlipDataProcessor.serializeData (SlipDataProcessor.buildFrame ⟨0x0000,line⟩)
  else line

def Output.notifies (env : Environment) : Output → Prop
  | .sent _ _ bytes => ∃ slipEnabled object, bytes = lineFrame env slipEnabled object ∧
      object.contains "notification" = true ∧ object.contains "status" = false
  | _ => True

section Unanswered

def Extends (env : Environment) (s s' : TunnelProxyServer) : Prop :=
  ∃ new, s'.output = s.output ++ new ∧
    ∀ x ∈ new, Output.isAnswer x = false → Output.notifies env x

theorem Extends.refl (s : TunnelProxyServer) : Extends env s s :=
  ⟨[],(List.append_nil _).symm,by simp⟩

theorem Extends.trans (h : Extends env s s') (h' : Extends env s' t) : Extends env s t := by
  obtain ⟨new,hnew,hall⟩ := h
  obtain ⟨new',hnew',hall'⟩ := h'
  refine ⟨new ++ new',by rw [hnew',hnew,List.append_assoc],fun x hx => ?_⟩
  exact (List.mem_append.mp hx).elim (hall x) (hall' x)

theorem Extends.of_output (hout : s'.output = s.output) : Extends env s s' :=
  ⟨[],by rw [hout,List.append_nil],by simp⟩

theorem Extends.of_new {x : Output} (hout : s'.output = s.output ++ [x])
    (hx : Output.isAnswer x = false → Output.notifies env x) : Extends env s s' := by
  refine ⟨[x],hout,fun y hy => ?_⟩
  rw [List.mem_singleton.mp hy]
  exact hx

/-- Nothing is answered in between, and nobody switches to SLIP. -/
structure Unanswered (env : Environment) (s s' : TunnelProxyServer) : Prop where
  extended : Extends env s s'
  answers : s'.answers = s.answers
  slip : ∀ x, (s'.client x).m_slipEnabled = (s.client x).m_slipEnabled

theorem Unanswered.refl (s : TunnelProxyServer) : Unanswered env s s :=
  ⟨.refl s,rfl,fun _ => rfl⟩

theorem Unanswered.trans (h : Unanswered env s s') (h' : Unanswered env s' t) :
    Unanswered env s t :=
  ⟨h.extended.trans h'.extended,h'.answers.trans h.answers,fun x => (h'.slip x).trans (h.slip x)⟩

theorem Unanswered.of_output (hout : s'.output = s.output)
    (hslip : ∀ x, (s'.client x).m_slipEnabled = (s.client x).m_slipEnabled) :
    Unanswered env s s' :=
  ⟨.of_output hout,by rw [TunnelProxyServer.answers,hout]; rfl,hslip⟩

theorem answers_append {new : List Output} (hout : s'.output = s.output ++ new) :
    s'.answers = s.answers ++ new.filter Output.isAnswer := by
  rw [answers,hout,List.filter_append]
  rfl

theorem Unanswered.of_new {x : Output} (hout : s'.output = s.output ++ [x])
    (hx : Output.isAnswer x = false) (hn : Output.notifies env x)
    (hslip : ∀ x, (s'.client x).m_slipEnabled = (s.client x).m_slipEnabled) :
    Unanswered env s s' := by
  refine ⟨.of_new hout fun _ => hn,?_,hslip⟩
  rw [answers_append hout,List.filter_cons_of_neg (by simp [hx]),List.filter_nil,List.append_nil]

theorem Unanswered.setClient (s : TunnelProxyServer) {c : TunnelProxyClient}
    (h : c.m_slipEnabled = (s.client o).m_slipEnabled) : Unanswered env s (s.setClient o c) := by
  refine Unanswered.of_output rfl fun x => ?_
  rcases eq_or_ne x o with rfl | hne
  · simpa using h
  · simp [hne]

theorem Unanswered.assertX (s : TunnelProxyServer) (condition : Bool) (place what : String) :
    Unanswered env s (s.assertX condition place what) := by
  rw [TunnelProxyServer.assertX]
  split
  · exact Unanswered.refl s
  · exact Unanswered.of_new rfl rfl trivial fun _ => rfl

theorem Unanswered.sendNotification (env : Environment) (s : TunnelProxyServer)
    (nameSpace method : String) (params : QVariantMap) (x : ObjectId) :
    Unanswered env s (JsonRpcServer.sendNotification env s nameSpace method params x) :=
  Unanswered.of_new rfl rfl ⟨_,_,rfl,rfl,rfl⟩ fun y => by
    rw [(Kept.sendNotification env s nameSpace method params x).client y]

theorem unanswered_leaving (env : Environment) : Leaving env (Unanswered env) where
  refl := Unanswered.refl
  trans := Unanswered.trans
  take _ _ := Unanswered.of_output rfl fun _ => rfl
  serverEntry _ _ := Unanswered.of_output rfl fun _ => rfl
  clientEntry _ _ := Unanswered.of_output rfl fun _ => rfl
  detach _ _ _ := Unanswered.of_output rfl fun _ => rfl
  kill _ _ _ := Unanswered.of_new rfl rfl trivial fun _ => rfl
  notify := Unanswered.sendNotification env
  unregister s x := by
    refine Unanswered.of_output (unregisterClient_rest s x).2 fun y => ?_
    rw [(unregisterClient_heaps s x).1]

end Unanswered

section Methods

theorem acceptServer_unanswered (s : TunnelProxyServer) (x : ObjectId) (uuid : QUuid)
    (name : String) : Unanswered env s (s.acceptServer x uuid name) := by
  rw [acceptServer,enterAs_eq s x (by decide),activateClient_eq]
  refine Unanswered.of_output rfl fun y => ?_
  rcases eq_or_ne y x with rfl | hne
  · simp [TunnelProxyClient.enableSlipAfterResponse,TunnelProxyClient.setName,
      TunnelProxyClient.setUuid,TunnelProxyClient.setType]
  · simp [hne]

theorem acceptClient_unanswered (env : Environment) (s : TunnelProxyServer) (x : ObjectId)
    (uuid : QUuid) (name : String) (server : ObjectId) :
    Unanswered env s (acceptClient env s x uuid name server) := by
  refine Unanswered.trans ?_ (Unanswered.sendNotification env _ _ _ _ _)
  have hout := attachClient_output s x uuid name server
  have hslip : ∀ y, ((s.attachClient x uuid name server).client y).m_slipEnabled =
      (s.client y).m_slipEnabled := by
    intro y
    rw [attachClient_client,activateClient_eq]
    rcases eq_or_ne y x with rfl | hne
    · rw [Function.update_self]
      rfl
    · rw [Function.update_of_ne hne]
  refine ⟨⟨_,hout,fun y hy _ => ?_⟩,?_,hslip⟩
  · split at hy
    · cases hy
    · rw [List.mem_singleton.mp hy]
      trivial
  · rw [answers_append hout]
    split
    · exact List.append_nil _
    · exact List.append_nil _

theorem registerServer_unanswered (s : TunnelProxyServer) (clientId uuid : QUuid) (name : String) :
    Unanswered env s (registerServer s clientId uuid name).1 := by
  simp only [registerServer]
  split
  · exact Unanswered.refl s
  · split
    · exact Unanswered.setClient s rfl
    · split
      · exact Unanswered.setClient s rfl
      · split
        · exact Unanswered.setClient s rfl
        · exact acceptServer_unanswered s _ _ _

theorem registerClient_unanswered (env : Environment) (s : TunnelProxyServer)
    (clientId clientUuid : QUuid) (name : String) (serverUuid : QUuid) :
    Unanswered env s (registerClient env s clientId clientUuid name serverUuid).1 := by
  simp only [registerClient]
  split
  · exact Unanswered.refl s
  · split
    · exact Unanswered.setClient s rfl
    · split
      · exact Unanswered.setClient s rfl
      · split
        · exact Unanswered.setClient s rfl
        · split
          · exact Unanswered.setClient s rfl
          · exact acceptClient_unanswered env s _ _ _ _

theorem disconnectClient_unanswered (env : Environment) (s : TunnelProxyServer) (clientId : QUuid)
    (socketAddress : UInt16) :
    Unanswered env s (disconnectClient env s clientId socketAddress).1 := by
  simp only [disconnectClient]
  split
  · exact Unanswered.refl s
  · split
    · exact Unanswered.setClient s rfl
    · split
      · exact Unanswered.setClient s rfl
      · split
        · exact Unanswered.refl s
        · exact (unanswered_leaving env).killConnection s _ _

theorem method_unanswered {targetNamespace name : String} {method : Handlers.Method}
    (hm : Handlers.method? env targetNamespace name = some method) (s : TunnelProxyServer)
    (params : QVariantMap) (o : ObjectId) : Unanswered env s (method s params o).1 := by
  rcases method_cases env hm with hsame | ⟨-,-,rfl⟩ | ⟨-,-,rfl⟩ | ⟨-,-,rfl⟩
  · rw [hsame]
    exact Unanswered.refl s
  · simp only [Handlers.RegisterServer]
    split
    · exact Unanswered.refl s
    · exact registerServer_unanswered s _ _ _
  · simp only [Handlers.RegisterClient]
    split
    · exact Unanswered.refl s
    · split
      · exact Unanswered.refl s
      · exact registerClient_unanswered env s _ _ _ _
  · exact disconnectClient_unanswered env s _ _

theorem mem_of_lookup {V : Type} {l : List (String × V)} {key : String}
    (h : (l.lookup key).isSome = true) : key ∈ l.map Prod.fst := by
  obtain ⟨v,hv⟩ := Option.isSome_iff_exists.mp h
  obtain ⟨before,after,hl,-⟩ := List.lookup_eq_some_iff.mp hv
  rw [hl]
  simp

theorem method_found (env : Environment) {targetNamespace name : String} {handler : JsonHandler}
    (hhandler : m_handlers.lookup targetNamespace = some handler)
    (hname : handler.hasMethod name = true) :
    ∃ method, Handlers.method? env targetNamespace name = some method := by
  obtain ⟨before,after,hlist,-⟩ := List.lookup_eq_some_iff.mp hhandler
  have hmem := hlist ▸ List.mem_append_right before (List.mem_cons_self (a := _) (l := after))
  rw [JsonHandler.hasMethod,Bool.and_eq_true] at hname
  have hreturns := mem_of_lookup hname.2
  simp only [m_handlers,List.map_cons,List.map_nil,List.mem_cons,Prod.mk.injEq,List.not_mem_nil,
    or_false] at hmem
  rcases hmem with ⟨rfl,rfl⟩ | ⟨rfl,rfl⟩
  · simp only [jsonRpcServerHandler,List.map_cons,List.map_nil,List.mem_cons,List.not_mem_nil,
      or_false] at hreturns
    rcases hreturns with rfl | rfl
    · exact ⟨_,rfl⟩
    · exact ⟨_,rfl⟩
  · simp only [tunnelProxyHandler,List.map_cons,List.map_nil,List.mem_cons,List.not_mem_nil,
      or_false] at hreturns
    rcases hreturns with rfl | rfl | rfl | rfl
    · exact ⟨_,rfl⟩
    · exact ⟨_,rfl⟩
    · exact ⟨_,rfl⟩
    · exact ⟨_,rfl⟩

end Methods

section Packets

theorem processDataPacket_refused {data : QByteArray} (hr : JsonRpcServer.request env data = none)
    (s : TunnelProxyServer) (o : ObjectId) :
    ∃ error reason, processDataPacket env s o data = refuse env s o (packetId env data) error reason := by
  simp only [JsonRpcServer.request] at hr
  simp only [processDataPacket,packetId]
  cases hjson : env.fromJson data with
  | error errorString => exact ⟨_,_,rfl⟩
  | ok jsonDoc =>
    rw [hjson] at hr
    dsimp only at hr ⊢
    cases hid : env.toInt (jsonDoc.toMap.value "id") with
    | none => exact ⟨_,_,rfl⟩
    | some commandId =>
      rw [hid] at hr
      dsimp only at hr ⊢
      rcases hsplit : QString.split '.' (env.toString (jsonDoc.toMap.value "method")) with
        _ | ⟨targetNamespace,_ | ⟨method,_ | ⟨other,others⟩⟩⟩
      · exact ⟨_,_,rfl⟩
      · exact ⟨_,_,rfl⟩
      · rw [hsplit] at hr
        dsimp only at hr ⊢
        cases hlookup : m_handlers.lookup targetNamespace with
        | none => exact ⟨_,_,rfl⟩
        | some handler =>
          rw [hlookup] at hr
          dsimp only at hr ⊢
          split at hr
          · next hmethod =>
            rw [if_pos hmethod]
            exact ⟨_,_,rfl⟩
          · next hmethod =>
            split at hr
            · next hparams =>
              rw [if_neg hmethod,if_pos hparams]
              exact ⟨_,_,rfl⟩
            · cases hr
      · exact ⟨_,_,rfl⟩

theorem request_named {data : QByteArray} {r : Request}
    (hr : JsonRpcServer.request env data = some r) :
    r.commandId = packetId env data ∧ m_handlers.lookup r.targetNamespace = some r.handler ∧
      r.handler.hasMethod r.method = true := by
  simp only [JsonRpcServer.request] at hr
  simp only [packetId]
  cases hjson : env.fromJson data with
  | error errorString => simp [hjson] at hr
  | ok jsonDoc =>
    rw [hjson] at hr
    dsimp only at hr ⊢
    cases hid : env.toInt (jsonDoc.toMap.value "id") with
    | none => simp [hid] at hr
    | some commandId =>
      rw [hid] at hr
      dsimp only at hr ⊢
      rcases hsplit : QString.split '.' (env.toString (jsonDoc.toMap.value "method")) with
        _ | ⟨targetNamespace,_ | ⟨method,_ | ⟨other,others⟩⟩⟩
      · simp [hsplit] at hr
      · simp [hsplit] at hr
      · rw [hsplit] at hr
        dsimp only at hr
        cases hlookup : m_handlers.lookup targetNamespace with
        | none => simp [hlookup] at hr
        | some handler =>
          rw [hlookup] at hr
          dsimp only at hr
          split at hr
          · cases hr
          · next hmethod =>
            split at hr
            · cases hr
            · obtain rfl := Option.some.inj hr
              exact ⟨rfl,hlookup,by simpa using hmethod⟩
      · simp [hsplit] at hr

/-- What answers a packet of `o`: the id is the packet's, the status says whether it was refused, and
the framing is that before the packet. -/
def AnswersPacket (env : Environment) (s : TunnelProxyServer) (o : ObjectId) (data : QByteArray)
    (out : Output) : Prop :=
  ∃ message object, out = .sent o message (lineFrame env (s.client o).m_slipEnabled object) ∧
    object.value "id" = .number (packetId env data) 0 ∧
    object.value "status" =
      .string (if (JsonRpcServer.request env data).isNone then "error" else "success")

theorem sendMessage_answers (env : Environment) (s : TunnelProxyServer) (o : ObjectId)
    {m : Message}
    (hm : (Message.answer? m).isSome = true) :
    (sendMessage env s o m).answers =
      s.answers ++ [.sent o m (jsonFrame env (s.client o).m_slipEnabled m)] := by
  have hout : (sendMessage env s o m).output =
      s.output ++ [.sent o m (jsonFrame env (s.client o).m_slipEnabled m)] := rfl
  have hanswer : Output.isAnswer
      (.sent o m (jsonFrame env (s.client o).m_slipEnabled m)) = true := hm
  rw [answers_append hout,List.filter_cons_of_pos hanswer]
  rfl

theorem sendMessage_extends (env : Environment) (s : TunnelProxyServer) (o : ObjectId)
    {m : Message} (hm : (Message.answer? m).isSome = true) : Extends env s (sendMessage env s o m) := by
  refine .of_new (x := .sent o m (jsonFrame env (s.client o).m_slipEnabled m)) rfl fun hx => ?_
  exact absurd (hm.symm.trans hx) (by decide)

theorem finishCall_answers (s : TunnelProxyServer) (o : ObjectId) (commandId : Int)
    (data : QVariantMap) : (finishCall env s o commandId data).answers =
      s.answers ++ [.sent o (.response commandId data)
        (jsonFrame env (s.client o).m_slipEnabled (.response commandId data))] := by
  have hsent := sendMessage_answers env s o (m := .response commandId data) rfl
  simp only [finishCall]
  split
  · rw [((unanswered_leaving env).killConnection _ _ _).answers]
    exact hsent
  · split
    · exact hsent
    · exact hsent

theorem invoke_answers {r : Request} {method : Handlers.Method}
    (hm : Handlers.method? env r.targetNamespace r.method = some method) (s : TunnelProxyServer)
    (o : ObjectId) : (JsonRpcServer.invoke env s o r).answers =
      s.answers ++ [.sent o (.response r.commandId (method s r.params o).2)
        (jsonFrame env (s.client o).m_slipEnabled
          (.response r.commandId (method s r.params o).2))] := by
  have hcalled := method_unanswered hm s r.params o
  have hasserted := hcalled.trans (Unanswered.assertX (method s r.params o).1
    ((r.targetNamespace = "RemoteProxy" && r.method = "Introspect") ||
      (r.handler.validateReturns env.toQt r.method (method s r.params o).2).1)
    "validating return value"
    (formatAssertion env r.targetNamespace r.method r.handler (method s r.params o).2))
  simp only [JsonRpcServer.invoke,invokeMethod,hm]
  rw [finishCall_answers,hasserted.answers,hasserted.slip o]

theorem invoke_extends {r : Request} {method : Handlers.Method}
    (hm : Handlers.method? env r.targetNamespace r.method = some method) (s : TunnelProxyServer)
    (o : ObjectId) : Extends env s (JsonRpcServer.invoke env s o r) := by
  have hcalled := (method_unanswered hm s r.params o).trans (Unanswered.assertX
    (method s r.params o).1 ((r.targetNamespace = "RemoteProxy" && r.method = "Introspect") ||
      (r.handler.validateReturns env.toQt r.method (method s r.params o).2).1)
    "validating return value"
    (formatAssertion env r.targetNamespace r.method r.handler (method s r.params o).2))
  simp only [JsonRpcServer.invoke,invokeMethod,hm]
  generalize (method s r.params o).1.assertX _ _ _ = t at hcalled ⊢
  have hsent := sendMessage_extends env t o (m := .response r.commandId (method s r.params o).2) rfl
  refine hcalled.extended.trans (hsent.trans ?_)
  simp only [finishCall]
  split
  · exact ((unanswered_leaving env).killConnection _ _ _).extended
  · split
    · exact .of_output rfl
    · exact .refl _

theorem packet_answered (env : Environment) (s : TunnelProxyServer) (o : ObjectId) (data : QByteArray) :
    Extends env s (processDataPacket env s o data) ∧
    (∃ out, AnswersPacket env s o data out ∧
      (processDataPacket env s o data).answers = s.answers ++ [out]) ∧
    (JsonRpcServer.request env data = none → ∃ error reason, processDataPacket env s o data =
      killConnection env (sendErrorResponse env s o (packetId env data) error) o reason) := by
  cases hr : JsonRpcServer.request env data with
  | none =>
    obtain ⟨error,reason,he⟩ := processDataPacket_refused hr s o
    refine ⟨?_,⟨_,⟨.errorResponse (packetId env data) error,
      toVariant (.errorResponse _ error),rfl,rfl,?_⟩,?_⟩,fun _ => ⟨error,reason,he⟩⟩
    · rw [he,refuse]
      exact (sendMessage_extends env s o rfl).trans
        ((unanswered_leaving env).killConnection _ _ _).extended
    · rw [hr]
      rfl
    · rw [he,refuse,((unanswered_leaving env).killConnection _ _ _).answers]
      exact sendMessage_answers env s o rfl
  | some r =>
    obtain ⟨hid,hhandler,hname⟩ := request_named hr
    obtain ⟨method,hm⟩ := method_found env hhandler hname
    rw [processDataPacket_request hr]
    refine ⟨invoke_extends hm s o,⟨_,⟨.response r.commandId (method s r.params o).2,toVariant _,rfl,?_,
      ?_⟩,invoke_answers hm s o⟩,fun h => by cases h⟩
    · rw [← hid]
      rfl
    · rw [hr]
      rfl

end Packets

section Sequences

def processPackets (env : Environment) (s : TunnelProxyServer)
    (packets : List (ObjectId × QByteArray)) : TunnelProxyServer :=
  packets.foldl (fun s packet => processDataPacket env s packet.1 packet.2) s

/-- Each packet has its answer, in the order of the packets; a refused one has no other effect than
its answer and the kill of its connection. -/
inductive AnsweredInOrder (env : Environment) :
    TunnelProxyServer → List (ObjectId × QByteArray) → List Output → Prop
  | nil {s : TunnelProxyServer} : AnsweredInOrder env s [] []
  | cons {s : TunnelProxyServer} {o : ObjectId} {data : QByteArray}
      {packets : List (ObjectId × QByteArray)} {out : Output} {outs : List Output} :
      AnswersPacket env s o data out →
      (JsonRpcServer.request env data = none → ∃ error reason, processDataPacket env s o data =
        killConnection env (sendErrorResponse env s o (packetId env data) error) o reason) →
      AnsweredInOrder env (processDataPacket env s o data) packets outs →
      AnsweredInOrder env s ((o,data) :: packets) (out :: outs)

/-- Whatever packets arrive, there is exactly one answer to each, in their order, and what else is
sent are notifications. -/
theorem one_answer_each (s : TunnelProxyServer) (packets : List (ObjectId × QByteArray)) :
    ∃ new, (processPackets env s packets).output = s.output ++ new ∧
      AnsweredInOrder env s packets (new.filter Output.isAnswer) ∧
      ∀ x ∈ new, Output.isAnswer x = false → Output.notifies env x := by
  induction packets generalizing s with
  | nil => exact ⟨[],(List.append_nil _).symm,.nil,by simp⟩
  | cons packet packets ih =>
    obtain ⟨o,data⟩ := packet
    obtain ⟨⟨first,hfirst,hnotifies⟩,⟨out,hout,hone⟩,hrefused⟩ := packet_answered env s o data
    obtain ⟨rest,hrest,hanswered,hall⟩ := ih (processDataPacket env s o data)
    rw [answers_append hfirst,List.append_cancel_left_eq] at hone
    refine ⟨first ++ rest,?_,?_,fun x hx => ?_⟩
    · rw [processPackets,List.foldl_cons,← processPackets,hrest,hfirst,List.append_assoc]
    · rw [List.filter_append,hone,List.singleton_append]
      exact .cons hout hrefused hanswered
    · exact (List.mem_append.mp hx).elim (hnotifies x) (hall x)

end Sequences

end RemoteProxy.TunnelProxyServer
