import RemoteProxy.Foundation.Runs
import RemoteProxy.Proxy.Registry

namespace RemoteProxy.AsyncReplies

open TunnelProxyServer (Request)
open TunnelProxyServer.JsonRpcServer (jsonFrame)

abbrev ReplyId := Nat

/-- `handlers` are those that were registered; `order` is the order in which `QHash::key` looks
through its keys. -/
structure Surroundings extends Environment where
  handlers : List (String × JsonHandler)
  keyOrder : List ReplyId → List ReplyId
  keyOrder_perm : ∀ l, (keyOrder l).Perm l

structure JsonReply where
  m_handler : JsonHandler
  m_method : String
  m_data : QVariantMap
  m_commandId : Int
  m_success : Bool
  m_timedOut : Bool

inductive Reply where
  | sync (data : QVariantMap)
  | async (handler : JsonHandler) (method : String)

/-- What a method does: `client` is what it makes of the flags of the connections, `ended` lists
those whose end is reported before it returns. -/
structure Invocation where
  client : ObjectId → TunnelProxyClient → TunnelProxyClient
  ended : List ObjectId
  reply : Option Reply

inductive Output where
  | sent (client : ObjectId) (message : Message) (data : QByteArray)
  | answered (reply : ReplyId) (client : ObjectId) (message : Message) (data : QByteArray)
  | killed (client : ObjectId) (reason : String)
  | assertFailed (place what : String)

structure JsonRpcServer where
  m_clients : List ObjectId
  m_asyncReplies : QHash ReplyId ObjectId
  client : ObjectId → TunnelProxyClient
  reply : ReplyId → Option JsonReply
  created : Nat
  output : List Output

def new : JsonRpcServer where
  m_clients := []
  m_asyncReplies := ∅
  client := fun _ => default
  reply := fun _ => none
  created := 0
  output := []

namespace JsonRpcServer

def emit (s : JsonRpcServer) (x : Output) : JsonRpcServer := { s with output := s.output ++ [x] }

def assertX (s : JsonRpcServer) (condition : Bool) (place what : String) : JsonRpcServer :=
  if condition then s else s.emit (.assertFailed place what)

def setClient (s : JsonRpcServer) (transportClient : ObjectId) (c : TunnelProxyClient) :
    JsonRpcServer :=
  { s with client := Function.update s.client transportClient c }

end JsonRpcServer

variable (env : Surroundings)

def key (h : QHash ReplyId ObjectId) (transportClient : ObjectId) : Option ReplyId :=
  (env.keyOrder h.keys).find? fun reply => h.value reply = some transportClient

def registerClient (s : JsonRpcServer) (transportClient : ObjectId) : JsonRpcServer :=
  if s.m_clients.contains transportClient then s
  else { s with m_clients := s.m_clients ++ [transportClient] }

def unregisterClient (s : JsonRpcServer) (transportClient : ObjectId) : JsonRpcServer :=
  if !s.m_clients.contains transportClient then s
  else
    let s := { s with m_clients := s.m_clients.filter (· != transportClient) }
    if s.m_asyncReplies.values.contains transportClient then
      match key env s.m_asyncReplies transportClient with
      | none => s
      | some reply => { s with m_asyncReplies := s.m_asyncReplies.remove reply }
    else s

/-- `reported` lists the connections whose end is reported before the kill returns. -/
def killConnection (s : JsonRpcServer) (transportClient : ObjectId) (reason : String)
    (reported : List ObjectId) : JsonRpcServer :=
  reported.foldl (unregisterClient env) (s.emit (.killed transportClient reason))

def sendMessage (s : JsonRpcServer) (transportClient : ObjectId) (message : Message) :
    JsonRpcServer :=
  s.emit (.sent transportClient message
    (jsonFrame env.toEnvironment (s.client transportClient).m_slipEnabled message))

def answer (s : JsonRpcServer) (reply : ReplyId) (transportClient : ObjectId) (message : Message) :
    JsonRpcServer :=
  s.emit (.answered reply transportClient message
    (jsonFrame env.toEnvironment (s.client transportClient).m_slipEnabled message))

structure Refusal where
  commandId : Int
  error : String
  reason : String

def decode (data : QByteArray) : Except Refusal Request :=
  match env.fromJson data with
  | .error errorString =>
    .error ⟨-1,env.arg "Failed to parse JSON data: %1" errorString,"Invalid JSON data received."⟩
  | .ok jsonDoc =>
    let message := jsonDoc.toMap
    match env.toInt (message.value "id") with
    | none =>
      .error ⟨-1,"Error parsing command. Missing 'id'",
        "The id property is missing in the request."⟩
    | some commandId =>
      match QString.split '.' (env.toString (message.value "method")) with
      | [targetNamespace,method] =>
        match env.handlers.lookup targetNamespace with
        | none => .error ⟨commandId,"No such namespace","No such namespace."⟩
        | some handler =>
          if !handler.hasMethod method then
            .error ⟨commandId,"No such method","No such method."⟩
          else
            let params := (message.value "params").toMap
            let validationResult := handler.validateParams env.toQt method params
            if !validationResult.1 then
              .error ⟨commandId,"Invalid params: " ++ validationResult.2,"Invalid params passed."⟩
            else .ok ⟨commandId,targetNamespace,method,handler,params⟩
      | _ =>
        .error ⟨commandId,env.arg "Error parsing method. Got: '%1'', Expected: 'Namespace.method'"
          (env.toString (message.value "method")),"Invalid method passed."⟩

def invoked (s : JsonRpcServer) (call : Invocation) : JsonRpcServer :=
  call.ended.foldl (unregisterClient env)
    { s with client := fun x => call.client x (s.client x) }

def finishCall (s : JsonRpcServer) (transportClient : ObjectId) (commandId : Int)
    (data : QVariantMap) (reported : List ObjectId) : JsonRpcServer :=
  let s := sendMessage env s transportClient (.response commandId data)
  if (s.client transportClient).m_killConnectionRequested then
    killConnection env s transportClient (s.client transportClient).m_killConnectionReason reported
  else if (s.client transportClient).m_slipAfterResponseEnabled then
    s.setClient transportClient ((s.client transportClient).setSlipEnabled true)
  else s

def await (s : JsonRpcServer) (transportClient : ObjectId) (commandId : Int) (handler : JsonHandler)
    (method : String) : JsonRpcServer :=
  { s with
    m_asyncReplies := s.m_asyncReplies.insert s.created transportClient
    reply := Function.update s.reply s.created (some ⟨handler,method,[],commandId,true,false⟩)
    created := s.created + 1 }

def processDataPacket (s : JsonRpcServer) (transportClient : ObjectId) (data : QByteArray)
    (call : Invocation) (reported : List ObjectId) : JsonRpcServer :=
  match decode env data with
  | .error refusal =>
    let s := sendMessage env s transportClient (.errorResponse refusal.commandId refusal.error)
    killConnection env s transportClient refusal.reason reported
  | .ok r =>
    let s := invoked env s call
    match call.reply with
    | none => s
    | some (.async handler method) => await s transportClient r.commandId handler method
    | some (.sync data) =>
      let s := s.assertX
        ((r.targetNamespace = "RemoteProxy" && r.method = "Introspect") ||
          (r.handler.validateReturns env.toQt r.method data).1)
        "validating return value"
        (TunnelProxyServer.JsonRpcServer.formatAssertion env.toEnvironment r.targetNamespace
          r.method r.handler data)
      finishCall env s transportClient r.commandId data reported

/-- A reply is taken out of the table, and its client gets the response or the error. -/
def told (s : JsonRpcServer) (reply : ReplyId) (r : JsonReply) (transportClient : ObjectId) :
    JsonRpcServer :=
  let s := { s with m_asyncReplies := s.m_asyncReplies.remove reply }
  if !r.m_timedOut then
    let s := s.assertX (r.m_handler.validateReturns env.toQt r.m_method r.m_data).1
      "validating return value"
      (TunnelProxyServer.JsonRpcServer.formatAssertion env.toEnvironment r.m_handler.name
        r.m_method r.m_handler r.m_data)
    let s := if !r.m_success then
        s.setClient transportClient ((s.client transportClient).killConnectionAfterResponse
          "API call was not successfully.")
      else s
    answer env s reply transportClient (.response r.m_commandId r.m_data)
  else
    let s := s.setClient transportClient
      ((s.client transportClient).killConnectionAfterResponse "API call timeouted.")
    answer env s reply transportClient (.errorResponse r.m_commandId "Command timed out")

def asyncReplyFinished (s : JsonRpcServer) (reply : ReplyId) (r : JsonReply)
    (reported : List ObjectId) : JsonRpcServer :=
  match s.m_asyncReplies.value reply with
  | none => s
  | some transportClient =>
    let s := told env s reply r transportClient
    if (s.client transportClient).m_killConnectionRequested then
      killConnection env s transportClient (s.client transportClient).m_killConnectionReason
        reported
    else s

def finished (s : JsonRpcServer) (reply : ReplyId) (change : JsonReply → JsonReply)
    (reported : List ObjectId) : JsonRpcServer :=
  match s.reply reply with
  | none => s
  | some r =>
    let s := { s with reply := Function.update s.reply reply (some (change r)) }
    asyncReplyFinished env s reply (change r) reported

inductive Event where
  | clientConnected (transportClient : ObjectId)
  | clientDisconnected (transportClient : ObjectId)
  | dataPacket (transportClient : ObjectId) (data : QByteArray) (call : Invocation)
    (reported : List ObjectId)
  | replyFinished (reply : ReplyId) (data : QVariantMap) (success : Bool)
    (reported : List ObjectId)
  | replyTimeout (reply : ReplyId) (reported : List ObjectId)

def step (s : JsonRpcServer) : Event → JsonRpcServer
  | .clientConnected transportClient =>
    registerClient (s.setClient transportClient default) transportClient
  | .clientDisconnected transportClient => unregisterClient env s transportClient
  | .dataPacket transportClient data call reported =>
    processDataPacket env s transportClient data call reported
  | .replyFinished reply data success reported =>
    finished env s reply (fun r => { r with m_data := data, m_success := success }) reported
  | .replyTimeout reply reported =>
    finished env s reply (fun r => { r with m_timedOut := true }) reported

abbrev run : JsonRpcServer → List Event → JsonRpcServer := Runs.run (step env)

section Pending

def RepliesConnected (s : JsonRpcServer) : Prop :=
  ∀ reply c, s.m_asyncReplies.value reply = some c → c ∈ s.m_clients

def Alone (s : JsonRpcServer) (ended : List ObjectId) : Prop :=
  ∀ c ∈ ended, c ∈ s.m_clients → s.m_asyncReplies.values.count c ≤ 1

/-- Replies are only taken out of the table, clients only leave, and nothing is said. -/
structure Shrinks (s s' : JsonRpcServer) : Prop where
  replies : ∀ reply c, s'.m_asyncReplies.value reply = some c → s.m_asyncReplies.value reply = some c
  clients : ∀ c, c ∈ s'.m_clients → c ∈ s.m_clients
  client : s'.client = s.client
  reply : s'.reply = s.reply
  created : s'.created = s.created
  output : s'.output = s.output

variable {env : Surroundings} {s s' t : JsonRpcServer} {c : ObjectId} {reply : ReplyId}

theorem Shrinks.refl (s : JsonRpcServer) : Shrinks s s :=
  ⟨fun _ _ => id,fun _ => id,rfl,rfl,rfl,rfl⟩

theorem Shrinks.trans (h : Shrinks s s') (h' : Shrinks s' t) : Shrinks s t :=
  ⟨fun r c hr => h.replies r c (h'.replies r c hr),fun c hc => h.clients c (h'.clients c hc),
    h'.client.trans h.client,h'.reply.trans h.reply,h'.created.trans h.created,
    h'.output.trans h.output⟩

def AtMostOne (s : JsonRpcServer) (c : ObjectId) : Prop :=
  ∀ r r', s.m_asyncReplies.value r = some c → s.m_asyncReplies.value r' = some c → r = r'

theorem Shrinks.atMostOne (h : Shrinks s s') (hc : AtMostOne s c) : AtMostOne s' c :=
  fun r r' hr hr' => hc r r' (h.replies r c hr) (h.replies r' c hr')

theorem atMostOne_of_count (hcount : s.m_asyncReplies.values.count c ≤ 1) : AtMostOne s c := by
  intro r r' hr hr'
  by_contra hne
  have hmem : ∀ x ∈ [(⟨r,c⟩ : Sigma fun _ : ReplyId => ObjectId),⟨r',c⟩],
      x ∈ s.m_asyncReplies.entries := by
    simp only [List.mem_cons,List.not_mem_nil,or_false,forall_eq_or_imp,forall_eq]
    exact ⟨AList.mem_lookup_iff.mp hr,AList.mem_lookup_iff.mp hr'⟩
  have hnodup : [(⟨r,c⟩ : Sigma fun _ : ReplyId => ObjectId),⟨r',c⟩].Nodup := by
    simp [hne]
  have hle := (List.subperm_of_subset hnodup hmem).countP_le fun x => x.snd == c
  rw [QHash.values,List.count,List.countP_map] at hcount
  simp only [List.countP_cons,List.countP_nil,beq_self_eq_true,if_true] at hle
  exact absurd (hle.trans hcount) (by decide)

theorem key_of_value (env : Surroundings) {h : QHash ReplyId ObjectId} (hr : h.value reply = some c) :
    ∃ found, key env h c = some found ∧ h.value found = some c := by
  have hmem : reply ∈ env.keyOrder h.keys :=
    (env.keyOrder_perm h.keys).mem_iff.mpr ((QHash.mem_keys h reply).mpr ⟨c,hr⟩)
  have hsome : (key env h c).isSome = true := by
    rw [key,List.find?_isSome]
    exact ⟨reply,hmem,by simpa using hr⟩
  obtain ⟨found,hfound⟩ := Option.isSome_iff_exists.mp hsome
  refine ⟨found,hfound,?_⟩
  have := List.find?_some hfound
  simpa using this

theorem unregisterClient_shrinks (env : Surroundings) (s : JsonRpcServer) (c : ObjectId) :
    Shrinks s (unregisterClient env s c) := by
  simp only [unregisterClient]
  split
  · exact Shrinks.refl s
  · have hleft : Shrinks s { s with m_clients := s.m_clients.filter (· != c) } :=
      ⟨fun _ _ => id,fun x hx => (List.mem_filter.mp hx).1,rfl,rfl,rfl,rfl⟩
    split
    · split
      · exact hleft
      · next found hfound =>
        refine hleft.trans ⟨fun r x hr => ?_,fun _ => id,rfl,rfl,rfl,rfl⟩
        rw [QHash.value_remove] at hr
        split at hr
        · cases hr
        · exact hr
    · exact hleft

theorem unregister_shrinks (env : Surroundings) (s : JsonRpcServer) (ended : List ObjectId) :
    Shrinks s (ended.foldl (unregisterClient env) s) := by
  induction ended generalizing s with
  | nil => exact Shrinks.refl s
  | cons c ended ih => exact (unregisterClient_shrinks env s c).trans (ih _)

theorem unregisterClient_connected (h : RepliesConnected s)
    (halone : c ∈ s.m_clients → AtMostOne s c) :
    RepliesConnected (unregisterClient env s c) := by
  simp only [unregisterClient]
  split
  · exact h
  · next hc =>
    have hc : c ∈ s.m_clients := by simpa using hc
    have hothers : ∀ r x, s.m_asyncReplies.value r = some x → x ≠ c →
        x ∈ s.m_clients.filter (· != c) := by
      intro r x hr hne
      exact List.mem_filter.mpr ⟨h r x hr,by simpa using hne⟩
    split
    · next hwaits =>
      obtain ⟨r,hr⟩ := (QHash.mem_values s.m_asyncReplies c).mp (by simpa using hwaits)
      obtain ⟨found,hkey,hfound⟩ := key_of_value env hr
      rw [hkey]
      intro r' x hr'
      rw [QHash.value_remove] at hr'
      split at hr'
      · cases hr'
      · next hne =>
        apply hothers r' x hr'
        rintro rfl
        exact hne (halone hc r' found hr' hfound)
    · next hwaits =>
      intro r x hr
      apply hothers r x hr
      rintro rfl
      exact hwaits (by simpa using (QHash.mem_values s.m_asyncReplies x).mpr ⟨r,hr⟩)

theorem Alone.single {ended : List ObjectId} (h : Alone s ended) :
    ∀ c ∈ ended, c ∈ s.m_clients → AtMostOne s c :=
  fun c hc hlisted => atMostOne_of_count (h c hc hlisted)

theorem unregister_connected (h : RepliesConnected s) {ended : List ObjectId}
    (halone : ∀ c ∈ ended, c ∈ s.m_clients → AtMostOne s c) :
    RepliesConnected (ended.foldl (unregisterClient env) s) := by
  induction ended generalizing s with
  | nil => exact h
  | cons c ended ih =>
    have hs := unregisterClient_shrinks env s c
    refine ih (unregisterClient_connected h (halone c List.mem_cons_self)) fun x hx hlisted => ?_
    exact hs.atMostOne (halone x (List.mem_cons_of_mem c hx) (hs.clients x hlisted))

end Pending

section Finished

def Output.reply? : Output → Option ReplyId
  | .answered reply _ _ _ => some reply
  | _ => none

def Output.client? : Output → Option ObjectId
  | .sent c _ _ => some c
  | .answered _ c _ _ => some c
  | .killed c _ => some c
  | .assertFailed _ _ => none

def answers (s : JsonRpcServer) : List ReplyId := s.output.filterMap Output.reply?

structure Answers (reply : ReplyId) (c : ObjectId) (s t : JsonRpcServer) : Prop where
  replies : t.m_asyncReplies = s.m_asyncReplies.remove reply
  clients : t.m_clients = s.m_clients
  created : t.created = s.created
  output : ∃ new, t.output = s.output ++ new ∧ new.filterMap Output.reply? = [reply] ∧
    ∀ x ∈ new, ∀ y, Output.client? x = some y → y = c

variable {env : Surroundings} {s s' t : JsonRpcServer} {c : ObjectId} {reply : ReplyId}

theorem assertX_output (s : JsonRpcServer) (condition : Bool) (place what : String) :
    ∃ new, s.assertX condition place what = { s with output := s.output ++ new } ∧
      new.filterMap Output.reply? = [] ∧ ∀ x ∈ new, Output.client? x = none := by
  rw [JsonRpcServer.assertX]
  split
  · exact ⟨[],by rw [List.append_nil],rfl,by simp⟩
  · exact ⟨[.assertFailed place what],rfl,rfl,by simp [Output.client?]⟩

theorem told_answers (env : Surroundings) (s : JsonRpcServer) (reply : ReplyId) (r : JsonReply)
    (c : ObjectId) : Answers reply c s (told env s reply r c) := by
  simp only [told]
  split
  · obtain ⟨new,he,hreplies,hclients⟩ :=
      assertX_output { s with m_asyncReplies := s.m_asyncReplies.remove reply }
        (r.m_handler.validateReturns env.toQt r.m_method r.m_data).1 "validating return value"
        (TunnelProxyServer.JsonRpcServer.formatAssertion env.toEnvironment r.m_handler.name
          r.m_method r.m_handler r.m_data)
    rw [he]
    have hnew : ∀ out, Output.reply? out = some reply → Output.client? out = some c →
        (new ++ [out]).filterMap Output.reply? = [reply] ∧
          ∀ x ∈ new ++ [out], ∀ y, Output.client? x = some y → y = c := by
      intro out hreply hclient
      refine ⟨by simp [List.filterMap_append,hreplies,hreply],fun x hx y hy => ?_⟩
      rcases List.mem_append.mp hx with hx | hx
      · rw [hclients x hx] at hy
        cases hy
      · rw [List.mem_singleton.mp hx,hclient] at hy
        exact (Option.some.inj hy).symm
    split
    · exact ⟨rfl,rfl,rfl,_,List.append_assoc _ _ _,hnew _ rfl rfl⟩
    · exact ⟨rfl,rfl,rfl,_,List.append_assoc _ _ _,hnew _ rfl rfl⟩
  · refine ⟨rfl,rfl,rfl,_,rfl,rfl,fun x hx y hy => ?_⟩
    rw [List.mem_singleton.mp hx] at hy
    exact (Option.some.inj hy).symm

theorem told_kills {r : JsonReply}
    (h : ((told env s reply r c).client c).m_killConnectionRequested = true) :
    (s.client c).m_killConnectionRequested = true ∨ r.m_timedOut = true ∨ r.m_success = false := by
  simp only [told] at h
  split at h
  · split at h
    · next hfailed => exact .inr (.inr (by simpa using hfailed))
    · refine .inl ?_
      obtain ⟨new,he,-,-⟩ :=
        assertX_output { s with m_asyncReplies := s.m_asyncReplies.remove reply }
          (r.m_handler.validateReturns env.toQt r.m_method r.m_data).1 "validating return value"
          (TunnelProxyServer.JsonRpcServer.formatAssertion env.toEnvironment r.m_handler.name
            r.m_method r.m_handler r.m_data)
      rw [he] at h
      exact h
  · next htimed => exact .inr (.inl (by simpa using htimed))

/-- Replies are only taken out of the table, and none is answered. -/
structure Silent (s s' : JsonRpcServer) : Prop where
  replies : ∀ reply c, s'.m_asyncReplies.value reply = some c →
    s.m_asyncReplies.value reply = some c
  created : s'.created = s.created
  answers : answers s' = answers s

theorem Silent.trans (h : Silent s s') (h' : Silent s' t) : Silent s t :=
  ⟨fun r c hr => h.replies r c (h'.replies r c hr),h'.created.trans h.created,
    h'.answers.trans h.answers⟩

theorem Silent.of_same (hreplies : s'.m_asyncReplies = s.m_asyncReplies)
    (hcreated : s'.created = s.created) (hout : s'.output = s.output) : Silent s s' :=
  ⟨fun r c hr => by rwa [hreplies] at hr,hcreated,by rw [AsyncReplies.answers,hout]; rfl⟩

theorem Silent.emit (s : JsonRpcServer) {x : Output} (hx : Output.reply? x = none) :
    Silent s (s.emit x) := by
  refine ⟨fun _ _ => id,rfl,?_⟩
  rw [AsyncReplies.answers,JsonRpcServer.emit,List.filterMap_append]
  simp [hx,AsyncReplies.answers]

theorem Shrinks.silent (h : Shrinks s s') : Silent s s' :=
  ⟨h.replies,h.created,by rw [AsyncReplies.answers,h.output]; rfl⟩

theorem killConnection_silent (env : Surroundings) (s : JsonRpcServer) (c : ObjectId)
    (reason : String) (reported : List ObjectId) :
    Silent s (killConnection env s c reason reported) :=
  (Silent.emit s rfl).trans (unregister_shrinks env _ reported).silent

theorem assertX_silent (s : JsonRpcServer) (condition : Bool) (place what : String) :
    Silent s (s.assertX condition place what) := by
  rw [JsonRpcServer.assertX]
  split
  · exact Silent.of_same rfl rfl rfl
  · exact Silent.emit s rfl

theorem finishCall_silent (env : Surroundings) (s : JsonRpcServer) (c : ObjectId)
    (commandId : Int) (data : QVariantMap) (reported : List ObjectId) :
    Silent s (finishCall env s c commandId data reported) := by
  have hsent : Silent s (sendMessage env s c (.response commandId data)) := Silent.emit s rfl
  simp only [finishCall]
  split
  · exact hsent.trans (killConnection_silent env _ _ _ _)
  · split
    · exact hsent.trans (Silent.of_same rfl rfl rfl)
    · exact hsent

theorem invoked_shrinks (env : Surroundings) (s : JsonRpcServer) (call : Invocation) :
    Silent s (invoked env s call) := by
  have hflags : Silent s { s with client := fun x => call.client x (s.client x) } :=
    Silent.of_same rfl rfl rfl
  exact hflags.trans (unregister_shrinks env _ call.ended).silent

/-- A reply that was answered is no longer waited for, and no new one takes its place. -/
structure AnsweredOnce (s : JsonRpcServer) : Prop where
  nodup : (answers s).Nodup
  taken : ∀ r ∈ answers s, s.m_asyncReplies.value r = none
  awaited : ∀ r c, s.m_asyncReplies.value r = some c → r < s.created
  answered : ∀ r ∈ answers s, r < s.created

theorem AnsweredOnce.silent (h : AnsweredOnce s) (hs : Silent s s') : AnsweredOnce s' := by
  refine ⟨?_,?_,?_,?_⟩
  · rw [hs.answers]
    exact h.nodup
  · intro r hr
    rw [hs.answers] at hr
    have hnone := h.taken r hr
    cases hv : s'.m_asyncReplies.value r with
    | none => rfl
    | some c =>
      rw [hs.replies r c hv] at hnone
      cases hnone
  · intro r c hr
    rw [hs.created]
    exact h.awaited r c (hs.replies r c hr)
  · intro r hr
    rw [hs.answers] at hr
    rw [hs.created]
    exact h.answered r hr

theorem AnsweredOnce.await (h : AnsweredOnce s) (c : ObjectId) (commandId : Int)
    (handler : JsonHandler) (method : String) :
    AnsweredOnce (await s c commandId handler method) := by
  have hv : ∀ r, (AsyncReplies.await s c commandId handler method).m_asyncReplies.value r =
      if r = s.created then some c else s.m_asyncReplies.value r :=
    fun r => QHash.value_insert _ _ _ _
  refine ⟨h.nodup,fun r hr => ?_,fun r x hr => ?_,fun r hr => ?_⟩
  · have hlt := h.answered r hr
    rw [hv,if_neg (Nat.ne_of_lt hlt)]
    exact h.taken r hr
  · rw [hv] at hr
    split at hr
    · next he => exact he ▸ Nat.lt_succ_self _
    · exact Nat.lt_succ_of_lt (h.awaited r x hr)
  · exact Nat.lt_succ_of_lt (h.answered r hr)

theorem AnsweredOnce.answers (h : AnsweredOnce s) (hv : s.m_asyncReplies.value reply = some c)
    (ha : Answers reply c s t) : AnsweredOnce t := by
  obtain ⟨new,hnew,hreplies,-⟩ := ha.output
  have ht : AsyncReplies.answers t = AsyncReplies.answers s ++ [reply] := by
    rw [AsyncReplies.answers,hnew,List.filterMap_append,hreplies]
    rfl
  have hvalue : ∀ r, t.m_asyncReplies.value r =
      if r = reply then none else s.m_asyncReplies.value r := by
    intro r
    rw [ha.replies]
    exact QHash.value_remove _ _ _
  have hnot : reply ∉ AsyncReplies.answers s := by
    intro hmem
    rw [h.taken reply hmem] at hv
    cases hv
  refine ⟨?_,?_,?_,?_⟩
  · rw [ht,← List.concat_eq_append]
    exact List.Nodup.concat hnot h.nodup
  · intro r hr
    rw [hvalue]
    split
    · rfl
    · next hne =>
      rw [ht] at hr
      exact h.taken r ((List.mem_append.mp hr).resolve_right fun hm => hne (List.mem_singleton.mp hm))
  · intro r x hr
    rw [hvalue] at hr
    rw [ha.created]
    split at hr
    · cases hr
    · exact h.awaited r x hr
  · intro r hr
    rw [ha.created]
    rw [ht] at hr
    rcases List.mem_append.mp hr with hr | hr
    · exact h.answered r hr
    · rw [List.mem_singleton.mp hr]
      exact h.awaited reply c hv

theorem finished_once (h : AnsweredOnce s) (change : JsonReply → JsonReply)
    (reported : List ObjectId) : AnsweredOnce (finished env s reply change reported) := by
  simp only [finished]
  split
  · exact h
  · next r hr =>
    have hchanged : AnsweredOnce { s with reply := Function.update s.reply reply (some (change r)) } :=
      h.silent (Silent.of_same rfl rfl rfl)
    simp only [asyncReplyFinished]
    split
    · exact hchanged
    · next c hv =>
      have htold := hchanged.answers hv (told_answers env _ reply (change r) c)
      split
      · exact htold.silent (killConnection_silent env _ _ _ _)
      · exact htold

theorem step_once (env : Surroundings) (h : AnsweredOnce s) (event : Event) :
    AnsweredOnce (step env s event) := by
  cases event with
  | clientConnected c =>
    apply h.silent
    simp only [step,registerClient]
    split
    · exact Silent.of_same rfl rfl rfl
    · exact Silent.of_same rfl rfl rfl
  | clientDisconnected c => exact h.silent (unregisterClient_shrinks env s c).silent
  | dataPacket c data call reported =>
    simp only [step,processDataPacket]
    split
    · exact h.silent ((Silent.emit s rfl).trans (killConnection_silent env _ _ _ _))
    · have hinvoked := h.silent (invoked_shrinks env s call)
      split
      · exact hinvoked
      · exact hinvoked.await c _ _ _
      · exact hinvoked.silent ((assertX_silent _ _ _ _).trans (finishCall_silent env _ _ _ _ _))
  | replyFinished reply data success reported => exact finished_once h _ reported
  | replyTimeout reply reported => exact finished_once h _ reported

end Finished

section Connected

/-- Whenever a client leaves at most one reply of it is waited for, and only a client that is there
is waited for. -/
def Tidy (env : Surroundings) (s : JsonRpcServer) : Event → Prop
  | .clientConnected _ => True
  | .clientDisconnected c => Alone s [c]
  | .dataPacket c data call reported =>
    match decode env data with
    | .error _ => Alone s reported
    | .ok _ => Alone s call.ended ∧
      match call.reply with
      | none => True
      | some (.async _ _) => c ∈ s.m_clients ∧ c ∉ call.ended
      | some (.sync _) =>
        (call.client c (s.client c)).m_killConnectionRequested = true → Alone s reported
  | .replyFinished reply _ success reported =>
    ∀ c r, s.m_asyncReplies.value reply = some c → s.reply reply = some r →
      (s.client c).m_killConnectionRequested = true ∨ r.m_timedOut = true ∨ success = false →
        Alone { s with m_asyncReplies := s.m_asyncReplies.remove reply } reported
  | .replyTimeout reply reported =>
    ∀ c, s.m_asyncReplies.value reply = some c →
      Alone { s with m_asyncReplies := s.m_asyncReplies.remove reply } reported

/-- The end of a reply is told only to a client that is there, and only such a one is killed. -/
def Reaches (env : Surroundings) (s : JsonRpcServer) : Event → Prop
  | .replyFinished reply data success reported =>
    ∃ new, (step env s (.replyFinished reply data success reported)).output = s.output ++ new ∧
      ∀ x ∈ new, ∀ c, Output.client? x = some c → c ∈ s.m_clients
  | .replyTimeout reply reported =>
    ∃ new, (step env s (.replyTimeout reply reported)).output = s.output ++ new ∧
      ∀ x ∈ new, ∀ c, Output.client? x = some c → c ∈ s.m_clients
  | _ => True

variable {env : Surroundings} {s s' t : JsonRpcServer} {c : ObjectId} {reply : ReplyId}

theorem RepliesConnected.congr (h : RepliesConnected s)
    (hreplies : ∀ r x, s'.m_asyncReplies.value r = some x → s.m_asyncReplies.value r = some x)
    (hclients : ∀ x, x ∈ s.m_clients → x ∈ s'.m_clients) : RepliesConnected s' :=
  fun r x hr => hclients x (h r x (hreplies r x hr))

theorem killConnection_connected (h : RepliesConnected s) {reported : List ObjectId}
    (halone : ∀ x ∈ reported, x ∈ s.m_clients → AtMostOne s x) (c : ObjectId) (reason : String) :
    RepliesConnected (killConnection env s c reason reported) :=
  unregister_connected (s := s.emit (.killed c reason)) h halone

theorem finishCall_connected (h : RepliesConnected s) {reported : List ObjectId}
    (halone : (s.client c).m_killConnectionRequested = true →
      ∀ x ∈ reported, x ∈ s.m_clients → AtMostOne s x) (commandId : Int) (data : QVariantMap) :
    RepliesConnected (finishCall env s c commandId data reported) := by
  simp only [finishCall]
  split
  · next hrequested =>
    exact killConnection_connected (s := sendMessage env s c (.response commandId data)) h
      (halone hrequested) c _
  · split
    · exact h
    · exact h

theorem asyncReplyFinished_connected (h : RepliesConnected s) {r : JsonReply}
    {reported : List ObjectId}
    (halone : ∀ c, s.m_asyncReplies.value reply = some c →
      (s.client c).m_killConnectionRequested = true ∨ r.m_timedOut = true ∨ r.m_success = false →
        Alone { s with m_asyncReplies := s.m_asyncReplies.remove reply } reported) :
    RepliesConnected (asyncReplyFinished env s reply r reported) := by
  simp only [asyncReplyFinished]
  split
  · exact h
  · next c hv =>
    have ha := told_answers env s reply r c
    have hremoved : ∀ x y, (told env s reply r c).m_asyncReplies.value x = some y →
        s.m_asyncReplies.value x = some y := by
      intro x y hx
      rw [ha.replies,QHash.value_remove] at hx
      split at hx
      · cases hx
      · exact hx
    have htold : RepliesConnected (told env s reply r c) :=
      h.congr hremoved fun x hx => by rwa [ha.clients]
    split
    · next hrequested =>
      refine killConnection_connected htold (fun x hx hlisted => ?_) c _
      rw [ha.clients] at hlisted
      have hone := (halone c hv (told_kills hrequested)).single x hx hlisted
      intro i j hi hj
      rw [ha.replies] at hi hj
      exact hone i j hi hj
    · exact htold

theorem invoked_connected (h : RepliesConnected s) {call : Invocation}
    (halone : Alone s call.ended) : RepliesConnected (invoked env s call) :=
  unregister_connected (s := { s with client := fun x => call.client x (s.client x) }) h
    halone.single

theorem invoked_client (env : Surroundings) (s : JsonRpcServer) (call : Invocation) :
    (invoked env s call).client = fun x => call.client x (s.client x) :=
  (unregister_shrinks env _ call.ended).client

theorem invoked_single {call : Invocation} {reported : List ObjectId} (h : Alone s reported) :
    ∀ x ∈ reported, x ∈ (invoked env s call).m_clients → AtMostOne (invoked env s call) x := by
  have hs := unregister_shrinks env { s with client := fun x => call.client x (s.client x) }
    call.ended
  intro x hx hlisted
  exact hs.atMostOne (h.single x hx (hs.clients x hlisted))

theorem unregister_stays {ended : List ObjectId} (h : c ∈ s.m_clients) (hc : c ∉ ended) :
    c ∈ (ended.foldl (unregisterClient env) s).m_clients := by
  induction ended generalizing s with
  | nil => exact h
  | cons x ended ih =>
    rw [List.mem_cons,not_or] at hc
    refine ih ?_ hc.2
    have hleft : c ∈ s.m_clients.filter (· != x) := List.mem_filter.mpr ⟨h,by simpa using hc.1⟩
    simp only [unregisterClient]
    split
    · exact h
    · split
      · split
        · exact hleft
        · exact hleft
      · exact hleft

theorem await_connected (h : RepliesConnected s) (hc : c ∈ s.m_clients) (commandId : Int)
    (handler : JsonHandler) (method : String) :
    RepliesConnected (await s c commandId handler method) := by
  intro r x hr
  have hv : (await s c commandId handler method).m_asyncReplies.value r =
      if r = s.created then some c else s.m_asyncReplies.value r := QHash.value_insert _ _ _ _
  rw [hv] at hr
  split at hr
  · rw [← Option.some.inj hr]
    exact hc
  · exact h r x hr

theorem respond_connected (h : RepliesConnected s) {reported : List ObjectId}
    (halone : (s.client c).m_killConnectionRequested = true →
      ∀ x ∈ reported, x ∈ s.m_clients → AtMostOne s x) (condition : Bool) (place what : String)
    (commandId : Int) (data : QVariantMap) :
    RepliesConnected (finishCall env (s.assertX condition place what) c commandId data reported) := by
  obtain ⟨new,he,-,-⟩ := assertX_output s condition place what
  rw [he]
  exact finishCall_connected (s := { s with output := s.output ++ new }) h halone commandId data

theorem finished_connected (h : RepliesConnected s) {change : JsonReply → JsonReply}
    {reported : List ObjectId}
    (halone : ∀ c r, s.m_asyncReplies.value reply = some c → s.reply reply = some r →
      (s.client c).m_killConnectionRequested = true ∨ (change r).m_timedOut = true ∨
        (change r).m_success = false →
        Alone { s with m_asyncReplies := s.m_asyncReplies.remove reply } reported) :
    RepliesConnected (finished env s reply change reported) := by
  simp only [finished]
  split
  · exact h
  · next r hr =>
    exact asyncReplyFinished_connected
      (s := { s with reply := Function.update s.reply reply (some (change r)) }) h
      fun c hv hkills => halone c r hv hr hkills

theorem step_connected (h : RepliesConnected s) {event : Event} (htidy : Tidy env s event) :
    RepliesConnected (step env s event) := by
  cases event with
  | clientConnected c =>
    simp only [step,registerClient]
    split
    · exact h
    · exact h.congr (fun _ _ => id) fun x hx => List.mem_append_left _ hx
  | clientDisconnected c =>
    exact unregisterClient_connected h (htidy.single c (List.mem_singleton_self c))
  | dataPacket c data call reported =>
    simp only [Tidy] at htidy
    simp only [step,processDataPacket]
    cases hd : decode env data with
    | error refusal =>
      rw [hd] at htidy
      exact killConnection_connected
        (s := sendMessage env s c (.errorResponse refusal.commandId refusal.error)) h
        (Alone.single htidy) c _
    | ok r =>
      rw [hd] at htidy
      obtain ⟨hended,hreply⟩ := htidy
      have hinvoked : RepliesConnected (invoked env s call) := invoked_connected h hended
      cases hcall : call.reply with
      | none => exact hinvoked
      | some reply =>
        rw [hcall] at hreply
        cases reply with
        | async handler method =>
          exact await_connected hinvoked (unregister_stays hreply.1 hreply.2) _ _ _
        | sync data =>
          refine respond_connected hinvoked (fun hrequested => invoked_single (hreply ?_)) _ _ _ _ _
          rw [invoked_client] at hrequested
          exact hrequested
  | replyFinished reply data success reported =>
    exact finished_connected h fun c r hv hr hkills => htidy c r hv hr hkills
  | replyTimeout reply reported =>
    exact finished_connected h fun c r hv hr hkills => htidy c hv

theorem killConnection_output (env : Surroundings) (s : JsonRpcServer) (c : ObjectId)
    (reason : String) (reported : List ObjectId) :
    (killConnection env s c reason reported).output = s.output ++ [.killed c reason] :=
  (unregister_shrinks env (s.emit (.killed c reason)) reported).output

theorem finished_reaches (h : RepliesConnected s) (change : JsonReply → JsonReply)
    (reported : List ObjectId) :
    ∃ new, (finished env s reply change reported).output = s.output ++ new ∧
      ∀ x ∈ new, ∀ c, Output.client? x = some c → c ∈ s.m_clients := by
  have hnothing : ∃ new, s.output = s.output ++ new ∧
      ∀ x ∈ new, ∀ c, Output.client? x = some c → c ∈ s.m_clients :=
    ⟨[],(List.append_nil _).symm,by simp⟩
  simp only [finished]
  split
  · exact hnothing
  · next r hr =>
    simp only [asyncReplyFinished]
    split
    · exact hnothing
    · next c hv =>
      obtain ⟨new,hnew,-,hclient⟩ := (told_answers env
        { s with reply := Function.update s.reply reply (some (change r)) } reply (change r) c).output
      have hc : c ∈ s.m_clients := h reply c hv
      have hnew' : ∀ x ∈ new, ∀ y, Output.client? x = some y → y ∈ s.m_clients :=
        fun x hx y hy => hclient x hx y hy ▸ hc
      split
      · rw [killConnection_output,hnew,List.append_assoc]
        refine ⟨_,rfl,fun x hx y hy => ?_⟩
        rcases List.mem_append.mp hx with hx | hx
        · exact hnew' x hx y hy
        · rw [List.mem_singleton.mp hx] at hy
          exact Option.some.inj hy ▸ hc
      · exact ⟨new,hnew,hnew'⟩

theorem step_reaches (env : Surroundings) (h : RepliesConnected s) (event : Event) :
    Reaches env s event := by
  cases event with
  | clientConnected c => exact trivial
  | clientDisconnected c => exact trivial
  | dataPacket c data call reported => exact trivial
  | replyFinished reply data success reported => exact finished_reaches h _ reported
  | replyTimeout reply reported => exact finished_reaches h _ reported

theorem new_value (r : ReplyId) : new.m_asyncReplies.value r = none := QHash.value_empty r

theorem new_connected : RepliesConnected new := by
  intro r c hr
  rw [new_value] at hr
  cases hr

theorem new_once : AnsweredOnce new := by
  refine ⟨List.nodup_nil,fun r _ => new_value r,fun r c hr => ?_,fun r hr => ?_⟩
  · rw [new_value] at hr
    cases hr
  · cases hr

/-- As long as nobody leaves more than one reply behind, every reply that is waited for is one of a
client that is there, whoever is told about a reply is there, and no reply is answered twice. -/
theorem async_replies_served {events : List Event}
    (htidy : Runs.Along (step env) (Tidy env) new events) :
    Runs.Always (step env) RepliesConnected new events ∧
      Runs.Along (step env) (Reaches env) new events ∧ (answers (run env new events)).Nodup := by
  have hconnected : Runs.Always (step env) RepliesConnected new events :=
    Runs.always_of_along new_connected (fun s event h => step_connected h) htidy
  have honce : Runs.Always (step env) AnsweredOnce new events :=
    Runs.always_of_step new_once (fun s event h => step_once env h event) events
  exact ⟨hconnected,Runs.along_of_always (fun s event h => step_reaches env h event) hconnected,
    honce.last.nodup⟩

end Connected

section Sample

def waiter : JsonHandler where
  name := "Waiter"
  methods := [("Wait",.Method)]
  m_descriptions := [("Wait","Returns some time later.")]
  m_params := [("Wait",[])]
  m_returns := [("Wait",[])]

def waitRequest : QVariantMap :=
  [("id",.ofNat 0),("method",.string "Waiter.Wait"),("params",.map [])]

def waiting : Surroundings where
  toEnvironment := { TunnelProxyServer.sampleEnvironment false with
    toQt := Qt.onDocuments [waitRequest] }
  handlers := [("Waiter",waiter)]
  keyOrder := id
  keyOrder_perm := fun _ => .refl _

/-- A request whose method returns an asynchronous reply and does nothing else. -/
def wait (c : ObjectId) : Event :=
  .dataPacket c (waiting.toJson waitRequest) ⟨fun _ => id,[],some (.async waiter "Wait")⟩ []

def waits : List Event :=
  [.clientConnected ⟨1⟩,wait ⟨1⟩,.replyFinished 0 [] true [],wait ⟨1⟩,.clientDisconnected ⟨1⟩,
    .replyTimeout 1 []]

theorem wait_tidy {s : JsonRpcServer} {c : ObjectId} (hc : c ∈ s.m_clients) :
    Tidy waiting s (wait c) := by
  have hok : (decode waiting (waiting.toJson waitRequest)).toOption.isSome = true := by
    decide +kernel
  simp only [Tidy,wait]
  cases hd : decode waiting (waiting.toJson waitRequest) with
  | error refusal =>
    rw [hd] at hok
    cases hok
  | ok r => exact ⟨fun _ hx => absurd hx List.not_mem_nil,hc,List.not_mem_nil⟩

theorem async_replies_served_sample :
    Runs.Always (step waiting) RepliesConnected new waits ∧
      Runs.Along (step waiting) (Reaches waiting) new waits ∧
      (answers (run waiting new waits)).Nodup := by
  refine async_replies_served ⟨trivial,wait_tidy ?_,?_,wait_tidy ?_,?_,?_,trivial⟩
  · decide +kernel
  · exact fun c r _ _ _ x hx => absurd hx List.not_mem_nil
  · decide +kernel
  · intro c hc hlisted
    rw [List.mem_singleton.mp hc]
    decide +kernel
  · exact fun c _ x hx => absurd hx List.not_mem_nil

def leaves : List Event :=
  [.clientConnected ⟨1⟩,wait ⟨1⟩,wait ⟨1⟩,.clientDisconnected ⟨1⟩]

theorem second_reply_dangles :
    (run waiting new leaves).m_asyncReplies.value 0 = some ⟨1⟩ ∧
      (run waiting new leaves).m_clients = [] ∧ ¬RepliesConnected (run waiting new leaves) ∧
      ¬Reaches waiting (run waiting new leaves) (.replyFinished 0 [] true []) := by
  have hvalue : (run waiting new leaves).m_asyncReplies.value 0 = some ⟨1⟩ := by decide +kernel
  have hclients : (run waiting new leaves).m_clients = [] := by decide +kernel
  refine ⟨hvalue,hclients,fun h => ?_,?_⟩
  · have hmem := h 0 ⟨1⟩ hvalue
    rw [hclients] at hmem
    cases hmem
  · rintro ⟨added,hadded,hclient⟩
    have hcount : (run waiting new leaves).output.length <
        (step waiting (run waiting new leaves) (.replyFinished 0 [] true [])).output.length := by
      decide +kernel
    have hlast : ((step waiting (run waiting new leaves)
        (.replyFinished 0 [] true [])).output.getLast?.bind Output.client?) = some ⟨1⟩ := by
      decide +kernel
    rw [hadded] at hcount hlast
    cases added using List.reverseRecOn with
    | nil => simp at hcount
    | append_singleton others x _ =>
      rw [← List.append_assoc,List.getLast?_concat] at hlast
      have hmem := hclient x (List.mem_append_right _ (List.mem_singleton_self x)) ⟨1⟩ hlast
      rw [hclients] at hmem
      cases hmem

end Sample

end RemoteProxy.AsyncReplies
