import RemoteProxy.Proxy.Answers

namespace RemoteProxy.TunnelProxyServer

open JsonRpcServer

variable {env : Environment} {o : ObjectId} {s s' t : TunnelProxyServer}

section Settled

def SettledAt (s : TunnelProxyServer) (x : ObjectId) : Prop :=
  (s.client x).m_slipAfterResponseEnabled = true →
    (s.client x).m_slipEnabled = true ∨ (s.client x).m_killConnectionRequested = true

def Settled (s : TunnelProxyServer) : Prop := ∀ x, SettledAt s x

theorem SettledAt.of_client {x : ObjectId} (h : SettledAt s x)
    (hafter : (s'.client x).m_slipAfterResponseEnabled = (s.client x).m_slipAfterResponseEnabled)
    (hslip : (s'.client x).m_slipEnabled = (s.client x).m_slipEnabled)
    (hkill : (s.client x).m_killConnectionRequested = true →
      (s'.client x).m_killConnectionRequested = true) : SettledAt s' x := by
  intro ha
  rw [hslip]
  exact (h (hafter.symm.trans ha)).imp_right hkill

theorem SettledAt.kept {x : ObjectId} (h : SettledAt s x) (hk : Kept s s') : SettledAt s' x := by
  have hc := hk.client x
  exact h.of_client (by rw [hc]) (by rw [hc]) (by rw [hc]; exact id)

theorem Settled.kept (h : Settled s) (hk : Kept s s') : Settled s' := fun x => (h x).kept hk

theorem Settled.setClient (h : Settled s) {c : TunnelProxyClient}
    (hafter : c.m_slipAfterResponseEnabled = (s.client o).m_slipAfterResponseEnabled)
    (hslip : c.m_slipEnabled = (s.client o).m_slipEnabled)
    (hkill : (s.client o).m_killConnectionRequested = true → c.m_killConnectionRequested = true) :
    Settled (s.setClient o c) := by
  intro x
  rcases eq_or_ne x o with rfl | hne
  · exact (h x).of_client (by simpa using hafter) (by simpa using hslip) (by simpa using hkill)
  · exact (h x).of_client (by simp [hne]) (by simp [hne]) (by simp [hne])

theorem Settled.turnedDown (h : Settled s) {r : TunnelProxyServer × TunnelProxyError}
    (hdown : TurnedDown s o r) : Settled r.1 := by
  obtain ⟨-,he | ⟨reason,he⟩⟩ := hdown
  · rw [he]
    exact h
  · rw [he]
    exact h.setClient rfl rfl fun _ => rfl

theorem finishCall_settled (h : ∀ x, x ≠ o → SettledAt s x) (commandId : Int) (data : QVariantMap) :
    Settled (finishCall env s o commandId data) := by
  have hk : Kept s (sendResponse env s o commandId data) := Kept.sendData _ _ _ _
  have ht : ∀ x, x ≠ o → SettledAt (sendResponse env s o commandId data) x :=
    fun x hx => (h x hx).kept hk
  simp only [finishCall]
  generalize sendResponse env s o commandId data = t at ht
  split
  · next hrequested =>
    intro x
    refine SettledAt.kept ?_ (killConnection_kept env t o _)
    rcases eq_or_ne x o with rfl | hne
    · exact fun _ => .inr hrequested
    · exact ht x hne
  · split
    · intro x
      rcases eq_or_ne x o with rfl | hne
      · intro _
        simp [TunnelProxyClient.setSlipEnabled]
      · exact (ht x hne).of_client (by simp [hne]) (by simp [hne]) (by simp [hne])
    · next hafter =>
      intro x
      rcases eq_or_ne x o with rfl | hne
      · exact fun ha => absurd ha hafter
      · exact ht x hne

theorem acceptServer_settled (h : Settled s) (uuid : QUuid) (name : String) (x : ObjectId)
    (hne : x ≠ o) : SettledAt (s.acceptServer o uuid name) x := by
  have hx := (acceptServer_entered s o uuid name).others x hne
  exact (h x).of_client (by rw [hx]) (by rw [hx]) (by rw [hx]; exact id)

theorem acceptClient_settled (h : Settled s) (uuid : QUuid) (name : String) (server : ObjectId) :
    Settled (acceptClient env s o uuid name server) := by
  refine Settled.kept (s := s.attachClient o uuid name server) (fun x => ?_)
    (Kept.sendNotification env _ _ _ _ _)
  have hc := attachClient_client (s := s) o uuid name server
  rw [activateClient_eq] at hc
  rcases eq_or_ne x o with rfl | hne
  · refine (h x).of_client ?_ ?_ ?_
    · rw [hc,Function.update_self]
      rfl
    · rw [hc,Function.update_self]
      rfl
    · rw [hc,Function.update_self]
      exact id
  · have hx := (attachClient_entered (s := s) o uuid name server).others x hne
    exact (h x).of_client (by rw [hx]) (by rw [hx]) (by rw [hx]; exact id)

theorem method_settled (h : Settled s) (hnamed : ∀ x, s.m_proxyClients.value o = some x → x = o)
    {r : Request} {method : Handlers.Method}
    (hm : Handlers.method? env r.targetNamespace r.method = some method) (x : ObjectId)
    (hne : x ≠ o) : SettledAt (method s r.params o).1 x := by
  rcases method_cases env hm with hsame | ⟨-,-,rfl⟩ | ⟨-,-,rfl⟩ | ⟨-,-,rfl⟩
  · rw [hsame]
    exact h x
  · simp only [Handlers.RegisterServer]
    split
    · exact h x
    · rcases registerServer_cases hnamed (env.toUuid (r.params.value "serverUuid"))
        (env.toString (r.params.value "serverName")) with hdown | ⟨-,-,-,-,he⟩
      · exact h.turnedDown hdown x
      · rw [he]
        exact acceptServer_settled h _ _ x hne
  · simp only [Handlers.RegisterClient]
    split
    · exact h x
    · split
      · exact h x
      · rcases registerClient_cases env hnamed (env.toUuid (r.params.value "clientUuid"))
          (env.toString (r.params.value "clientName"))
          (env.toUuid (r.params.value "serverUuid")) with hdown | ⟨-,-,-,-,server,-,he⟩
        · exact h.turnedDown hdown x
        · rw [he]
          exact acceptClient_settled h _ _ server x
  · rcases disconnectClient_cases env hnamed
      (UInt16.ofNat (env.toUInt (r.params.value "socketAddress"))) with
        (he | ⟨reason,he⟩) | ⟨-,-,server,client,reason,-,-,he⟩
    · simp only [Handlers.DisconnectClient,he]
      exact h x
    · simp only [Handlers.DisconnectClient,he]
      exact h.setClient (o := o) (c := (s.client o).killConnectionAfterResponse reason) rfl rfl
        (fun _ => rfl) x
    · simp only [Handlers.DisconnectClient,he]
      exact (h x).kept (killConnection_kept env _ _ _)

theorem processDataPacket_settled (h : Settled s)
    (hnamed : ∀ x, s.m_proxyClients.value o = some x → x = o) (data : QByteArray) :
    Settled (processDataPacket env s o data) := by
  cases hr : JsonRpcServer.request env data with
  | none =>
    obtain ⟨error,reason,he⟩ := processDataPacket_refused hr s o
    rw [he]
    exact h.kept ((Kept.sendData _ _ _ _).trans (killConnection_kept env _ _ _))
  | some r =>
    rw [processDataPacket_request hr]
    simp only [JsonRpcServer.invoke,invokeMethod]
    split
    · exact h
    · next method hm =>
      exact finishCall_settled (fun x hx => (method_settled h hnamed hm x hx).kept
        (Kept.assertX _ _ _ _)) _ _

theorem handle_settled (h : Settled s) (hnamed : ∀ x, s.m_proxyClients.value o = some x → x = o)
    (item : Item) : Settled (handle env o s item) := by
  cases item with
  | packet data => exact processDataPacket_settled h hnamed data
  | frame frame =>
    simp only [handle,processFrame]
    split
    · exact processDataPacket_settled h hnamed _
    · split
      · exact h
      · split
        · exact h
        · exact h.kept ((Kept.sendData _ _ _ _).trans (Kept.counted _ _))
  | payload data => exact h.kept (Kept.tunnelToServer s o data)

theorem buffered_settled (h : Settled s) (data : QByteArray) :
    Settled (s.buffered env o data) := by
  have hs : Settled (s.setClient o ((s.client o).processData data).1) := h.setClient rfl rfl id
  unfold buffered
  split
  · exact h
  · split
    · exact hs
    · split
      · exact h
      · split
        · exact hs.kept (killConnection_kept env _ _ _)
        · exact hs

theorem received_settled (h : Settled s) (o : ObjectId) (data : QByteArray) :
    Settled (s.received o data) := by
  rw [received,addRxDataCount_eq]
  exact h.setClient rfl rfl id

theorem items_settled (env : Environment) (h : Settled s) (hc : Consistent [] s)
    (hlive : s.live o) (data : QByteArray) {before after : List Item}
    (he : s.items o data = before ++ after) :
    Consistent [] (before.foldl (handle env o) (s.buffered env o data)) ∧
      Settled (before.foldl (handle env o) (s.buffered env o data)) := by
  induction before using List.reverseRecOn generalizing after with
  | nil =>
    exact ⟨(prefix_does env hlive hc data he).consistent hc,buffered_settled h data⟩
  | append_singleton before item ih =>
    refine ⟨(prefix_does env hlive hc data he).consistent hc,?_⟩
    obtain ⟨hbefore,hsettled⟩ := @ih (item :: after) (by simpa using he)
    rw [List.foldl_concat]
    exact handle_settled hsettled (hbefore.named o) item

theorem connected_settled (h : Settled s) (hc : Consistent [] s) {id : QUuid}
    (hid : id ∉ s.clientIds) (address : String) : Settled (onClientConnected env s id address) := by
  rw [onClientConnected_eq env hc hid]
  intro x
  rcases eq_or_ne x id with rfl | hne
  · simp [SettledAt,TunnelProxyClient.new]
  · exact (h x).of_client (by simp [hne]) (by simp [hne]) (by simp [hne])

theorem step_settled (h : Settled s) (hc : Consistent [] s) (event : Event)
    (hfresh : s.Fresh event) : Settled (s.step env event) := by
  cases event with
  | clientConnected clientId address => exact connected_settled h hc hfresh address
  | clientDisconnected clientId => exact h.kept (onClientDisconnectedWithin_kept env _ s clientId)
  | dataAvailable clientId data =>
    simp only [step]
    cases hv : s.m_proxyClients.value clientId with
    | none =>
      simp only [onClientDataAvailable,hv]
      exact h
    | some x =>
      obtain rfl := hc.named clientId x hv
      rw [onClientDataAvailable_eq env hv]
      have hsame := (received_own (X := x) s data).same
      exact (items_settled env (received_settled h x data) (hc.congr hsame)
        ((hsame.live_iff x).mpr hv) data (List.append_nil _).symm).2
  | inactiveTimeout clientId =>
    simp only [step,inactiveTimeout]
    split
    · exact h
    · split
      · refine Settled.kept ?_ (killConnection_kept env _ _ _)
        exact h.setClient rfl rfl id
      · exact h
  | elapse ms => exact fun x => (h x).of_client rfl rfl id

theorem reachable_settled (h : Reachable env s) : Settled s := by
  induction h with
  | new => exact fun x hx => by simp [new] at hx; cases hx
  | step h hfresh ih => exact step_settled ih (reachable_consistent h) _ hfresh

end Settled

section OnlyAnswered

/-- All that happened is that `o` was sent something, or is marked to be killed. -/
structure OnlyAnswered (o : ObjectId) (s u : TunnelProxyServer) : Prop where
  same : SameRegistry s u
  name : ∀ x, (u.client x).m_name = (s.client x).m_name
  slip : ∀ x, (u.client x).m_slipEnabled = (s.client x).m_slipEnabled
  slipAfter : ∀ x,
    (u.client x).m_slipAfterResponseEnabled = (s.client x).m_slipAfterResponseEnabled
  killed : ∀ x, (s.client x).m_killConnectionRequested = true →
    (u.client x).m_killConnectionRequested = true
  output : ∃ new, u.output = s.output ++ new ∧ ∀ x ∈ new, ∀ c ∈ Output.client x, c = o

theorem OnlyAnswered.refl (s : TunnelProxyServer) : OnlyAnswered o s s :=
  ⟨SameRegistry.refl s,fun _ => rfl,fun _ => rfl,fun _ => rfl,fun _ => id,[],
    (List.append_nil _).symm,by simp⟩

theorem OnlyAnswered.trans (h : OnlyAnswered o s s') (h' : OnlyAnswered o s' t) :
    OnlyAnswered o s t := by
  obtain ⟨new,hnew,hown⟩ := h.output
  obtain ⟨new',hnew',hown'⟩ := h'.output
  refine ⟨h.same.trans h'.same,fun x => (h'.name x).trans (h.name x),
    fun x => (h'.slip x).trans (h.slip x),fun x => (h'.slipAfter x).trans (h.slipAfter x),
    fun x hx => h'.killed x (h.killed x hx),new ++ new',?_,?_⟩
  · rw [hnew',hnew,List.append_assoc]
  · intro x hx
    exact (List.mem_append.mp hx).elim (hown x) (hown' x)

theorem OnlyAnswered.setClient (s : TunnelProxyServer) {c : TunnelProxyClient}
    (htype : c.m_type = (s.client o).m_type) (huuid : c.m_uuid = (s.client o).m_uuid)
    (hname : c.m_name = (s.client o).m_name)
    (hslip : c.m_slipEnabled = (s.client o).m_slipEnabled)
    (hafter : c.m_slipAfterResponseEnabled = (s.client o).m_slipAfterResponseEnabled)
    (hkill : (s.client o).m_killConnectionRequested = true → c.m_killConnectionRequested = true) :
    OnlyAnswered o s (s.setClient o c) := by
  refine ⟨SameRegistry.setClient s htype huuid,fun x => ?_,fun x => ?_,fun x => ?_,fun x => ?_,[],
    (List.append_nil _).symm,by simp⟩
  · rcases eq_or_ne x o with rfl | hne
    · simpa using hname
    · simp [hne]
  · rcases eq_or_ne x o with rfl | hne
    · simpa using hslip
    · simp [hne]
  · rcases eq_or_ne x o with rfl | hne
    · simpa using hafter
    · simp [hne]
  · rcases eq_or_ne x o with rfl | hne
    · simpa using hkill
    · simp [hne]

theorem OnlyAnswered.assertX (s : TunnelProxyServer) (condition : Bool) (place what : String) :
    OnlyAnswered o s (s.assertX condition place what) := by
  rw [TunnelProxyServer.assertX]
  split
  · exact OnlyAnswered.refl s
  · exact ⟨SameRegistry.emit s _,fun _ => rfl,fun _ => rfl,fun _ => rfl,fun _ => id,[_],rfl,
      by simp [Output.client]⟩

theorem OnlyAnswered.sendMessage (env : Environment) (s : TunnelProxyServer) (m : Message) :
    OnlyAnswered o s (sendMessage env s o m) := by
  have hk : Kept s (JsonRpcServer.sendMessage env s o m) := Kept.sendData s o m _
  refine ⟨SameRegistry.sendData s o m _,fun x => ?_,fun x => ?_,fun x => ?_,fun x => ?_,[_],rfl,
    by simp [Output.client]⟩
  · rw [hk.client x]
  · rw [hk.client x]
  · rw [hk.client x]
  · rw [hk.client x]
    exact id

theorem OnlyAnswered.turnedDown {r : TunnelProxyServer × TunnelProxyError}
    (h : TurnedDown s o r) : OnlyAnswered o s r.1 := by
  obtain ⟨-,he | ⟨reason,he⟩⟩ := h
  · rw [he]
    exact OnlyAnswered.refl s
  · rw [he]
    exact OnlyAnswered.setClient s rfl rfl rfl rfl rfl fun _ => rfl

theorem OnlyAnswered.settledAt (h : OnlyAnswered o s s') {x : ObjectId} (hs : SettledAt s x) :
    SettledAt s' x :=
  hs.of_client (h.slipAfter x) (h.slip x) (h.killed x)

theorem finishCall_onlyAnswered (env : Environment) (h : SettledAt s o) (commandId : Int)
    (data : QVariantMap) :
    ∃ u, OnlyAnswered o s u ∧ (finishCall env s o commandId data = u ∨
      ∃ reason, finishCall env s o commandId data = killConnection env u o reason) := by
  have hk : Kept s (sendResponse env s o commandId data) := Kept.sendData _ _ _ _
  have hsent : OnlyAnswered o s (sendResponse env s o commandId data) :=
    OnlyAnswered.sendMessage env s _
  have ht := h.kept hk
  simp only [finishCall]
  generalize sendResponse env s o commandId data = t at hsent ht
  split
  · exact ⟨t,hsent,.inr ⟨_,rfl⟩⟩
  · next hrequested =>
    split
    · next hafter =>
      have hslip := (ht hafter).resolve_right hrequested
      refine ⟨t.setClient o ((t.client o).setSlipEnabled true),hsent.trans ?_,.inl rfl⟩
      exact OnlyAnswered.setClient t rfl rfl rfl hslip.symm rfl id
    · exact ⟨t,hsent,.inl rfl⟩

end OnlyAnswered

section Requests

def Message.failed : Message → Prop
  | .errorResponse _ _ => True
  | .response _ params => ∃ e, e ≠ TunnelProxyError.NoError ∧
    params.value "tunnelProxyError" = .string (JsonTypes.tunnelProxyErrorToString e)
  | _ => False

def Message.accepted : Message → Prop
  | .response _ params => params.value "tunnelProxyError" =
    .string (JsonTypes.tunnelProxyErrorToString .NoError)
  | _ => False

def AnsweredWith (env : Environment) (s : TunnelProxyServer) (o : ObjectId) (data : QByteArray)
    (P : Message → Prop) : Prop :=
  ∃ message frame, (processDataPacket env s o data).answers =
    s.answers ++ [.sent o message frame] ∧ P message

theorem answeredWith_iff {r : Request} {method : Handlers.Method} {data : QByteArray}
    (hr : JsonRpcServer.request env data = some r)
    (hm : Handlers.method? env r.targetNamespace r.method = some method) (P : Message → Prop) :
    AnsweredWith env s o data P ↔ P (.response r.commandId (method s r.params o).2) := by
  rw [AnsweredWith,processDataPacket_request hr,invoke_answers hm]
  constructor
  · rintro ⟨message,frame,he,hp⟩
    simp only [List.append_cancel_left_eq,List.cons.injEq,Output.sent.injEq,and_true,
      true_and] at he
    rw [he.1]
    exact hp
  · exact fun hp => ⟨_,_,rfl,hp⟩

theorem tunnelProxyErrorToString_inj {e e' : TunnelProxyError}
    (h : JsonTypes.tunnelProxyErrorToString e = JsonTypes.tunnelProxyErrorToString e') : e = e' := by
  cases e <;> cases e' <;> first | rfl | exact absurd h (by decide)

theorem errorResponse_value (error : TunnelProxyError) (rest : QVariantMap) :
    QVariantMap.value (Handlers.errorResponse error ++ rest) "tunnelProxyError" =
      .string (JsonTypes.tunnelProxyErrorToString error) := rfl

theorem accepted_iff {commandId : Int} {error : TunnelProxyError} {rest : QVariantMap} :
    Message.accepted (.response commandId (Handlers.errorResponse error ++ rest)) ↔
      error = .NoError := by
  rw [Message.accepted,errorResponse_value,QVariant.string.injEq]
  exact ⟨tunnelProxyErrorToString_inj,fun h => by rw [h]⟩

theorem failed_iff {commandId : Int} {error : TunnelProxyError} {rest : QVariantMap} :
    Message.failed (.response commandId (Handlers.errorResponse error ++ rest)) ↔
      error ≠ .NoError := by
  rw [Message.failed,errorResponse_value]
  constructor
  · rintro ⟨e,hne,he⟩
    rw [tunnelProxyErrorToString_inj (QVariant.string.inj he)]
    exact hne
  · exact fun h => ⟨error,h,rfl⟩

/-- A method with an error in its reply: when there is none, and what there being one means. -/
structure Outcome (s : TunnelProxyServer) (o : ObjectId) (result : TunnelProxyServer × QVariantMap)
    (accepted : Prop) : Prop where
  reply : ∃ error rest, result.2 = Handlers.errorResponse error ++ rest ∧
    (error = .NoError ↔ accepted) ∧ (error ≠ .NoError → OnlyAnswered o s result.1)

structure Unregistered (s : TunnelProxyServer) (o : ObjectId) (uuid : QUuid) : Prop where
  type : (s.client o).m_type = .TypeNone
  valid : uuid.isNull = false
  notServer : s.m_tunnelProxyServerConnections.value uuid = none
  notClient : s.m_tunnelProxyClientConnections.value uuid = none

theorem registerServer_outcome (hlive : s.live o) (params : QVariantMap) :
    Outcome s o (Handlers.RegisterServer env s params o)
      (Unregistered s o (env.toUuid (params.value "serverUuid"))) := by
  have hv : s.m_proxyClients.value o = some o := hlive
  have hnamed : ∀ x, s.m_proxyClients.value o = some x → x = o :=
    fun x hx => Option.some.inj (hx.symm.trans hv)
  refine ⟨_,_,rfl,?_,?_⟩
  · split
    · next hnull =>
      refine iff_of_false (by simp) fun h => ?_
      rw [h.valid] at hnull
      cases hnull
    · next hnull =>
      rcases registerServer_cases hnamed (env.toUuid (params.value "serverUuid"))
        (env.toString (params.value "serverName")) with hdown | ⟨-,htype,hns,hnc,he⟩
      · refine iff_of_false hdown.1 fun h => hdown.1 ?_
        rw [registerServer_accepted hv h.type h.notServer h.notClient]
      · rw [he]
        exact iff_of_true rfl ⟨htype,by simpa using hnull,hns,hnc⟩
  · intro herror
    simp only [Handlers.RegisterServer]
    split
    · exact OnlyAnswered.refl s
    · next hnull =>
      rcases registerServer_cases hnamed (env.toUuid (params.value "serverUuid"))
        (env.toString (params.value "serverName")) with hdown | ⟨-,-,-,-,he⟩
      · exact OnlyAnswered.turnedDown hdown
      · rw [if_neg hnull,he] at herror
        exact absurd rfl herror

theorem registerClient_outcome (hlive : s.live o) (params : QVariantMap) :
    Outcome s o (Handlers.RegisterClient env s params o)
      (Unregistered s o (env.toUuid (params.value "clientUuid")) ∧
        (env.toUuid (params.value "serverUuid")).isNull = false ∧
        s.m_tunnelProxyServerConnections.contains (env.toUuid (params.value "serverUuid")) =
          true) := by
  have hv : s.m_proxyClients.value o = some o := hlive
  have hnamed : ∀ x, s.m_proxyClients.value o = some x → x = o :=
    fun x hx => Option.some.inj (hx.symm.trans hv)
  refine ⟨_,[],(List.append_nil _).symm,?_,?_⟩
  · split
    · next hnull =>
      refine iff_of_false (by simp) fun h => ?_
      rw [h.2.1] at hnull
      cases hnull
    · next hserver =>
      split
      · next hnull =>
        refine iff_of_false (by simp) fun h => ?_
        rw [h.1.valid] at hnull
        cases hnull
      · next hclient =>
        rcases registerClient_cases env hnamed (env.toUuid (params.value "clientUuid"))
          (env.toString (params.value "clientName")) (env.toUuid (params.value "serverUuid")) with
            hdown | ⟨-,htype,hnc,hns,server,hfound,he⟩
        · refine iff_of_false hdown.1 fun h => hdown.1 ?_
          obtain ⟨server,hfound⟩ := Option.isSome_iff_exists.mp h.2.2
          rw [registerClient_accepted env hv h.1.type h.1.notClient h.1.notServer hfound]
        · rw [he]
          refine iff_of_true rfl ⟨⟨htype,by simpa using hclient,hns,hnc⟩,by simpa using hserver,?_⟩
          rw [QHash.contains,hfound]
          rfl
  · intro herror
    simp only [Handlers.RegisterClient]
    split
    · exact OnlyAnswered.refl s
    · next hserver =>
      split
      · exact OnlyAnswered.refl s
      · next hclient =>
        rcases registerClient_cases env hnamed (env.toUuid (params.value "clientUuid"))
          (env.toString (params.value "clientName")) (env.toUuid (params.value "serverUuid")) with
            hdown | ⟨-,-,-,-,server,-,he⟩
        · exact OnlyAnswered.turnedDown hdown
        · rw [if_neg hserver,if_neg hclient,he] at herror
          exact absurd rfl herror

theorem disconnectClient_found (hc : Consistent [] s) (hlive : s.live o) (hserver : s.isServer o)
    (socketAddress : UInt16) : disconnectClient env s o socketAddress =
      match (s.serverConnection o).getClientConnection socketAddress with
      | none => (s,.UnknownSocketAddress)
      | some client => (killConnection env s client "Server requested disconnect.",.NoError) := by
  have hv : s.m_proxyClients.value o = some o := hlive
  have htype : (s.client o).m_type = .TypeServer := hserver
  have hentry := (hc.server_iff (s.client o).m_uuid o).mpr ⟨hlive,hserver,rfl⟩
  simp only [disconnectClient,hv,htype,ne_eq,not_true_eq_false,if_false,hentry]
  cases hclient : (s.serverConnection o).getClientConnection socketAddress with
  | none => rfl
  | some client =>
    obtain ⟨hl,hcl,-⟩ := hc.addressed o socketAddress client ⟨hserver,.inl hlive⟩ hclient
    dsimp only
    rw [(hc.clientTransport client hl hcl).1]

theorem disconnectClient_outcome (hc : Consistent [] s) (hlive : s.live o) (params : QVariantMap) :
    Outcome s o (Handlers.DisconnectClient env s params o)
      (s.isServer o ∧ ((s.serverConnection o).getClientConnection
        (UInt16.ofNat (env.toUInt (params.value "socketAddress")))).isSome = true) := by
  refine ⟨_,[],(List.append_nil _).symm,?_,?_⟩
  · by_cases hserver : s.isServer o
    · rw [disconnectClient_found hc hlive hserver]
      cases (s.serverConnection o).getClientConnection
        (UInt16.ofNat (env.toUInt (params.value "socketAddress"))) with
      | none => exact iff_of_false (by simp) fun h => by cases h.2
      | some client => exact iff_of_true rfl ⟨hserver,rfl⟩
    · have hv : s.m_proxyClients.value o = some o := hlive
      have htype : (s.client o).m_type ≠ .TypeServer := hserver
      refine iff_of_false ?_ fun h => hserver h.1
      simp [disconnectClient,hv,htype]
  · intro herror
    simp only [Handlers.DisconnectClient]
    by_cases hserver : s.isServer o
    · rw [disconnectClient_found hc hlive hserver] at herror ⊢
      cases hfound : (s.serverConnection o).getClientConnection
        (UInt16.ofNat (env.toUInt (params.value "socketAddress"))) with
      | none => exact OnlyAnswered.refl s
      | some client =>
        rw [hfound] at herror
        exact absurd rfl herror
    · have hv : s.m_proxyClients.value o = some o := hlive
      have htype : (s.client o).m_type ≠ .TypeServer := hserver
      simp only [disconnectClient,hv,ne_eq,htype,not_false_eq_true,if_true]
      exact OnlyAnswered.setClient s rfl rfl rfl rfl rfl fun _ => rfl

/-- When the requests that change the registry succeed, and all that a packet does that fails: the
requester is answered, and at most killed. -/
structure Atomic (env : Environment) (s : TunnelProxyServer) (o : ObjectId) (data : QByteArray) :
    Prop where
  registerServer : ∀ r, JsonRpcServer.request env data = some r →
    r.targetNamespace = "TunnelProxy" → r.method = "RegisterServer" →
    (AnsweredWith env s o data Message.accepted ↔
      Unregistered s o (env.toUuid (r.params.value "serverUuid")))
  registerClient : ∀ r, JsonRpcServer.request env data = some r →
    r.targetNamespace = "TunnelProxy" → r.method = "RegisterClient" →
    (AnsweredWith env s o data Message.accepted ↔
      Unregistered s o (env.toUuid (r.params.value "clientUuid")) ∧
        (env.toUuid (r.params.value "serverUuid")).isNull = false ∧
        s.m_tunnelProxyServerConnections.contains (env.toUuid (r.params.value "serverUuid")) = true)
  disconnectClient : ∀ r, JsonRpcServer.request env data = some r →
    r.targetNamespace = "TunnelProxy" → r.method = "DisconnectClient" →
    (AnsweredWith env s o data Message.accepted ↔
      s.isServer o ∧ ((s.serverConnection o).getClientConnection
        (UInt16.ofNat (env.toUInt (r.params.value "socketAddress")))).isSome = true)
  failed : AnsweredWith env s o data Message.failed →
    ∃ u, OnlyAnswered o s u ∧ (processDataPacket env s o data = u ∨
      ∃ reason, processDataPacket env s o data = killConnection env u o reason)

theorem Outcome.accepted {r : Request} {method : Handlers.Method} {data : QByteArray} {P : Prop}
    (hr : JsonRpcServer.request env data = some r)
    (hm : Handlers.method? env r.targetNamespace r.method = some method)
    (h : Outcome s o (method s r.params o) P) : AnsweredWith env s o data Message.accepted ↔ P := by
  obtain ⟨error,rest,hreply,hiff,-⟩ := h.reply
  rw [answeredWith_iff hr hm,hreply,accepted_iff]
  exact hiff

theorem Outcome.failed {r : Request} {method : Handlers.Method} {data : QByteArray} {P : Prop}
    (hr : JsonRpcServer.request env data = some r)
    (hm : Handlers.method? env r.targetNamespace r.method = some method)
    (h : Outcome s o (method s r.params o) P)
    (hfailed : AnsweredWith env s o data Message.failed) :
    OnlyAnswered o s (method s r.params o).1 := by
  obtain ⟨error,rest,hreply,-,honly⟩ := h.reply
  rw [answeredWith_iff hr hm,hreply,failed_iff] at hfailed
  exact honly hfailed

theorem method_failed (hc : Consistent [] s) (hlive : s.live o) {r : Request}
    {method : Handlers.Method} {data : QByteArray}
    (hr : JsonRpcServer.request env data = some r)
    (hm : Handlers.method? env r.targetNamespace r.method = some method)
    (hfailed : AnsweredWith env s o data Message.failed) :
    OnlyAnswered o s (method s r.params o).1 := by
  rcases method_cases env hm with hsame | ⟨-,-,he⟩ | ⟨-,-,he⟩ | ⟨-,-,he⟩
  · rw [hsame]
    exact OnlyAnswered.refl s
  · subst he
    exact (registerServer_outcome hlive r.params).failed hr hm hfailed
  · subst he
    exact (registerClient_outcome hlive r.params).failed hr hm hfailed
  · subst he
    exact (disconnectClient_outcome hc hlive r.params).failed hr hm hfailed

theorem packet_atomic (hc : Consistent [] s) (hs : Settled s) (hlive : s.live o)
    (data : QByteArray) : Atomic env s o data := by
  refine ⟨?_,?_,?_,?_⟩
  · intro r hr hnamespace hname
    have hm : Handlers.method? env r.targetNamespace r.method =
        some (Handlers.RegisterServer env) := by
      rw [hnamespace,hname]
      rfl
    exact (registerServer_outcome hlive r.params).accepted hr hm
  · intro r hr hnamespace hname
    have hm : Handlers.method? env r.targetNamespace r.method =
        some (Handlers.RegisterClient env) := by
      rw [hnamespace,hname]
      rfl
    exact (registerClient_outcome hlive r.params).accepted hr hm
  · intro r hr hnamespace hname
    have hm : Handlers.method? env r.targetNamespace r.method =
        some (Handlers.DisconnectClient env) := by
      rw [hnamespace,hname]
      rfl
    exact (disconnectClient_outcome hc hlive r.params).accepted hr hm
  · intro hfailed
    cases hr : JsonRpcServer.request env data with
    | none =>
      obtain ⟨error,reason,he⟩ := processDataPacket_refused hr s o
      exact ⟨_,OnlyAnswered.sendMessage env s _,.inr ⟨reason,he⟩⟩
    | some r =>
      obtain ⟨-,hhandler,hname⟩ := request_named hr
      obtain ⟨method,hm⟩ := method_found env hhandler hname
      have hmethod := method_failed hc hlive hr hm hfailed
      have hasserted := hmethod.trans (OnlyAnswered.assertX (method s r.params o).1
        ((r.targetNamespace = "RemoteProxy" && r.method = "Introspect") ||
          (r.handler.validateReturns env.toQt r.method (method s r.params o).2).1)
        "validating return value"
        (formatAssertion env r.targetNamespace r.method r.handler (method s r.params o).2))
      obtain ⟨u,hu,he⟩ := finishCall_onlyAnswered env (hasserted.settledAt (hs o))
        r.commandId (method s r.params o).2
      rw [processDataPacket_request hr]
      simp only [JsonRpcServer.invoke,invokeMethod,hm]
      exact ⟨u,hasserted.trans hu,he⟩

end Requests

section Run

def Item.request? : Item → Option QByteArray
  | .packet data => some data
  | .frame f => if f.socketAddress = 0x0000 then some f.data else none
  | .payload _ => none

theorem handle_request {item : Item} {data : QByteArray} (h : Item.request? item = some data)
    (s : TunnelProxyServer) : handle env o s item = processDataPacket env s o data := by
  cases item with
  | packet data' =>
    cases h
    rfl
  | frame f =>
    rw [Item.request?] at h
    split at h
    · next hzero =>
      simp only [handle,processFrame,hzero,if_true]
      rw [Option.some.inj h]
    · cases h
  | payload data' => cases h

/-- Each packet of a run is handled in full, or changes nothing but its own connection. -/
def AtomicItem (env : Environment) (s : TunnelProxyServer) (o : ObjectId) (item : Item) : Prop :=
  ∀ data, Item.request? item = some data → s.live o →
    handle env o s item = processDataPacket env s o data ∧ Atomic env s o data

theorem run_everyItem {P : TunnelProxyServer → ObjectId → Item → Prop}
    (hP : ∀ t x item, Consistent [] t → Settled t → P t x item) (h : Reachable env s)
    {events : List Event} (hfresh : FreshRun env s events) : EveryItem env P s events := by
  induction events generalizing s with
  | nil => exact trivial
  | cons event events ih =>
    rw [EveryItem,everyChunk_cons]
    refine ⟨?_,ih (h.step hfresh.1) hfresh.2⟩
    intro x chunk _ hv before item after he
    have hsame := (received_own (X := x) s chunk).same
    obtain ⟨hc,hs⟩ := items_settled env
      (received_settled (reachable_settled h) x chunk) ((reachable_consistent h).congr hsame)
      ((hsame.live_iff x).mpr hv) chunk he
    exact hP _ x item hc hs

/-- Whatever state a run ends in, and whatever items of a chunk were handled before, a request
succeeds only when it should, and a failed one is answered and nothing else. -/
theorem failed_requests_atomic {events : List Event} (hfresh : FreshRun env new events) :
    EveryItem env (AtomicItem env) new events ∧
      ∀ o, (new.run env events).live o → ∀ data, Atomic env (new.run env events) o data := by
  have h := Reachable.new.run hfresh
  refine ⟨run_everyItem ?_ Reachable.new hfresh,fun o hlive data =>
    packet_atomic (reachable_consistent h) (reachable_settled h) hlive data⟩
  intro t x item hc hs data hitem hlive
  exact ⟨handle_request hitem t,packet_atomic hc hs hlive data⟩

theorem failed_requests_atomic_sample :
    EveryItem (sampleEnvironment true) (AtomicItem (sampleEnvironment true)) new
        (sampleEvents true) ∧
      ∀ o, (new.run (sampleEnvironment true) (sampleEvents true)).live o → ∀ data,
        Atomic (sampleEnvironment true) (new.run (sampleEnvironment true) (sampleEvents true))
          o data :=
  failed_requests_atomic (by decide +kernel)

end Run

end RemoteProxy.TunnelProxyServer
