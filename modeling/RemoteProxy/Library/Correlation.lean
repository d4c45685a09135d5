import RemoteProxy.Library.Session

namespace RemoteProxy

namespace JsonRpcClient

inductive Call where
  | hello
  | registerServer (serverUuid : QUuid) (serverName : String)
  | registerClient (clientUuid : QUuid) (clientName : String) (serverUuid : QUuid)
  | disconnectClient (socketAddress : UInt16)
  | ping (timestamp : Nat)

def Call.run (env : Qt) : Call → JsonRpcClient → Called
  | .hello => callHello env
  | .registerServer serverUuid serverName => callRegisterServer env serverUuid serverName
  | .registerClient clientUuid clientName serverUuid =>
    callRegisterClient env clientUuid clientName serverUuid
  | .disconnectClient socketAddress => callDisconnectClient env socketAddress
  | .ping timestamp => callPing env timestamp

variable {env : Qt} {c : JsonRpcClient}

theorem Call.run_eq (env : Qt) (request : Call) : ∃ nameSpace method params slipEnabled,
    request.run env = call env nameSpace method params slipEnabled := by
  cases request with
  | hello => exact ⟨_,_,_,_,rfl⟩
  | registerServer => exact ⟨_,_,_,_,rfl⟩
  | registerClient => exact ⟨_,_,_,_,rfl⟩
  | disconnectClient => exact ⟨_,_,_,_,rfl⟩
  | ping => exact ⟨_,_,_,_,rfl⟩

theorem Call.run_client (env : Qt) (h : OnlyZero c) (request : Call) :
    OnlyZero (request.run env c).client ∧
      (request.run env c).client.m_replies.value 0 = some c.created ∧
      (request.run env c).client.created = c.created + 1 ∧ (request.run env c).reply = c.created := by
  obtain ⟨nameSpace,method,params,slipEnabled,he⟩ := request.run_eq env
  rw [he]
  obtain ⟨h1,h2⟩ := h.call env nameSpace method params slipEnabled
  exact ⟨h1,h2,rfl,rfl⟩

def finishes (r : JsonRpcClient × Option Signal) : List (Nat × QVariantMap) :=
  match r.2 with
  | some (.finished reply) => [(reply,(r.1.reply reply).m_response)]
  | _ => []

section Respond

variable {data : QByteArray} {response : QVariantMap}

theorem processDataPacket_awaited (hj : env.fromJson data = .ok (.map response)) {commandId : Int}
    (hid : env.toInt (response.value "id") = some commandId) {reply : Nat}
    (hr : c.m_replies.value commandId = some reply) :
    processDataPacket env c data =
        (c.finishReply reply response commandId,some (.finished reply)) ∧
      finishes (processDataPacket env c data) = [(reply,response)] := by
  have hcommand : commandIdOf env response = commandId := by
    rw [commandIdOf,hid,Option.getD_some]
  have he : processDataPacket env c data =
      (c.finishReply reply response commandId,some (.finished reply)) := by
    rw [processDataPacket,hj]
    simp only [QVariant.toMap,hcommand,hr]
  refine ⟨he,?_⟩
  rw [he,finishes]
  simp only [finishReply_m_response]

theorem processDataPacket_unknown (hj : env.fromJson data = .ok (.map response)) {commandId : Int}
    (hid : env.toInt (response.value "id") = some commandId)
    (hr : c.m_replies.value commandId = none) :
    processDataPacket env c data = (c.forget commandId,notificationSignal env response) ∧
      finishes (processDataPacket env c data) = [] := by
  have hcommand : commandIdOf env response = commandId := by
    rw [commandIdOf,hid,Option.getD_some]
  have he : processDataPacket env c data =
      (c.forget commandId,notificationSignal env response) := by
    rw [processDataPacket,hj]
    simp only [QVariant.toMap,hcommand,hr]
  refine ⟨he,?_⟩
  rw [he]
  cases hs : notificationSignal env response with
  | none => rfl
  | some signal =>
    cases signal with
    | finished reply => exact absurd hs (notificationSignal_ne_finished response reply)
    | tunnelEstablished => rfl
    | tunnelProxyClientConnected => rfl
    | tunnelProxyClientDisonnected => rfl

end Respond

end JsonRpcClient

open JsonRpcClient

/-- A client and the requests that the proxy still has to answer, each with the id that it was sent
with; `answers` and `finished` record what has been answered and which replies have finished. -/
structure Exchange where
  client : JsonRpcClient
  outstanding : List (Nat × Int)
  answers : List (Nat × QVariantMap)
  finished : List (Nat × QVariantMap)

namespace Exchange

inductive Event where
  | call (request : Call)
  | respond (reply : Nat) (commandId : Int) (data : QByteArray) (response : QVariantMap)

def new : Exchange where
  client := .new
  outstanding := []
  answers := []
  finished := []

def step (env : Qt) (s : Exchange) : Event → Exchange
  | .call request =>
    let r := request.run env s.client
    { s with
      client := r.client
      outstanding := s.outstanding ++ [(r.reply,s.client.m_commandId)] }
  | .respond reply commandId data response =>
    let r := processDataPacket env s.client data
    { client := r.1
      outstanding := s.outstanding.erase (reply,commandId)
      answers := s.answers ++ [(reply,response)]
      finished := s.finished ++ finishes r }

def Valid (env : Qt) (s : Exchange) : Event → Prop
  | .call _ => True
  | .respond reply commandId data response =>
    (reply,commandId) ∈ s.outstanding ∧ env.fromJson data = .ok (.map response) ∧
      env.toInt (response.value "id") = some commandId

def run (env : Qt) (s : Exchange) (events : List Event) : Exchange := events.foldl (step env) s

def ValidRun (env : Qt) (s : Exchange) : List Event → Prop
  | [] => True
  | e :: events => Valid env s e ∧ ValidRun env (s.step env e) events

def Sequential (env : Qt) (s : Exchange) : List Event → Prop
  | [] => True
  | e :: events => (∀ request, e = .call request → s.outstanding = []) ∧
      Sequential env (s.step env e) events

/-- Every reply has finished once, with the answer to its own request, and none is awaited. -/
structure Correlated (s : Exchange) : Prop where
  replies : s.client.m_replies.keys = []
  finished : ∀ reply < s.client.created, ∃ response,
    s.finished.filter (fun e => e.1 = reply) = [(reply,response)] ∧ (reply,response) ∈ s.answers

variable {env : Qt} {s : Exchange}

structure Sound (s : Exchange) : Prop where
  onlyZero : OnlyZero s.client
  commandId : ∀ e ∈ s.outstanding, e.2 = 0

theorem Sound.step (env : Qt) (h : Sound s) (e : Event) : Sound (s.step env e) := by
  cases e with
  | call request =>
    refine ⟨(request.run_client env h.onlyZero).1,fun e he => ?_⟩
    rcases List.mem_append.mp he with he | he
    · exact h.commandId e he
    · rw [List.mem_singleton.mp he]
      exact h.onlyZero.commandId
  | respond reply commandId data response =>
    exact ⟨h.onlyZero.processDataPacket env data,
      fun e he => h.commandId e (List.mem_of_mem_erase he)⟩

section Lost

def Lost (s : Exchange) : Prop :=
  s.finished.length + (s.client.m_replies.value 0).toList.length < s.client.created

theorem Lost.step (hs : Sound s) (h : Lost s) {e : Event} (hv : Valid env s e) :
    Lost (s.step env e) := by
  cases e with
  | call request =>
    obtain ⟨-,hvalue,hcreated,-⟩ := request.run_client env hs.onlyZero
    simp only [Lost,Exchange.step,hvalue,hcreated,Option.toList_some,List.length_singleton] at h ⊢
    omega
  | respond reply commandId data response =>
    obtain ⟨hm,hj,hid⟩ := hv
    obtain rfl : commandId = 0 := hs.commandId _ hm
    rw [Lost] at h ⊢
    change (s.finished ++ finishes (processDataPacket env s.client data)).length +
      ((processDataPacket env s.client data).1.m_replies.value 0).toList.length <
        (processDataPacket env s.client data).1.created
    cases hr : s.client.m_replies.value 0 with
    | some object =>
      obtain ⟨hclient,hfinishes⟩ := processDataPacket_awaited hj hid hr
      have hnone : (s.client.finishReply object response 0).m_replies.value 0 = none :=
        (QHash.value_remove _ _ _).trans (if_pos rfl)
      rw [hr] at h
      rw [hfinishes,hclient,hnone,List.length_append]
      exact h
    | none =>
      obtain ⟨hclient,hfinishes⟩ := processDataPacket_unknown hj hid hr
      have hnone : (s.client.forget 0).m_replies.value 0 = none :=
        (QHash.value_remove _ _ _).trans (if_pos rfl)
      rw [hr] at h
      rw [hfinishes,hclient,hnone,List.append_nil]
      exact h

theorem Lost.run (hs : Sound s) (h : Lost s) {events : List Event} (hv : ValidRun env s events) :
    Lost (s.run env events) := by
  induction events generalizing s with
  | nil => exact h
  | cons e events ih => exact ih (hs.step env e) (h.step hs hv.1) hv.2

theorem Correlated.not_lost (h : Correlated s) : ¬Lost s := by
  intro hlost
  have hsub : List.range s.client.created ⊆ s.finished.map Prod.fst := by
    intro reply hr
    obtain ⟨response,hf,-⟩ := h.finished reply (List.mem_range.mp hr)
    have hm : (reply,response) ∈ s.finished.filter (fun e => e.1 = reply) := by
      rw [hf]
      exact List.mem_singleton_self _
    exact List.mem_map_of_mem (f := Prod.fst) (List.mem_filter.mp hm).1
  have hle := (List.subperm_of_subset List.nodup_range hsub).length_le
  rw [List.length_range,List.length_map] at hle
  have : s.finished.length < s.client.created :=
    Nat.lt_of_le_of_lt (Nat.le_add_right _ _) hlost
  omega

end Lost

section Clean

/-- Nothing is outstanding, and every answer has gone to its reply. -/
structure Idle (s : Exchange) : Prop where
  outstanding : s.outstanding = []
  replies : s.client.m_replies.value 0 = none
  finished : s.finished = s.answers
  answers : s.answers.map Prod.fst = List.range s.client.created

structure Busy (s : Exchange) : Prop where
  outstanding : ∃ reply, s.outstanding = [(reply,0)] ∧
    s.client.m_replies.value 0 = some reply ∧ s.client.created = reply + 1 ∧
    s.answers.map Prod.fst = List.range reply
  finished : s.finished = s.answers

theorem Idle.call (hs : Sound s) (h : Idle s) (request : Call) :
    Busy (s.step env (.call request)) := by
  obtain ⟨-,hvalue,hcreated,hreply⟩ := request.run_client env hs.onlyZero
  refine ⟨⟨s.client.created,?_,hvalue,hcreated,h.answers⟩,h.finished⟩
  simp only [Exchange.step,h.outstanding,hreply,hs.onlyZero.commandId,List.nil_append]

theorem Busy.lost (hs : Sound s) (h : Busy s) (request : Call) :
    Lost (s.step env (.call request)) := by
  obtain ⟨-,hvalue,hcreated,-⟩ := request.run_client env hs.onlyZero
  obtain ⟨reply,-,-,hlast,hanswers⟩ := h.outstanding
  have hlen := congrArg List.length hanswers
  rw [List.length_map,List.length_range,← h.finished] at hlen
  simp only [Lost,Exchange.step,hvalue,hcreated,Option.toList_some,List.length_singleton,hlen,hlast]
  omega

theorem Busy.respond (h : Busy s) {reply : Nat} {commandId : Int} {data : QByteArray}
    {response : QVariantMap} (hv : Valid env s (.respond reply commandId data response)) :
    Idle (s.step env (.respond reply commandId data response)) := by
  obtain ⟨last,hout,hvalue,hcreated,hanswers⟩ := h.outstanding
  obtain ⟨hm,hj,hid⟩ := hv
  rw [hout,List.mem_singleton,Prod.mk.injEq] at hm
  obtain ⟨rfl,rfl⟩ := hm
  obtain ⟨hclient,hfinishes⟩ := processDataPacket_awaited hj hid hvalue
  refine ⟨?_,?_,?_,?_⟩
  · change s.outstanding.erase (reply,0) = []
    rw [hout,List.erase_cons_head]
  · change (processDataPacket env s.client data).1.m_replies.value 0 = none
    rw [hclient]
    exact (QHash.value_remove _ _ _).trans (if_pos rfl)
  · change s.finished ++ finishes (processDataPacket env s.client data) = _
    rw [hfinishes,h.finished]
    rfl
  · change (s.answers ++ [(reply,response)]).map Prod.fst =
      List.range (processDataPacket env s.client data).1.created
    rw [hclient]
    change _ = List.range s.client.created
    rw [hcreated,List.range_succ,List.map_append,hanswers]
    rfl

theorem filter_of_range {V : Type} {l : List (Nat × V)} {n : Nat}
    (h : l.map Prod.fst = List.range n) {k : Nat} (hk : k < n) :
    ∃ v, l.filter (fun e => e.1 = k) = [(k,v)] ∧ (k,v) ∈ l := by
  induction n generalizing l with
  | zero => exact absurd hk (Nat.not_lt_zero k)
  | succ n ih =>
    rw [List.range_succ] at h
    obtain ⟨init,last,rfl,hinit,hlast⟩ := List.map_eq_append_iff.mp h
    obtain ⟨⟨m,v⟩,rfl,hm⟩ := List.map_eq_singleton_iff.mp hlast
    change m = n at hm
    subst hm
    by_cases he : k = m
    · subst he
      refine ⟨v,?_,by simp⟩
      have hnone : init.filter (fun e => e.1 = k) = [] := by
        rw [List.filter_eq_nil_iff]
        intro e hm he
        have hin : e.1 ∈ init.map Prod.fst := List.mem_map_of_mem hm
        rw [hinit,List.mem_range,of_decide_eq_true he] at hin
        exact absurd hin (Nat.lt_irrefl k)
      rw [List.filter_append,hnone]
      simp
    · obtain ⟨w,hw,hmem⟩ := ih hinit (by omega)
      refine ⟨w,?_,List.mem_append_left _ hmem⟩
      rw [List.filter_append,hw]
      simp [Ne.symm he]

theorem Idle.correlated (hs : Sound s) (h : Idle s) : Correlated s := by
  refine ⟨?_,fun reply hr => ?_⟩
  · rw [List.eq_nil_iff_forall_not_mem]
    intro k hk
    obtain ⟨v,hv⟩ := (QHash.mem_keys _ _).mp hk
    by_cases h0 : k = 0
    · rw [h0,h.replies] at hv
      exact absurd hv (by simp)
    · rw [hs.onlyZero.others k h0] at hv
      exact absurd hv (by simp)
  · rw [h.finished]
    exact filter_of_range h.answers hr

end Clean

theorem correlated_iff_from (hs : Sound s) (h : Idle s ∨ Busy s) {events : List Event}
    (hv : ValidRun env s events) (hdone : (s.run env events).outstanding = []) :
    Correlated (s.run env events) ↔ Sequential env s events := by
  induction events generalizing s with
  | nil =>
    rcases h with h | h
    · exact iff_of_true (h.correlated hs) trivial
    · obtain ⟨reply,hout,-⟩ := h.outstanding
      rw [run,List.foldl_nil,hout] at hdone
      exact absurd hdone (by simp)
  | cons e events ih =>
    have hrest := ih (hs.step env e)
    cases e with
    | call request =>
      rcases h with h | h
      · refine (hrest (.inr (h.call hs request)) hv.2 hdone).trans ?_
        exact (and_iff_right fun _ _ => h.outstanding).symm
      · obtain ⟨reply,hout,-⟩ := h.outstanding
        refine iff_of_false (fun hc => ?_) fun hseq => ?_
        · exact hc.not_lost ((h.lost hs request).run (hs.step env _) hv.2)
        · have hnil := hseq.1 request rfl
          rw [hout] at hnil
          exact absurd hnil (by simp)
    | respond reply commandId data response =>
      rcases h with h | h
      · have hm := hv.1.1
        rw [h.outstanding] at hm
        exact absurd hm (by simp)
      · refine (hrest (.inl (h.respond hv.1)) hv.2 hdone).trans ?_
        exact (and_iff_right fun _ he => absurd he (by simp)).symm

theorem idle_new : Sound new ∧ Idle new :=
  ⟨⟨⟨rfl,fun k _ => QHash.value_empty k⟩,fun e he => absurd he (by simp [new])⟩,
    rfl,QHash.value_empty 0,rfl,rfl⟩

/-- In a run at whose end nothing is outstanding, every reply has finished once with the response to
its own request exactly when no two calls were outstanding at once. -/
theorem correlated_iff_sequential {events : List Event} (hv : ValidRun env new events)
    (hdone : (new.run env events).outstanding = []) :
    Correlated (new.run env events) ↔ Sequential env new events :=
  correlated_iff_from idle_new.1 (.inl idle_new.2) hv hdone

section Run

def disconnectResponse : QVariantMap :=
  [("id",.number 0 0),("params",.map [("tunnelProxyError",.string "TunnelProxyErrorNoError")]),
    ("status",.string "success")]

def pingResponse : QVariantMap :=
  [("id",.number 0 0),("params",.map [("timestamp",.number 7 0)]),("status",.string "success")]

def answer (reply : Nat) (response : QVariantMap) : Event :=
  .respond reply 0 (QJsonDocument.toJson (.map response)) response

theorem correlated_iff_sequential_two :
    Correlated (new.run (Qt.onDocuments [disconnectResponse,pingResponse])
        [.call (.disconnectClient 5),answer 0 disconnectResponse,.call (.ping 7),
          answer 1 pingResponse]) ↔
      Sequential (Qt.onDocuments [disconnectResponse,pingResponse]) new
        [.call (.disconnectClient 5),answer 0 disconnectResponse,.call (.ping 7),
          answer 1 pingResponse] :=
  correlated_iff_sequential ⟨trivial,⟨by decide,rfl,rfl⟩,trivial,⟨by decide,rfl,rfl⟩,trivial⟩ rfl

theorem overlapping_calls_lost :
    ValidRun (Qt.onDocuments [disconnectResponse,pingResponse]) new
      [.call (.disconnectClient 5),.call (.ping 7),answer 0 disconnectResponse,
        answer 1 pingResponse] ∧
    (new.run (Qt.onDocuments [disconnectResponse,pingResponse])
      [.call (.disconnectClient 5),.call (.ping 7),answer 0 disconnectResponse,
        answer 1 pingResponse]).outstanding = [] ∧
    ¬Correlated (new.run (Qt.onDocuments [disconnectResponse,pingResponse])
      [.call (.disconnectClient 5),.call (.ping 7),answer 0 disconnectResponse,
        answer 1 pingResponse]) := by
  refine ⟨⟨trivial,trivial,⟨by decide,rfl,rfl⟩,⟨by decide,rfl,rfl⟩,trivial⟩,rfl,fun h => ?_⟩
  obtain ⟨response,hf,-⟩ := h.finished 0 (by decide)
  have hlen := (congrArg List.length hf).trans List.length_singleton
  exact absurd hlen (by decide +kernel)

end Run

end Exchange

end RemoteProxy
