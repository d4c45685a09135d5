import RemoteProxy.Proxy.FailedRequests

namespace RemoteProxy.TunnelProxyServer

open JsonRpcServer

variable {env : Environment} {o S : ObjectId} {s s' t : TunnelProxyServer}

def Output.victim? : Output → Option ObjectId
  | .killed o _ => some o
  | _ => none

def kills (s : TunnelProxyServer) : List ObjectId := s.output.filterMap Output.victim?

section Kills

theorem kills_append {new : List Output} (hout : s'.output = s.output ++ new) :
    s'.kills = s.kills ++ new.filterMap Output.victim? := by
  rw [kills,hout,List.filterMap_append]
  rfl

theorem kills_spared {x : Output} (hout : s'.output = s.output ++ [x])
    (hx : Output.victim? x = none) : s'.kills = s.kills := by
  rw [kills_append hout]
  simp [hx]

theorem kills_assertX (s : TunnelProxyServer) (condition : Bool) (place what : String) :
    (s.assertX condition place what).kills = s.kills := by
  rw [TunnelProxyServer.assertX]
  split
  · rfl
  · exact kills_spared rfl rfl

theorem kills_sendMessage (env : Environment) (s : TunnelProxyServer) (o : ObjectId)
    (m : Message) : (sendMessage env s o m).kills = s.kills :=
  kills_spared (x := .sent o m _) rfl rfl

theorem kills_requestKill (s : TunnelProxyServer) (o : ObjectId) (reason : String) :
    (s.requestKill o reason).kills = s.kills ++ [o] :=
  kills_append (show (s.requestKill o reason).output = s.output ++ [.killed o reason] from rfl)

theorem kills_client (hc : Consistent [] s) (hlive : s.live o) (hclient : s.isClient o)
    (reason : String) : (killConnection env s o reason).kills = s.kills ++ [o] := by
  have hc' : Consistent [] (s.requestKill o reason) := hc.congr (quiet_requestKill s o reason).same
  have hlive' : (s.requestKill o reason).live o := hlive
  have hclient' : (s.requestKill o reason).isClient o := hclient
  simp only [killConnection,killConnectionWith]
  rw [show ({ s.emit (.killed o reason) with killCount := s.killCount + 1 } : TunnelProxyServer) =
    s.requestKill o reason from rfl]
  rw [← kills_requestKill s o reason]
  generalize s.requestKill o reason = t at hc' hlive' hclient'
  split
  · rw [onClientDisconnected]
    cases t.m_proxyClients.entries.length with
    | zero => rfl
    | succ fuel =>
      rw [within_client env hc' hlive' hclient' fuel,kills,(unregisterClient_rest _ o).2]
      cases (t.clientConnection o).m_serverConnection with
      | none => rfl
      | some server => exact kills_spared (x := .sent _ _ _) rfl rfl
  · rfl

theorem kills_killed (env : Environment) (s : TunnelProxyServer) (o : ObjectId)
    (reason : String) :
    ∃ others, (killConnection env s o reason).kills = s.kills ++ o :: others := by
  simp only [killConnection,killConnectionWith]
  rw [show ({ s.emit (.killed o reason) with killCount := s.killCount + 1 } : TunnelProxyServer) =
    s.requestKill o reason from rfl]
  split
  · obtain ⟨new,hnew,-⟩ :=
      ((unanswered_leaving env).onClientDisconnectedWithin _ (s.requestKill o reason) o).extended
    refine ⟨new.filterMap Output.victim?,?_⟩
    rw [onClientDisconnected,kills_append hnew,kills_requestKill,List.append_assoc]
    rfl
  · exact ⟨[],kills_requestKill s o reason⟩

end Kills

section Request

/-- The request of `S` for the address `v` has the client attached to `S` under `v` killed and nobody
else, or there is no such client and it is told so. -/
def HitsNamed (env : Environment) (s : TunnelProxyServer) (S : ObjectId) (data : QByteArray)
    (v : Nat) : Prop :=
  (∃ x, (s.clientConnection x).m_serverConnection = some S ∧
    (s.clientConnection x).m_socketAddress.toNat = v ∧
      (processDataPacket env s S data).kills = s.kills ++ [x]) ∨
  ((∀ x, (s.clientConnection x).m_serverConnection = some S →
      (s.clientConnection x).m_socketAddress.toNat ≠ v) ∧
    (processDataPacket env s S data).kills = s.kills ∧
      AnsweredWith env s S data fun m =>
        ∃ commandId, m = .response commandId (Handlers.errorResponse .UnknownSocketAddress))

/-- `S` is not about to be killed itself, and what its table holds under `v` cut to 16 bits is what
it holds under `v`. -/
structure Addressable (s : TunnelProxyServer) (S : ObjectId) (v : Nat) : Prop where
  unkilled : (s.client S).m_killConnectionRequested = false
  entered : v < 65536 → (∃ x, (s.clientConnection x).m_serverConnection = some S ∧
    (s.clientConnection x).m_socketAddress.toNat = v) →
      ((s.serverConnection S).getClientConnection (UInt16.ofNat v)).isSome = true
  wrapped : 65536 ≤ v → (s.serverConnection S).getClientConnection (UInt16.ofNat v) = none

theorem finishCall_kills (env : Environment) (s : TunnelProxyServer) (o : ObjectId)
    (commandId : Int) (data : QVariantMap) :
    ∃ killed, (finishCall env s o commandId data).kills = s.kills ++ killed ∧
      ((s.client o).m_killConnectionRequested = false → killed = []) ∧
      ((s.client o).m_killConnectionRequested = true → o ∈ killed) := by
  have hk : Kept s (sendResponse env s o commandId data) := Kept.sendData _ _ _ _
  have hrequested : ((sendResponse env s o commandId data).client o).m_killConnectionRequested =
      (s.client o).m_killConnectionRequested := by
    rw [hk.client o]
  have hsent := kills_sendMessage env s o (.response commandId data)
  simp only [finishCall,hrequested]
  split
  · next h =>
    obtain ⟨others,hothers⟩ := kills_killed env (sendResponse env s o commandId data) o
      ((sendResponse env s o commandId data).client o).m_killConnectionReason
    refine ⟨o :: others,?_,fun hfalse => ?_,fun _ => List.mem_cons_self⟩
    · rw [hothers,← hsent]
      rfl
    · rw [h] at hfalse
      cases hfalse
  · next h =>
    refine ⟨[],?_,fun _ => rfl,fun htrue => absurd htrue h⟩
    rw [List.append_nil,← hsent]
    split
    · rfl
    · rfl

theorem request_kills (hc : Consistent [] s) (hlive : s.live S) (hserver : s.isServer S)
    {data : QByteArray} {r : Request} (hr : JsonRpcServer.request env data = some r)
    (hnamespace : r.targetNamespace = "TunnelProxy") (hname : r.method = "DisconnectClient") :
    ∃ killed, (processDataPacket env s S data).kills =
        s.kills ++ ((s.serverConnection S).getClientConnection
          (UInt16.ofNat (env.toUInt (r.params.value "socketAddress")))).toList ++ killed ∧
      ((s.client S).m_killConnectionRequested = false → killed = []) ∧
      ((s.client S).m_killConnectionRequested = true → S ∈ killed) := by
  have hm : Handlers.method? env r.targetNamespace r.method =
      some (Handlers.DisconnectClient env) := by
    rw [hnamespace,hname]
    rfl
  have hmethod : (Handlers.DisconnectClient env s r.params S).1.kills =
        s.kills ++ ((s.serverConnection S).getClientConnection
          (UInt16.ofNat (env.toUInt (r.params.value "socketAddress")))).toList ∧
      Kept s (Handlers.DisconnectClient env s r.params S).1 := by
    simp only [Handlers.DisconnectClient]
    rw [disconnectClient_found hc hlive hserver]
    cases hfound : (s.serverConnection S).getClientConnection
      (UInt16.ofNat (env.toUInt (r.params.value "socketAddress"))) with
    | none => exact ⟨(List.append_nil _).symm,Kept.refl s⟩
    | some x =>
      obtain ⟨hl,hcl,-⟩ := hc.addressed S _ x ⟨hserver,.inl hlive⟩ hfound
      exact ⟨kills_client hc hl hcl _,killConnection_kept env s x _⟩
  rw [processDataPacket_request hr]
  simp only [JsonRpcServer.invoke,invokeMethod,hm]
  generalize hasserted : (Handlers.DisconnectClient env s r.params S).1.assertX _ _ _ = t
  have ht : Kept s t := by
    rw [← hasserted]
    exact hmethod.2.trans (Kept.assertX _ _ _ _)
  have hkills : t.kills = (Handlers.DisconnectClient env s r.params S).1.kills := by
    rw [← hasserted]
    exact kills_assertX _ _ _ _
  have hrequested : (t.client S).m_killConnectionRequested =
      (s.client S).m_killConnectionRequested := by
    rw [ht.client S]
  obtain ⟨killed,hfinish,hnone,hself⟩ := finishCall_kills env t S r.commandId
    (Handlers.DisconnectClient env s r.params S).2
  rw [hrequested] at hnone hself
  exact ⟨killed,by rw [hfinish,hkills,hmethod.1],hnone,hself⟩

theorem hitsNamed_iff (hc : Consistent [] s) (hlive : s.live S) (hserver : s.isServer S)
    {data : QByteArray} {r : Request} (hr : JsonRpcServer.request env data = some r)
    (hnamespace : r.targetNamespace = "TunnelProxy") (hname : r.method = "DisconnectClient") :
    HitsNamed env s S data (env.toUInt (r.params.value "socketAddress")) ↔
      Addressable s S (env.toUInt (r.params.value "socketAddress")) := by
  have hm : Handlers.method? env r.targetNamespace r.method =
      some (Handlers.DisconnectClient env) := by
    rw [hnamespace,hname]
    rfl
  obtain ⟨killed,hkills,hnone,hself⟩ := request_kills hc hlive hserver hr hnamespace hname
  have hreply : (Handlers.DisconnectClient env s r.params S).2 = Handlers.errorResponse
      (disconnectClient env s S
        (UInt16.ofNat (env.toUInt (r.params.value "socketAddress")))).2 := rfl
  rw [disconnectClient_found hc hlive hserver] at hreply
  generalize env.toUInt (r.params.value "socketAddress") = v at *
  have haddressed := fun x => hc.addressed S (UInt16.ofNat v) x ⟨hserver,.inl hlive⟩
  have hsmall : ∀ x, (s.clientConnection x).m_socketAddress.toNat = v → v < 65536 :=
    fun x hx => hx ▸ (s.clientConnection x).m_socketAddress.toNat_lt
  rw [List.append_assoc] at hkills
  constructor
  · rintro (⟨x,hto,hv,hx⟩ | ⟨hnobody,hx,-⟩)
    · rw [hkills,List.append_cancel_left_eq] at hx
      have hother : S ∉ killed := by
        intro hmem
        have hmem : S ∈ [x] := hx ▸ List.mem_append_right _ hmem
        obtain rfl := List.mem_singleton.mp hmem
        have hclient := (hc.attached S S hto).2.1
        cases (show (s.client S).m_type = .TypeServer from hserver).symm.trans hclient
      have hunkilled : (s.client S).m_killConnectionRequested = false :=
        Bool.eq_false_iff.mpr fun htrue => hother (hself htrue)
      rw [hnone hunkilled,List.append_nil] at hx
      refine ⟨hunkilled,fun _ _ => ?_,fun hbig => absurd (hsmall x hv) (Nat.not_lt.mpr hbig)⟩
      rw [Option.toList_eq_singleton_iff.mp hx]
      rfl
    · rw [hkills,List.append_right_eq_self,List.append_eq_nil_iff] at hx
      have hunkilled : (s.client S).m_killConnectionRequested = false := by
        refine Bool.eq_false_iff.mpr fun htrue => ?_
        have hmem := hself htrue
        rw [hx.2] at hmem
        cases hmem
      refine ⟨hunkilled,?_,fun _ => Option.toList_eq_nil_iff.mp hx.1⟩
      rintro - ⟨x,hto,hv⟩
      exact absurd hv (hnobody x hto)
  · intro h
    rw [hnone h.unkilled,List.append_nil] at hkills
    cases hfound : (s.serverConnection S).getClientConnection (UInt16.ofNat v) with
    | none =>
      rw [hfound] at hkills hreply
      refine .inr ⟨fun x hto hv => ?_,?_,(answeredWith_iff hr hm _).mpr ⟨r.commandId,?_⟩⟩
      · have hsome := h.entered (hsmall x hv) ⟨x,hto,hv⟩
        rw [hfound] at hsome
        cases hsome
      · rw [hkills]
        exact List.append_nil _
      · rw [hreply]
    | some x =>
      rw [hfound] at hkills
      obtain ⟨-,-,hto,haddress⟩ := haddressed x hfound
      have hlt : v < 65536 := by
        by_contra hbig
        rw [h.wrapped (Nat.not_lt.mp hbig)] at hfound
        cases hfound
      refine .inl ⟨x,hto,?_,hkills⟩
      rw [haddress]
      exact UInt16.toNat_ofNat_of_lt hlt

/-- What becomes of a packet of `S` that is a request to disconnect a client. -/
def RequestHits (env : Environment) (s : TunnelProxyServer) (S : ObjectId) (data : QByteArray) :
    Prop :=
  ∀ r, JsonRpcServer.request env data = some r → r.targetNamespace = "TunnelProxy" →
    r.method = "DisconnectClient" → s.live S → s.isServer S →
      (HitsNamed env s S data (env.toUInt (r.params.value "socketAddress")) ↔
        Addressable s S (env.toUInt (r.params.value "socketAddress")))

/-- A request hits the client it names, and nobody else, exactly if its address is one that fits. -/
theorem disconnectClient_hits_iff {events : List Event} (hfresh : FreshRun env new events) :
    EveryItem env (fun t x item => ∀ data, Item.request? item = some data →
        RequestHits env t x data) new events ∧
      ∀ x data, RequestHits env (new.run env events) x data := by
  have hc := reachable_consistent (Reachable.new.run hfresh)
  refine ⟨run_everyItem ?_ Reachable.new hfresh,fun x data r hr hnamespace hname hlive hserver =>
    hitsNamed_iff hc hlive hserver hr hnamespace hname⟩
  intro t x item ht _ data _ r hr hnamespace hname hlive hserver
  exact hitsNamed_iff ht hlive hserver hr hnamespace hname

end Request

section Sample

def disconnectClientRequest (v : Nat) : QVariantMap :=
  [("id",.ofNat 1),("method",.string "TunnelProxy.DisconnectClient"),
    ("params",.map [("socketAddress",.ofNat v)])]

def disconnectingEnvironment : Environment :=
  { sampleEnvironment false with
    toQt := Qt.onDocuments [registerServerRequest,registerClientRequest,disconnectClientRequest 1,
      disconnectClientRequest 65537] }

def servingEvents : List Event :=
  [.clientConnected ⟨1⟩ "10.0.0.1",.clientConnected ⟨2⟩ "10.0.0.2",
    .dataAvailable ⟨1⟩ (request false registerServerRequest),
    .dataAvailable ⟨2⟩ (request false registerClientRequest)]

def serving : TunnelProxyServer := new.run disconnectingEnvironment servingEvents

theorem disconnectClient_hits_iff_sample :
    EveryItem disconnectingEnvironment (fun t x item => ∀ data, Item.request? item = some data →
        RequestHits disconnectingEnvironment t x data) new servingEvents ∧
      ∀ x data, RequestHits disconnectingEnvironment
        (new.run disconnectingEnvironment servingEvents) x data :=
  disconnectClient_hits_iff (by decide +kernel)

theorem wrapped_address_hits :
    FreshRun disconnectingEnvironment new servingEvents ∧ serving.live ⟨1⟩ ∧
      serving.isServer ⟨1⟩ ∧
      (∃ r, JsonRpcServer.request disconnectingEnvironment
          (request false (disconnectClientRequest 65537)) = some r ∧
        r.targetNamespace = "TunnelProxy" ∧ r.method = "DisconnectClient" ∧
          disconnectingEnvironment.toUInt (r.params.value "socketAddress") = 65537) ∧
      (serving.clientConnection ⟨2⟩).m_socketAddress = 1 ∧
      (processDataPacket disconnectingEnvironment serving ⟨1⟩
        (request false (disconnectClientRequest 65537))).kills = [⟨2⟩] ∧
      ¬HitsNamed disconnectingEnvironment serving ⟨1⟩
        (request false (disconnectClientRequest 65537)) 65537 := by
  have hlive : serving.m_proxyClients.value ⟨1⟩ = some ⟨1⟩ := by decide +kernel
  have hserver : (serving.client ⟨1⟩).m_type = .TypeServer := by decide +kernel
  refine ⟨by decide +kernel,hlive,hserver,
    ⟨(JsonRpcServer.request disconnectingEnvironment
      (request false (disconnectClientRequest 65537))).get (by decide +kernel),
      (Option.some_get _).symm,by decide +kernel,by decide +kernel,by decide +kernel⟩,
    by decide +kernel,by decide +kernel,?_⟩
  rintro (⟨x,-,hv,-⟩ | ⟨-,hkills,-⟩)
  · have hlt := (serving.clientConnection x).m_socketAddress.toNat_lt
    omega
  · exact absurd hkills (by decide +kernel)

end Sample

end RemoteProxy.TunnelProxyServer
