import RemoteProxy.Foundation.Conduits
import RemoteProxy.Library.Uplink
import RemoteProxy.Proxy.Effects
import RemoteProxy.Proxy.ServerStream

namespace RemoteProxy

/-- The data that are passed up in the name of the client whose uuid reads `clientUuid`. -/
def Message.dataOf (env : Environment) (clientUuid : String) : Message → Option QByteArray
  | .tunnelData uuid _ data => if env.uuidToString uuid = clientUuid then some data else none
  | _ => none

/-- A frame of client data: its address, in whose name it is sent, and what it carries. -/
abbrev ClientData := UInt16 × QUuid × QByteArray

def Message.clientData : Message → Option ClientData
  | .tunnelData clientUuid socketAddress data => some (socketAddress,clientUuid,data)
  | _ => none

def ClientData.of (env : Environment) (clientUuid : String) : ClientData → Option QByteArray
  | (_,uuid,data) => if env.uuidToString uuid = clientUuid then some data else none

theorem Message.dataOf_eq (env : Environment) (clientUuid : String) (message : Message) :
    message.dataOf env clientUuid = message.clientData.bind (ClientData.of env clientUuid) := by
  cases message with
  | tunnelData => rfl
  | _ => rfl

namespace TunnelProxyServer

variable {env : Environment} {up : Prop} {host o : ObjectId} {clientUuid : String}
  {s s' : TunnelProxyServer}

def Output.mute : Output → Prop
  | .sent _ (.tunnelData ..) _ => False
  | _ => True

def clientDataTo (s : TunnelProxyServer) (host : ObjectId) : List ClientData :=
  (messagesTo s host).filterMap Message.clientData

def clientDataFrom (host : ObjectId) (s : TunnelProxyServer) : Event → List ClientData
  | .dataAvailable o data =>
    if (s.clientConnection o).m_serverConnection = some host then
      [((s.clientConnection o).m_socketAddress,(s.client o).m_uuid,data)]
    else []
  | _ => []

def passed (env : Environment) (host : ObjectId) (clientUuid : String) (s : TunnelProxyServer) :
    List QByteArray :=
  (messagesTo s host).filterMap (Message.dataOf env clientUuid)

/-- The data that come from the client with that uuid while it is attached to the server. -/
def offered (env : Environment) (host : ObjectId) (clientUuid : String) (s : TunnelProxyServer) :
    Event → List QByteArray
  | .dataAvailable o data =>
    if Uplink.Attached s host o ∧ env.uuidToString (s.client o).m_uuid = clientUuid then [data]
    else []
  | _ => []

theorem clientDataTo_more {new : List Output} (hout : s'.output = s.output ++ new) :
    clientDataTo s' host = clientDataTo s host ++
      (new.filterMap (messageTo host)).filterMap Message.clientData := by
  rw [clientDataTo,messagesTo,hout,List.filterMap_append,List.filterMap_append]
  rfl

theorem clientDataTo_mute {new : List Output} (hout : s'.output = s.output ++ new)
    (hmute : ∀ x ∈ new, Output.mute x) : clientDataTo s' host = clientDataTo s host := by
  rw [clientDataTo_more hout]
  have hnone : (new.filterMap (messageTo host)).filterMap Message.clientData = [] := by
    refine List.filterMap_eq_nil_iff.mpr fun message hm => ?_
    obtain ⟨x,hx,hmessage⟩ := List.mem_filterMap.mp hm
    have hx := hmute x hx
    cases x with
    | sent y m data =>
      simp only [messageTo] at hmessage
      split at hmessage
      · obtain rfl := Option.some.inj hmessage
        cases m with
        | tunnelData => exact hx.elim
        | _ => rfl
      · cases hmessage
    | killed => cases hmessage
    | assertFailed => cases hmessage
  rw [hnone,List.append_nil]

theorem mute_of_quiet {x : Output} (hx : Output.quiet x) : Output.mute x := by
  cases x with
  | sent y m data =>
    cases m with
    | tunnelData => exact hx.elim
    | _ => trivial
  | _ => trivial

section Effects

theorem effect_mute (hup : ¬up) (hw : Effect env up s s') :
    ∃ new, s'.output = s.output ++ new ∧ ∀ x ∈ new, Output.mute x := by
  have hsilent : ∀ {t : TunnelProxyServer}, t.output = s.output →
      ∃ new, t.output = s.output ++ new ∧ ∀ x ∈ new, Output.mute x :=
    fun ht => ⟨[],ht.trans (List.append_nil _).symm,by simp⟩
  have hone : ∀ {t : TunnelProxyServer} {x : Output}, t.output = s.output ++ [x] →
      Output.mute x → ∃ new, t.output = s.output ++ new ∧ ∀ x ∈ new, Output.mute x :=
    fun ht hx => ⟨_,ht,fun _ hy => List.mem_singleton.mp hy ▸ hx⟩
  cases hw with
  | tables hs => exact hsilent hs.output
  | processed _ => exact hsilent rfl
  | overflowed => exact hone rfl trivial
  | doomed => exact hsilent rfl
  | registered _ _ => exact hsilent rfl
  | slipRequested => exact hsilent rfl
  | slipEnabled => exact hsilent rfl
  | timedOut => exact hone rfl trivial
  | @answered _ m hm =>
    refine hone rfl ?_
    cases m with
    | tunnelData => cases hm
    | _ => trivial
  | notified => exact hone rfl trivial
  | passedUp h => exact absurd h hup
  | passedDown _ => exact hone rfl trivial
  | asserted _ => exact hone rfl trivial
  | killRequested => exact hone rfl trivial

theorem effects_clientDataTo (hup : ¬up) (hw : Effects env up s s') :
    clientDataTo s' host = clientDataTo s host := by
  induction hw with
  | refl => rfl
  | tail _ hw ih =>
    obtain ⟨new,hout,hmute⟩ := effect_mute hup hw
    exact (clientDataTo_mute hout hmute).trans ih

end Effects

section Run

theorem received_clientDataTo (s : TunnelProxyServer) (o : ObjectId) (data : QByteArray) :
    clientDataTo (s.received o data) host = clientDataTo s host := rfl

theorem client_clientDataTo (hc : Consistent [] s) (hlive : s.live o) (hclient : s.isClient o)
    (data : QByteArray) :
    clientDataTo (onClientDataAvailable env s o data) host =
      clientDataTo s host ++ clientDataFrom host s (.dataAvailable o data) := by
  have hown := received_own (X := o) s data
  have hclient' : (s.received o data).isClient o := (hown.same.isClient_iff o).mpr hclient
  have hitems : (s.received o data).items o data = [.payload data] := if_pos hclient'
  have hbuffered : (s.received o data).buffered env o data = s.received o data := if_pos hclient'
  have htunnelled : onClientDataAvailable env s o data =
      (s.received o data).tunnelToServer o data := by
    rw [onClientDataAvailable_eq env hlive,hitems,hbuffered]
    rfl
  have hto := congrFun hown.same.clientConnection o
  rw [htunnelled]
  rcases tunnelToServer_eq (hc.congr hown.same) ((hown.same.live_iff o).mpr hlive) hclient' data with
    ⟨hnone,hown'⟩ | ⟨server,hserver,hout⟩
  · obtain ⟨new,hout,hquiet⟩ := hown'.output
    have hmute : ∀ x ∈ new, Output.mute x := fun x hx => mute_of_quiet (hquiet x hx).1
    have hfree : (s.clientConnection o).m_serverConnection ≠ some host := by
      rw [← hto,hnone]
      simp
    rw [clientDataTo_mute hout hmute,received_clientDataTo,clientDataFrom,if_neg hfree,
      List.append_nil]
  · have hsome : (s.clientConnection o).m_serverConnection = some server := hto ▸ hserver
    rw [clientDataTo_more hout,received_clientDataTo]
    refine congrArg (clientDataTo s host ++ ·) ?_
    have haddress : ((s.received o data).clientConnection o).m_socketAddress =
        (s.clientConnection o).m_socketAddress := by rw [hto]
    by_cases hhost : server = host
    · simp [clientDataFrom,messageTo,Message.clientData,hhost,hsome,hown.same.uuid,haddress]
    · simp [clientDataFrom,messageTo,hhost,hsome]

theorem step_clientDataTo (hc : Consistent [] s) {event : Event} (hfresh : s.Fresh event) :
    clientDataTo (s.step env event) host =
      clientDataTo s host ++ clientDataFrom host s event := by
  by_cases hclient : ∃ o data, event = .dataAvailable o data ∧ s.live o ∧ s.isClient o
  · obtain ⟨o,data,rfl,hlive,hclient⟩ := hclient
    exact client_clientDataTo hc hlive hclient data
  · have hnothing : clientDataFrom host s event = [] := by
      cases event with
      | dataAvailable o data =>
        refine if_neg fun h => hclient ?_
        obtain ⟨hlive,hisClient,-⟩ := hc.attached o host h
        exact ⟨o,data,rfl,hlive,hisClient⟩
      | _ => rfl
    have hstep := stepped env hc hfresh
    generalize s.step env event = t at hstep
    rw [hnothing,List.append_nil]
    cases hstep with
    | admitted => rfl
    | @received o data _ hlive hw =>
      have hsilent : ¬s.isClient o := fun h => hclient ⟨o,data,rfl,hlive,h⟩
      exact (effects_clientDataTo hsilent hw).trans (received_clientDataTo s o data)
    | ignored => rfl
    | left hw => exact effects_clientDataTo not_false hw
    | timedOut hw => exact effects_clientDataTo not_false hw
    | elapsed => rfl

variable (host) in
theorem run_clientDataTo (hr : Reachable env s) {events : List Event}
    (hfresh : FreshRun env s events) :
    clientDataTo (s.run env events) host = clientDataTo s host ++
      Conduit.along (step env) (clientDataFrom host) s events := by
  induction events generalizing s with
  | nil => exact (List.append_nil _).symm
  | cons event events ih =>
    have hone : clientDataTo (s.step env event) host =
        clientDataTo s host ++ clientDataFrom host s event :=
      step_clientDataTo (reachable_consistent hr) hfresh.1
    have hrest := ih (hr.step hfresh.1) hfresh.2
    rw [Conduit.along,← List.append_assoc,← hone]
    exact hrest

theorem passed_eq (s : TunnelProxyServer) : passed env host clientUuid s =
    (clientDataTo s host).filterMap (ClientData.of env clientUuid) := by
  rw [passed,clientDataTo,List.filterMap_filterMap]
  exact List.filterMap_congr fun message _ => Message.dataOf_eq env clientUuid message

theorem offered_eq (hc : Consistent [] s) (event : Event) : offered env host clientUuid s event =
    (clientDataFrom host s event).filterMap (ClientData.of env clientUuid) := by
  cases event with
  | dataAvailable o data =>
    have hattached : Uplink.Attached s host o ↔
        (s.clientConnection o).m_serverConnection = some host := by
      refine ⟨fun ha => ha.attached,fun hto => ?_⟩
      obtain ⟨hlive,hclient,-⟩ := hc.attached o host hto
      exact ⟨hlive,hclient,hto⟩
    simp only [offered,clientDataFrom,hattached]
    by_cases hto : (s.clientConnection o).m_serverConnection = some host
    · by_cases huuid : env.uuidToString (s.client o).m_uuid = clientUuid
      · simp [ClientData.of,hto,huuid]
      · simp [ClientData.of,hto,huuid]
    · simp [hto]
  | _ => rfl

theorem run_passed (hr : Reachable env s) {events : List Event} (hfresh : FreshRun env s events) :
    passed env host clientUuid (s.run env events) = passed env host clientUuid s ++
      Conduit.along (step env) (offered env host clientUuid) s events := by
  induction events generalizing s with
  | nil => exact (List.append_nil _).symm
  | cons event events ih =>
    have hone : passed env host clientUuid (s.step env event) =
        passed env host clientUuid s ++ offered env host clientUuid s event := by
      have hc := reachable_consistent hr
      rw [passed_eq,passed_eq,offered_eq hc,step_clientDataTo hc hfresh.1,List.filterMap_append]
    have hrest := ih (hr.step hfresh.1) hfresh.2
    rw [Conduit.along,← List.append_assoc,← hone]
    exact hrest

end Run

end TunnelProxyServer

end RemoteProxy
