import RemoteProxy.Library.Network

namespace RemoteProxy.ServerConnection

open SlipDataProcessor TunnelProxyServer Uplink

variable (env : Environment) (host : ObjectId)

def echoOf : TunnelProxySocketServer.Output → Option Frame
  | .dataReceived socket data => some ⟨socket.m_socketAddress,data⟩
  | _ => none

def write (f : Frame) : Network.Event := .writeData f.socketAddress f.data

def echoes (before after : TunnelProxySocketServer) : List Network.Event :=
  ((after.output.drop before.output.length).filterMap echoOf).map write

inductive Event where
  | sendData (client : ObjectId) (data : QByteArray)
  | proxyReads (o : ObjectId) (count : Nat)
  | serverReads (count : Nat)
  | clientReads (client : ObjectId) (count : Nat)

/-- The writes that answer a read go out when it is over, in the order in which they were made. -/
def acts (n : Network) : Event → List Network.Event
  | .sendData client data => [.sendData client data]
  | .proxyReads o count => [.proxyReads o count]
  | .serverReads count => .serverReads count ::
    echoes n.server (n.step env host (.serverReads count)).server
  | .clientReads client count => [.clientReads client count]

def step (n : Network) (event : Event) : Network :=
  Runs.run (Network.step env host) n (acts env host n event)

def Possible (n : Network) : Event → Prop
  | .sendData client data => Uplink.Attached n.m_tunnelProxyServer host client ∧
    Stuffing.Clean alphabet data
  | .proxyReads o _ => o = host ∨ Uplink.Attached n.m_tunnelProxyServer host o
  | .serverReads _ => True
  | .clientReads client _ => Uplink.Attached n.m_tunnelProxyServer host client

instance decidablePossible (n : Network) : (event : Event) → Decidable (Possible host n event)
  | .sendData _ _ => inferInstanceAs (Decidable (_ ∧ _))
  | .proxyReads o _ =>
    inferInstanceAs (Decidable (o = host ∨ Uplink.Attached n.m_tunnelProxyServer host o))
  | .serverReads _ => inferInstanceAs (Decidable True)
  | .clientReads client _ =>
    inferInstanceAs (Decidable (Uplink.Attached n.m_tunnelProxyServer host client))

def Event.sentBy (client : ObjectId) : Event → QByteArray
  | .sendData x data => if x = client then data else []
  | _ => []

variable {env host} {n : Network} {s : TunnelProxyServer} {library : TunnelProxySocketServer}
  {client : ObjectId} {a : UInt16}

/-- A tunnel that is used for texts: whatever is echoed, escaping leaves it alone. -/
structure Echoing (env : Environment) (host : ObjectId) (n : Network) : Prop where
  established : n.Established env host
  addresses : ∀ client, Uplink.Attached n.m_tunnelProxyServer host client →
    Stuffing.Clean alphabet (buildFrame ⟨address n.m_tunnelProxyServer client,[]⟩)
  sent : ∀ client, Uplink.Attached n.m_tunnelProxyServer host client →
    Stuffing.Clean alphabet (n.toProxy client)
  pending : ∀ f ∈ n.pendingUp host, Stuffing.Clean alphabet (buildFrame f)

section Frames

theorem clean_buildFrame {data : QByteArray}
    (ha : Stuffing.Clean alphabet (buildFrame ⟨a,[]⟩)) (hd : Stuffing.Clean alphabet data) :
    Stuffing.Clean alphabet (buildFrame ⟨a,data⟩) := by
  have hsplit : buildFrame ⟨a,data⟩ = buildFrame ⟨a,[]⟩ ++ data := rfl
  rw [hsplit]
  exact ⟨fun hm => (List.mem_append.mp hm).elim ha.1 hd.1,
    fun hm => (List.mem_append.mp hm).elim ha.2 hd.2⟩

theorem clean_sublist {data part : QByteArray} (h : Stuffing.Clean alphabet data)
    (hs : part.Sublist data) : Stuffing.Clean alphabet part :=
  ⟨fun hm => h.1 (hs.subset hm),fun hm => h.2 (hs.subset hm)⟩

theorem clean_append {data more : QByteArray} (h : Stuffing.Clean alphabet data)
    (h' : Stuffing.Clean alphabet more) : Stuffing.Clean alphabet (data ++ more) :=
  ⟨fun hm => (List.mem_append.mp hm).elim h.1 h'.1,fun hm => (List.mem_append.mp hm).elim h.2 h'.2⟩

theorem processFrame_echo (qt : Qt) (h : Ready s host library) {f : Frame}
    (hf : Network.Known s host f) : ∃ new,
      (library.processFrame qt f).output = library.output ++ new ∧ new.filterMap echoOf = [f] := by
  obtain ⟨client,ha,he,hne⟩ := hf
  obtain ⟨socket,hsocket,hsame⟩ := h.sockets client ha
  have hvalue : (library.emit (.frameReceived f)).m_tunnelProxySockets.value f.socketAddress =
      some socket := by
    rw [he]
    exact hsocket
  have haddress : socket.m_socketAddress = f.socketAddress := hsame.trans he.symm
  refine ⟨[.frameReceived f,.dataReceived socket f.data],?_,?_⟩
  · simp only [TunnelProxySocketServer.processFrame,if_neg hne,hvalue]
    exact List.append_assoc _ _ _
  · have hone : [TunnelProxySocketServer.Output.frameReceived f,.dataReceived socket f.data].filterMap
        echoOf = [⟨socket.m_socketAddress,f.data⟩] := rfl
    rw [hone,haddress]

theorem processFrames_echo (qt : Qt) (h : Ready s host library) {frames : List Frame}
    (hf : ∀ f ∈ frames, Network.Known s host f) : ∃ new,
      (frames.foldl (TunnelProxySocketServer.processFrame qt) library).output =
        library.output ++ new ∧ new.filterMap echoOf = frames := by
  induction frames generalizing library with
  | nil => exact ⟨[],(List.append_nil _).symm,rfl⟩
  | cons f frames ih =>
    obtain ⟨one,hone,hecho⟩ := processFrame_echo qt h (hf f List.mem_cons_self)
    have hready := (Network.processFrame_known qt h (hf f List.mem_cons_self)).1
    obtain ⟨rest,hrest,hechoes⟩ := ih hready fun f hm => hf f (List.mem_cons_of_mem _ hm)
    refine ⟨one ++ rest,?_,?_⟩
    · rw [List.foldl_cons,hrest,hone,List.append_assoc]
    · rw [List.filterMap_append,hecho,hechoes,List.singleton_append]

theorem read_echoes (qt : Qt) (h : Ready s host library) (data : QByteArray)
    (hf : ∀ f ∈ (TunnelProxySocketServer.reassemble library.m_dataBuffer data).2,
      Network.Known s host f) : ∃ new,
      (library.onConnectionDataAvailable qt data).output = library.output ++ new ∧
        new.filterMap echoOf =
          (TunnelProxySocketServer.reassemble library.m_dataBuffer data).2 := by
  have heq : library.onConnectionDataAvailable qt data =
      TunnelProxySocketServer.slipData qt { library with
        m_keepAliveTimer := library.m_keepAliveTimer.start library.now } data :=
    if_neg (not_not.mpr h.running)
  have hstart : Ready s host { library with
      m_keepAliveTimer := library.m_keepAliveTimer.start library.now } := ⟨h.running,h.sockets⟩
  obtain ⟨new,hnew,hechoes⟩ := processFrames_echo qt hstart hf
  rw [heq,TunnelProxySocketServer.slipData_eq]
  exact ⟨new,hnew,hechoes⟩

end Frames

section Step

/-- The frames have been written, which nobody but the proxy will notice. -/
structure Wrote (env : Environment) (host : ObjectId) (frames : List Frame) (n n' : Network) :
    Prop where
  possible : Runs.Along (Network.step env host) (Network.Possible host) n (frames.map write)
  established : n'.Established env host
  proxy : n'.m_tunnelProxyServer = n.m_tunnelProxyServer
  toProxy : ∀ o, o ≠ host → n'.toProxy o = n.toProxy o
  pendingUp : n'.pendingUp host = n.pendingUp host
  heard : ∀ a, Network.heard a n'.server = Network.heard a n.server

theorem writes_wrote (h : n.Established env host) {frames : List Frame}
    (hknown : ∀ f ∈ frames, Network.Known n.m_tunnelProxyServer host f)
    (hclean : ∀ f ∈ frames, Stuffing.Clean alphabet (buildFrame f)) :
    Wrote env host frames n (Runs.run (Network.step env host) n (frames.map write)) := by
  induction frames generalizing n with
  | nil => exact ⟨trivial,h,rfl,fun _ _ => rfl,rfl,fun _ => rfl⟩
  | cons f frames ih =>
    have hfound := h.address_found (hknown f List.mem_cons_self)
    have hp : n.Possible host (write f) :=
      ⟨Option.isSome_iff_exists.mpr hfound,hclean f List.mem_cons_self⟩
    obtain ⟨-,socket,hstep⟩ := h.written hp
    have hproxy : (n.step env host (write f)).m_tunnelProxyServer = n.m_tunnelProxyServer := by
      rw [write,hstep]
    obtain ⟨hall,hlast,hsame,hto,hpending,hheard⟩ := ih (Network.step_established h hp)
      (fun g hg => hproxy ▸ hknown g (List.mem_cons_of_mem _ hg))
      (fun g hg => hclean g (List.mem_cons_of_mem _ hg))
    refine ⟨⟨hp,hall⟩,hlast,hsame.trans hproxy,fun o ho => ?_,?_,fun a => ?_⟩
    · have hone : (n.step env host (write f)).toProxy o = n.toProxy o := by
        rw [write,hstep]
        exact Function.update_of_ne ho _ _
      exact (hto o ho).trans hone
    · have hone : (n.step env host (write f)).pendingUp host = n.pendingUp host := by
        rw [write,hstep]
        rfl
      exact hpending.trans hone
    · have hone : Network.heard a (n.step env host (write f)).server =
          Network.heard a n.server := by
        rw [write,hstep]
        simp [Network.heard,receivedOn,TunnelProxySocketServer.writeData,
          TunnelProxySocketServer.emit]
      exact (hheard a).trans hone

theorem writtenTo_writes (a : UInt16) (frames : List Frame) :
    (frames.map write).flatMap (Network.Event.writtenTo a) = Network.carried a frames :=
  List.flatMap_map ..

theorem Echoing.of_same {n' : Network} (h : Echoing env host n) (hn : n'.Established env host)
    (hsame : SameRoutes n.m_tunnelProxyServer n'.m_tunnelProxyServer)
    (hsent : ∀ client, Uplink.Attached n.m_tunnelProxyServer host client →
      Stuffing.Clean alphabet (n'.toProxy client))
    (hpending : ∀ f ∈ n'.pendingUp host, Stuffing.Clean alphabet (buildFrame f)) :
    Echoing env host n' := by
  refine ⟨hn,fun client ha => ?_,fun client ha => hsent client (ha.congr hsame.symm),hpending⟩
  rw [address_congr hsame]
  exact h.addresses client (ha.congr hsame.symm)

theorem Echoing.pending_read (h : Echoing env host n) {o : ObjectId}
    (hp : o = host ∨ Uplink.Attached n.m_tunnelProxyServer host o) (count : Nat) :
    ∀ f ∈ (n.proxyReads env o count).pendingUp host, Stuffing.Clean alphabet (buildFrame f) := by
  intro f hf
  rcases hp with rfl | ho
  · have hsame : (n.proxyReads env o count).pendingUp o = n.pendingUp o := by
      rw [Network.pendingUp,(Network.readDown h.established count).unsent]
      rfl
    exact h.pending f (hsame ▸ hf)
  · rw [Network.pendingUp_read h.established ho count] at hf
    rcases List.mem_append.mp hf with hf | hf
    · exact h.pending f hf
    · rw [List.mem_singleton.mp hf]
      exact clean_buildFrame (h.addresses o ho)
        (clean_sublist (h.sent o ho) (List.take_sublist _ _))

/-- What an event of the echo does: the network can do it, the tunnel is used for texts further on,
and the server has written what it has heard. -/
structure Echoes (env : Environment) (host : ObjectId) (n : Network) (event : Event) : Prop where
  possible : Runs.Along (Network.step env host) (Network.Possible host) n (acts env host n event)
  echoing : Echoing env host (step env host n event)
  heard : ∀ a, Network.heard a (step env host n event).server = Network.heard a n.server ++
    (acts env host n event).flatMap (Network.Event.writtenTo a)

theorem serverReads_echoes (h : Echoing env host n) (count : Nat) :
    Echoes env host n (.serverReads count) := by
  have hpending := Network.pendingUp_split n host count
  have hread : n.Possible host (.serverReads count) := trivial
  have hknown : ∀ f ∈ (TunnelProxySocketServer.reassemble n.server.m_dataBuffer
      ((n.fromProxy host).take count)).2, Network.Known n.m_tunnelProxyServer host f :=
    fun f hf => h.established.upKnown f (hpending ▸ List.mem_append_left _ hf)
  have hclean : ∀ f ∈ (TunnelProxySocketServer.reassemble n.server.m_dataBuffer
      ((n.fromProxy host).take count)).2, Stuffing.Clean alphabet (buildFrame f) :=
    fun f hf => h.pending f (hpending ▸ List.mem_append_left _ hf)
  obtain ⟨new,hnew,hechoes⟩ := read_echoes env.toQt h.established.ready _ hknown
  obtain ⟨-,hbuffer,hheard⟩ := Network.onConnectionDataAvailable_known env.toQt
    h.established.ready ((n.fromProxy host).take count) hknown
  have hacts : acts env host n (.serverReads count) = .serverReads count ::
      ((TunnelProxySocketServer.reassemble n.server.m_dataBuffer
        ((n.fromProxy host).take count)).2).map write := by
    simp only [acts,echoes,Network.step,hnew,List.drop_left,hechoes]
  have hwrote := writes_wrote (Network.step_established h.established hread) hknown hclean
  have hstep : step env host n (.serverReads count) =
      Runs.run (Network.step env host) (n.step env host (.serverReads count))
        ((TunnelProxySocketServer.reassemble n.server.m_dataBuffer
          ((n.fromProxy host).take count)).2.map write) := by
    rw [step,hacts]
    rfl
  rw [← hstep] at hwrote
  refine ⟨hacts ▸ ⟨hread,hwrote.possible⟩,?_,fun a => ?_⟩
  · refine h.of_same hwrote.established (hwrote.proxy ▸ .refl _) (fun client ha => ?_) fun f hf => ?_
    · rw [hwrote.toProxy client (Network.attached_ne h.established.serving ha)]
      exact h.sent client ha
    · rw [hwrote.pendingUp] at hf
      refine h.pending f ?_
      rw [hpending]
      refine List.mem_append_right _ ?_
      simpa only [Network.pendingUp,Network.step,hbuffer,Function.update_self] using hf
  · rw [hwrote.heard,hacts,List.flatMap_cons,writtenTo_writes]
    exact hheard a

theorem step_echoes (h : Echoing env host n) {event : Event} (hp : Possible host n event) :
    Echoes env host n event := by
  cases event with
  | sendData client data =>
    have hsend : n.Possible host (.sendData client data) := hp.1
    refine ⟨⟨hsend,trivial⟩,?_,fun a => (List.append_nil _).symm⟩
    refine h.of_same (Network.step_established h.established hsend) (.refl _)
      (fun x hx => ?_) h.pending
    have hx := h.sent x hx
    simp only [step,acts,Runs.run,List.foldl_cons,List.foldl_nil,Network.step,
      Network.sendData_remote h.established hp.1,Network.send,Function.update_apply,if_true]
    split
    · next he => exact clean_append (he ▸ hx) hp.2
    · exact hx
  | proxyReads o count =>
    have hread : n.Possible host (.proxyReads o count) := hp
    refine ⟨⟨hread,trivial⟩,?_,fun a => (List.append_nil _).symm⟩
    refine h.of_same (Network.step_established h.established hread)
      (Network.step_same h.established hread) (fun x hx => ?_) fun f hf => ?_
    · have hrest : (step env host n (.proxyReads o count)).toProxy x =
          if x = o then (n.toProxy o).drop count else n.toProxy x := Function.update_apply ..
      rw [hrest]
      split
      · next he => exact clean_sublist (he ▸ h.sent x hx) (List.drop_sublist _ _)
      · exact h.sent x hx
    · exact h.pending_read hp count f hf
  | serverReads count => exact serverReads_echoes h count
  | clientReads client count =>
    have hread : n.Possible host (.clientReads client count) := hp
    refine ⟨⟨hread,trivial⟩,?_,fun a => (List.append_nil _).symm⟩
    refine h.of_same (Network.step_established h.established hread) (.refl _) h.sent fun f hf => ?_
    have hkept : (step env host n (.clientReads client count)).fromProxy host =
        n.fromProxy host := Function.update_of_ne
          (Network.attached_ne h.established.serving hp).symm _ _
    refine h.pending f ?_
    rw [Network.pendingUp,hkept] at hf
    exact hf

end Step

section Run

abbrev acting (env : Environment) (host : ObjectId) : Network → List Event → List Network.Event :=
  Conduit.along (step env host) (acts env host)

theorem run_acting (n : Network) (events : List Event) :
    Runs.run (Network.step env host) n (acting env host n events) =
      Runs.run (step env host) n events := by
  induction events generalizing n with
  | nil => rfl
  | cons event events ih =>
    rw [acting,Conduit.along,Runs.run_append]
    exact ih (step env host n event)

theorem acting_sentBy (client : ObjectId) (n : Network) (events : List Event) :
    (acting env host n events).flatMap (Network.Event.sentBy client) =
      events.flatMap (Event.sentBy client) := by
  induction events generalizing n with
  | nil => rfl
  | cons event events ih =>
    have hone : (acts env host n event).flatMap (Network.Event.sentBy client) =
        event.sentBy client := by
      cases event with
      | serverReads count =>
        refine List.flatMap_eq_nil_iff.mpr fun x hx => ?_
        rcases List.mem_cons.mp hx with rfl | hx
        · rfl
        · obtain ⟨f,-,rfl⟩ := List.mem_map.mp hx
          rfl
      | _ => exact List.append_nil _
    rw [acting,Conduit.along,List.flatMap_append,hone,List.flatMap_cons]
    exact congrArg (event.sentBy client ++ ·) (ih _)

theorem acting_possible (h : Echoing env host n) {events : List Event}
    (hp : Runs.Along (step env host) (Possible host) n events) :
    Runs.Along (Network.step env host) (Network.Possible host) n (acting env host n events) ∧
      ∀ a, Network.heard a (Runs.run (step env host) n events).server =
        Network.heard a n.server ++
          (acting env host n events).flatMap (Network.Event.writtenTo a) := by
  induction events generalizing n with
  | nil => exact ⟨trivial,fun a => (List.append_nil _).symm⟩
  | cons event events ih =>
    obtain ⟨hfirst,hechoing,hheard⟩ := step_echoes h hp.1
    obtain ⟨hrest,hmore⟩ := ih hechoing hp.2
    refine ⟨Runs.along_append.mpr ⟨hfirst,hrest⟩,fun a => ?_⟩
    rw [acting,Conduit.along,List.flatMap_append,← List.append_assoc,← hheard]
    exact hmore a

def underway (host client : ObjectId) (a : UInt16) (n : Network) : QByteArray :=
  n.fromProxy client ++ Network.carried a (n.pendingDown host) ++
    (Network.carried a (n.pendingUp host) ++ n.toProxy client)

/-- Of an echo server each client gets back what it has sent, in order and but for what is still on
its way. -/
theorem echo_returns (h : Echoing env host n) {events : List Event}
    (hp : Runs.Along (step env host) (Possible host) n events)
    (ha : Uplink.Attached n.m_tunnelProxyServer host client) :
    let a := address n.m_tunnelProxyServer client
    let n' := Runs.run (step env host) n events
    ∃ back, Network.ready (n'.client client) = Network.ready (n.client client) ++ back ∧
      underway host client a n ++ events.flatMap (Event.sentBy client) =
        back ++ underway host client a n' := by
  intro a n'
  obtain ⟨hacting,hheard⟩ := acting_possible h hp
  obtain ⟨⟨up,hup,hsent⟩,down,hdown,hwritten⟩ :=
    Network.tunnel_conserved h.established hacting ha
  rw [run_acting] at hup hsent hdown hwritten
  rw [acting_sentBy] at hsent
  have hecho : (acting env host n events).flatMap (Network.Event.writtenTo a) = up :=
    List.append_cancel_left ((hheard a).symm.trans hup)
  rw [hecho] at hwritten
  refine ⟨down,hdown,?_⟩
  calc underway host client a n ++ events.flatMap (Event.sentBy client)
      = n.fromProxy client ++ Network.carried a (n.pendingDown host) ++
          (Network.carried a (n.pendingUp host) ++ n.toProxy client ++
            events.flatMap (Event.sentBy client)) := by
        simp only [underway,List.append_assoc]
    _ = (n.fromProxy client ++ Network.carried a (n.pendingDown host) ++ up) ++
          (Network.carried a (n'.pendingUp host) ++ n'.toProxy client) := by
        rw [hsent,← List.append_assoc]
    _ = down ++ underway host client a n' := by
        rw [hwritten,List.append_assoc]
        rfl

end Run

section Strings

def possibleCharacters : QByteArray :=
  ascii "ABCDEFGHIJKLMNOPQRSTUVWXYZabcdefghijklmnopqrstuvwxyz0123456789"

def generateRandomString (rolls : List Nat) : QByteArray :=
  rolls.map fun n => possibleCharacters.getD (n % possibleCharacters.length) 0

theorem generateRandomString_clean (rolls : List Nat) :
    Stuffing.Clean alphabet (generateRandomString rolls) := by
  have hclean : Stuffing.Clean alphabet possibleCharacters := by decide +kernel
  have hmem : ∀ x ∈ generateRandomString rolls, x ∈ possibleCharacters := by
    intro x hx
    obtain ⟨n,-,rfl⟩ := List.mem_map.mp hx
    have hlt : n % possibleCharacters.length < possibleCharacters.length :=
      Nat.mod_lt n (by decide)
    have hget : possibleCharacters.getD (n % possibleCharacters.length) 0 =
        possibleCharacters[n % possibleCharacters.length] := by
      rw [List.getD_eq_getElem?_getD,List.getElem?_eq_getElem hlt,Option.getD_some]
    rw [hget]
    exact List.getElem_mem hlt
  exact ⟨fun hx => hclean.1 (hmem _ hx),fun hx => hclean.2 (hmem _ hx)⟩

def sampleEcho : List Event :=
  [.sendData ⟨2⟩ (generateRandomString [7,70,201]),.proxyReads ⟨2⟩ 2,.serverReads 4,
    .proxyReads ⟨2⟩ 9,.serverReads 9,.proxyReads ⟨1⟩ 5,.clientReads ⟨2⟩ 1,.proxyReads ⟨1⟩ 9,
    .clientReads ⟨2⟩ 1]

theorem quiet_echoing {clients : ObjectId → TunnelProxyRemoteConnection}
    (h : (Network.quiet s library clients).Established env host)
    (haddresses : ∀ client, Uplink.Attached s host client →
      Stuffing.Clean alphabet (buildFrame ⟨address s client,[]⟩))
    (hbuffer : library.m_dataBuffer = []) :
    Echoing env host (Network.quiet s library clients) := by
  refine ⟨h,haddresses,fun client _ => ⟨List.not_mem_nil,List.not_mem_nil⟩,fun f hf => ?_⟩
  have hnone : TunnelProxySocketServer.reassemble library.m_dataBuffer [] = ([],[]) :=
    congrArg (·,[]) hbuffer
  rw [Network.pendingUp,Network.quiet,hnone] at hf
  cases hf

theorem sample_echoing : Echoing (sampleEnvironment true) ⟨1⟩ Network.sampleNetwork := by
  have haddress : Stuffing.Clean alphabet (buildFrame ⟨address tunnel ⟨2⟩,[]⟩) := by
    decide +kernel
  refine quiet_echoing Network.sample_established (fun client ha => ?_) rfl
  rw [tunnel_attached ha]
  exact haddress

theorem echo_returns_strings :
    let a := address Network.sampleNetwork.m_tunnelProxyServer ⟨2⟩
    let n' := Runs.run (step (sampleEnvironment true) ⟨1⟩) Network.sampleNetwork sampleEcho
    ∃ back, Network.ready (n'.client ⟨2⟩) =
        Network.ready (Network.sampleNetwork.client ⟨2⟩) ++ back ∧
      underway ⟨1⟩ ⟨2⟩ a Network.sampleNetwork ++ sampleEcho.flatMap (Event.sentBy ⟨2⟩) =
        back ++ underway ⟨1⟩ ⟨2⟩ a n' :=
  echo_returns sample_echoing (by decide +kernel) Network.sample_attached

end Strings

end RemoteProxy.ServerConnection
