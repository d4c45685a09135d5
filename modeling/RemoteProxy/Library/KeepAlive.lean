import RemoteProxy.Foundation.Runs
import RemoteProxy.Foundation.Watchdog
import RemoteProxy.Library.ServerSession
import RemoteProxy.Library.Uplink
import RemoteProxy.Proxy.InactiveTimer

namespace RemoteProxy.TunnelProxySocketServer

open JsonRpcClient

variable {env : Qt} {s t : TunnelProxySocketServer} {now : Nat}

/-- If the server runs, its keep-alive timer has last been started at `now`. -/
structure Beating (now : Nat) (s : TunnelProxySocketServer) : Prop where
  clock : s.now = now
  running : s.m_running = decide (s.m_state = .StateRunning)
  interval : s.m_keepAliveTimer.interval = 30000
  periodic : s.m_keepAliveTimer.singleShot = false
  deadline : s.m_state = .StateRunning → s.m_keepAliveTimer.deadline = some (now + 30000)

theorem Beating.timer (h : Beating now s) (hstate : s.m_state = .StateRunning) :
    s.m_keepAliveTimer = ⟨30000,false,some (now + 30000)⟩ :=
  calc
    s.m_keepAliveTimer = ⟨s.m_keepAliveTimer.interval,s.m_keepAliveTimer.singleShot,
        s.m_keepAliveTimer.deadline⟩ := rfl
    _ = ⟨30000,false,some (now + 30000)⟩ := by rw [h.deadline hstate,h.periodic,h.interval]

theorem Beating.congr (h : Beating now s) (hnow : t.now = s.now)
    (hrunning : t.m_running = s.m_running) (hstate : t.m_state = s.m_state)
    (htimer : t.m_keepAliveTimer = s.m_keepAliveTimer) : Beating now t := by
  refine ⟨hnow.trans h.clock,?_,htimer ▸ h.interval,htimer ▸ h.periodic,fun hs => ?_⟩
  · rw [hrunning,hstate]
    exact h.running
  · rw [htimer]
    exact h.deadline (hstate.symm.trans hs)

theorem setState_beating (h : Beating now s) (state : State) : Beating now (s.setState state) := by
  have hdown : ∀ t : TunnelProxySocketServer, Beating now t → Beating now t.reconnectIfDown := by
    intro t ht
    rw [reconnectIfDown]
    split
    · next hdown =>
      refine ⟨ht.clock,ht.running,ht.interval,ht.periodic,fun hs => ?_⟩
      have hs : t.m_state = .StateRunning := hs
      rw [hdown.1] at hs
      cases hs
    · exact ht
  rw [setState]
  split
  · exact h
  · next hne =>
    apply hdown _
    rw [setRunning]
    split
    · next hsame =>
      refine ⟨h.clock,hsame,h.interval,h.periodic,fun hs => ?_⟩
      have hs : state = .StateRunning := hs
      have hrunning : s.m_running = decide (state = .StateRunning) := hsame
      rw [h.running,hs,decide_eq_true rfl,decide_eq_true_eq] at hrunning
      exact absurd (hrunning.trans hs.symm) hne
    · by_cases hs : state = .StateRunning
      · simp only [hs,decide_true,if_true]
        refine ⟨h.clock,rfl,h.interval,h.periodic,fun _ => ?_⟩
        change some (s.now + s.m_keepAliveTimer.interval) = _
        rw [h.clock,h.interval]
      · simp only [hs,decide_false]
        exact ⟨h.clock,(decide_eq_false hs).symm,h.interval,h.periodic,fun hrun => absurd hrun hs⟩

theorem refuse_beating (h : Beating now s) : Beating now s.refuse := by
  rw [refuse,setServerError]
  split
  · exact h.congr rfl rfl rfl rfl
  · exact h.congr rfl rfl rfl rfl

theorem slot_beating (h : Beating now s) (signal : JsonRpcClient.Signal) :
    Beating now (slot env signal s) := by
  cases signal with
  | finished reply =>
    simp only [slot]
    cases s.finishedSlot reply with
    | onHelloFinished =>
      simp only [onHelloFinished]
      split
      · exact refuse_beating h
      · exact (setState_beating (s := s.setRemoteProxy env _) (h.congr rfl rfl rfl rfl) _).congr
          rfl rfl rfl rfl
    | onServerRegistrationFinished =>
      simp only [onServerRegistrationFinished]
      split
      · exact refuse_beating h
      · split
        · exact refuse_beating h
        · exact (setState_beating h _).congr rfl rfl rfl rfl
    | disconnectFinished => exact h
    | pingFinished => exact h
  | tunnelEstablished => exact h
  | tunnelProxyClientConnected => exact h.congr rfl rfl rfl rfl
  | tunnelProxyClientDisonnected socketAddress =>
    simp only [slot,onTunnelProxyClientDisconnected]
    split
    · exact h
    · exact h.congr rfl rfl rfl rfl

theorem handle_beating (h : Beating now s) (packet : QByteArray) :
    Beating now (handle env (owner env) packet s) := by
  have hclient : ∀ c, Beating now { s with m_jsonClient := c } := fun _ => h.congr rfl rfl rfl rfl
  rw [handle]
  split
  · exact hclient _
  · exact slot_beating (hclient _) _

theorem received_beating (env : Qt) (hstate : s.m_state = .StateRunning)
    (hrunning : s.m_running = true)
    (hinterval : s.m_keepAliveTimer.interval = 30000)
    (hperiodic : s.m_keepAliveTimer.singleShot = false) (data : QByteArray) :
    Beating s.now (s.onConnectionDataAvailable env data) := by
  have hstarted : Beating s.now { s with m_keepAliveTimer := s.m_keepAliveTimer.start s.now } := by
    refine ⟨rfl,hrunning.trans (decide_eq_true hstate).symm,hinterval,hperiodic,fun _ => ?_⟩
    change some (s.now + s.m_keepAliveTimer.interval) = _
    rw [hinterval]
  rw [onConnectionDataAvailable]
  dsimp only
  split
  · next hnot => exact absurd hstate hnot
  · exact slipData_preserves (P := Beating s.now) (fun s o h => h.congr rfl rfl rfl rfl)
      (fun s packet h => handle_beating h packet) (fun s b h => h.congr rfl rfl rfl rfl)
      (fun s b h => h.congr rfl rfl rfl rfl) hstarted data

end RemoteProxy.TunnelProxySocketServer

namespace RemoteProxy.KeepAlive

open Runs

/-- A server and the proxy it has registered at; the bytes on their way are kept with the time at
which they were sent. -/
structure Link where
  proxy : TunnelProxyServer
  library : TunnelProxySocketServer
  up : List (Nat × UInt8)
  down : List (Nat × UInt8)

/-- What the application and the timer of the server do, what others do at the proxy, the arrival of
a chunk of what is on its way, and time. -/
inductive Event where
  | writeData (socket : TunnelProxySocket) (data : QByteArray)
  | requestSocketDisconnect (socketAddress : UInt16)
  | keepAliveTimeout
  | proxy (event : TunnelProxyServer.Event)
  | deliverUp (count : Nat)
  | deliverDown (count : Nat)
  | elapse (ms : Nat)

def stamp (now : Nat) (data : QByteArray) : List (Nat × UInt8) := data.map (now,·)

def bytes (wire : List (Nat × UInt8)) : QByteArray := wire.map Prod.snd

def bytesFrom (output : List TunnelProxySocketServer.Output) : QByteArray :=
  output.flatMap fun
    | .sendData data => data
    | _ => []

def passes : TunnelProxyServer.Event → Bool
  | .elapse _ => true
  | _ => false

variable (env : Environment) (server : ObjectId)

namespace Link

def onLibrary (w : Link) (f : TunnelProxySocketServer → TunnelProxySocketServer) : Link :=
  let library := f w.library
  { w with
    library := library
    up := w.up ++
      stamp w.library.now (bytesFrom (library.output.drop w.library.output.length)) }

def onProxy (w : Link) (event : TunnelProxyServer.Event) : Link :=
  let proxy := w.proxy.step env event
  { w with
    proxy := proxy
    down := w.down ++
      stamp w.proxy.now (Uplink.bytesTo server (proxy.output.drop w.proxy.output.length)) }

def step (w : Link) : Event → Link
  | .writeData socket data => w.onLibrary (·.writeData socket data)
  | .requestSocketDisconnect socketAddress =>
    w.onLibrary (·.requestSocketDisconnect env.toQt socketAddress)
  | .keepAliveTimeout => w.onLibrary (·.keepAliveTimeout env.toQt)
  | .proxy event => w.onProxy env server event
  | .deliverUp count =>
    { w with up := w.up.drop count }.onProxy env server
      (.dataAvailable server (bytes (w.up.take count)))
  | .deliverDown count =>
    { w with down := w.down.drop count }.onLibrary
      (·.onConnectionDataAvailable env.toQt (bytes (w.down.take count)))
  | .elapse ms =>
    { w with
      proxy := w.proxy.step env (.elapse ms)
      library := { w.library with now := w.library.now + ms } }

def keepAlive (w : Link) : Nat := w.library.m_keepAliveTimer.deadline.getD 0

def inactive (w : Link) : Nat := (w.proxy.client server).m_inactiveTimer.deadline.getD 0

def Expires (w : Link) : Prop :=
  w.proxy.live server ∧ (w.proxy.client server).m_inactiveTimer.due w.proxy.now = true

instance : DecidablePred (Expires server) := fun w => by
  unfold Expires TunnelProxyServer.live
  infer_instance

/-- Each byte arrives in less than 10 s, and time does not pass over the keep-alive timer. -/
def Timed (w : Link) : Event → Prop
  | .proxy event =>
    event.actor ≠ server ∧ passes event = false ∧ w.proxy.Fresh event
  | .deliverUp count => w.up.take count ≠ []
  | .deliverDown count => w.down.take count ≠ []
  | .elapse ms =>
    w.library.now + ms ≤ w.keepAlive ∧ ∀ byte ∈ w.up ++ w.down, w.library.now + ms < byte.1 + 10000
  | _ => True

/-- Where received data has put off the ping for too long, the application writes in its place. -/
def Fed (w : Link) : Event → Prop
  | .elapse ms =>
    w.up = [] → w.inactive server < w.keepAlive + 10000 →
      w.library.now + ms + 10000 ≤ w.inactive server
  | _ => True

def Spared (w : Link) : Event → Prop
  | .deliverDown _ => w.up ≠ [] ∨ w.library.now + 40000 ≤ w.inactive server
  | _ => True

/-- The server has come to run not long after the proxy has heard of it. -/
structure Established (w : Link) : Prop where
  reachable : TunnelProxyServer.Reachable env w.proxy
  clock : w.proxy.now = w.library.now
  running : w.library.m_state = .StateRunning ∧ w.library.m_running = true
  keepAlive : w.library.m_keepAliveTimer = QTimer.start ⟨30000,false,none⟩ w.library.now
  registered : w.proxy.isServer server ∧ (w.proxy.client server).rxDataCountConnected = true
  heard : ∃ heard, heard ≤ w.library.now ∧ w.library.now < heard + 10000 ∧
    (w.proxy.client server).m_inactiveTimer = QTimer.start ⟨60000,false,none⟩ heard
  sent : ∀ byte ∈ w.up, byte.1 ≤ w.library.now ∧ w.library.now < byte.1 + 10000

/-- The inactivity timer of the server as it is while the server is registered. -/
structure Watched (w : Link) : Prop where
  isServer : w.proxy.isServer server
  connected : (w.proxy.client server).rxDataCountConnected = true
  timer : (w.proxy.client server).m_inactiveTimer = ⟨60000,false,some (w.inactive server)⟩

def watchdog (w : Link) : Watchdog.State where
  now := w.library.now
  sent := w.up.map Prod.fst
  beat := w.keepAlive
  expiry := w.inactive server

structure Sustained (w : Link) : Prop where
  reachable : TunnelProxyServer.Reachable env w.proxy
  clock : w.proxy.now = w.library.now
  state : w.library.m_state = .StateRunning
  running : w.library.m_running = true
  keepAlive : w.library.m_keepAliveTimer = ⟨30000,false,some w.keepAlive⟩
  watched : w.Watched server

def watchdogEvent (w : Link) (event : Event) : Watchdog.Event :=
  let sent := (w.step env server event).up.length - w.up.length
  match event with
  | .writeData .. => .send sent
  | .requestSocketDisconnect _ => .send sent
  | .keepAliveTimeout =>
    if w.library.m_keepAliveTimer.due w.library.now then .beat sent else .idle
  | .proxy _ => .idle
  | .deliverUp count => .arrive count
  | .deliverDown _ => .disturb sent
  | .elapse ms => .elapse ms

variable {env server} {w : Link}

section Sides

theorem stamp_length (now : Nat) (data : QByteArray) : (stamp now data).length = data.length :=
  List.length_map _

theorem stamp_fst (now : Nat) (data : QByteArray) :
    (stamp now data).map Prod.fst = List.replicate data.length now := by
  rw [stamp,List.map_map]
  exact List.map_const'

theorem onLibrary_up (w : Link) (f : TunnelProxySocketServer → TunnelProxySocketServer) :
    (w.onLibrary f).up.map Prod.fst = w.up.map Prod.fst ++
      List.replicate ((w.onLibrary f).up.length - w.up.length) w.library.now := by
  simp only [onLibrary,List.map_append,stamp_fst,List.length_append,stamp_length,
    Nat.add_sub_cancel_left]

theorem Watched.congr {w' : Link} (h : w.Watched server) (hproxy : w'.proxy = w.proxy) :
    w'.Watched server := by
  obtain ⟨hserver,hconnected,htimer⟩ := h
  refine ⟨?_,?_,?_⟩
  · rw [hproxy]
    exact hserver
  · rw [hproxy]
    exact hconnected
  · rw [inactive,hproxy]
    exact htimer

theorem mem_onLibrary {f : TunnelProxySocketServer → TunnelProxySocketServer} {byte : Nat × UInt8}
    (h : byte ∈ (w.onLibrary f).up ++ (w.onLibrary f).down) :
    byte ∈ w.up ++ w.down ∨ byte.1 = w.library.now := by
  rcases List.mem_append.mp h with hup | hdown
  · rcases List.mem_append.mp hup with hold | hnew
    · exact .inl (List.mem_append_left _ hold)
    · obtain ⟨x,-,rfl⟩ := List.mem_map.mp hnew
      exact .inr rfl
  · exact .inl (List.mem_append_right _ hdown)

theorem onLibrary_watchdog (w : Link) (f : TunnelProxySocketServer → TunnelProxySocketServer)
    (hnow : (f w.library).now = w.library.now) {beat : Nat}
    (hbeat : (f w.library).m_keepAliveTimer = ⟨30000,false,some beat⟩) :
    (w.onLibrary f).watchdog server = { w.watchdog server with beat := beat }.send
      ((w.onLibrary f).up.length - w.up.length) := by
  have hkeep : (w.onLibrary f).keepAlive = beat := by
    change ((f w.library).m_keepAliveTimer.deadline).getD 0 = beat
    rw [hbeat]
    rfl
  simp only [watchdog,Watchdog.State.send,onLibrary_up,hkeep]
  rw [Watchdog.State.mk.injEq]
  exact ⟨hnow,rfl,rfl,rfl⟩

theorem onLibrary_sustained (h : w.Sustained env server)
    (f : TunnelProxySocketServer → TunnelProxySocketServer)
    (hnow : (f w.library).now = w.library.now) (hstate : (f w.library).m_state = .StateRunning)
    (hrunning : (f w.library).m_running = true) {beat : Nat}
    (hbeat : (f w.library).m_keepAliveTimer = ⟨30000,false,some beat⟩) :
    (w.onLibrary f).Sustained env server := by
  refine ⟨h.reachable,h.clock.trans hnow.symm,hstate,hrunning,?_,?_⟩
  · change (f w.library).m_keepAliveTimer =
      ⟨30000,false,some ((f w.library).m_keepAliveTimer.deadline.getD 0)⟩
    rw [hbeat]
    rfl
  · exact h.watched.congr rfl

theorem onProxy_sustained (h : w.Sustained env server) {event : TunnelProxyServer.Event}
    (hfresh : w.proxy.Fresh event) (hnow : (w.proxy.step env event).now = w.proxy.now)
    (hwatched : (w.onProxy env server event).Watched server) :
    (w.onProxy env server event).Sustained env server :=
  ⟨h.reachable.step hfresh,hnow.trans h.clock,h.state,h.running,h.keepAlive,hwatched⟩

theorem Sustained.wires (h : w.Sustained env server) (up down : List (Nat × UInt8)) :
    { w with up := up, down := down }.Sustained env server :=
  ⟨h.reachable,h.clock,h.state,h.running,h.keepAlive,h.watched.congr rfl⟩

theorem Sustained.named (h : w.Sustained env server) : TunnelProxyServer.NamedById w.proxy :=
  fun u o ho => (TunnelProxyServer.reachable_consistent h.reachable).named u o ho

theorem Sustained.unmoved (h : w.Sustained env server) {event : TunnelProxyServer.Event}
    (htimed : w.Timed server (.proxy event)) :
    TunnelProxyServer.Unmoved server w.proxy (w.proxy.step env event) := by
  obtain ⟨hactor,hpasses,hfresh⟩ := htimed
  refine TunnelProxyServer.step_unmoved (TunnelProxyServer.reachable_consistent h.reachable)
    hfresh hactor ?_ ?_
  · rintro ms rfl
    cases hpasses
  · have hserver : (w.proxy.client server).m_type = .TypeServer := h.watched.isServer
    rw [hserver]
    decide

theorem proxy_watched (h : w.Sustained env server) {event : TunnelProxyServer.Event}
    (htimed : w.Timed server (.proxy event)) : (w.onProxy env server event).Watched server := by
  have hunmoved := h.unmoved htimed
  have hinactive : (w.onProxy env server event).inactive server = w.inactive server :=
    congrArg (fun timer : QTimer => timer.deadline.getD 0) hunmoved.timer
  refine ⟨hunmoved.type.trans h.watched.isServer,hunmoved.connected.trans h.watched.connected,?_⟩
  rw [hinactive]
  exact hunmoved.timer.trans h.watched.timer

theorem dataAvailable_watched (h : w.Sustained env server) (hlive : w.proxy.live server)
    {data : QByteArray} (hdata : data ≠ []) :
    let w' := w.onProxy env server (.dataAvailable server data)
    w'.Watched server ∧ w'.proxy.now = w.proxy.now ∧ w'.inactive server = w.proxy.now + 60000 := by
  obtain ⟨hserver,hconnected,hnow,htimer⟩ := TunnelProxyServer.dataAvailable_restarts env
    h.named hlive h.watched.isServer h.watched.connected hdata
  have hinactive : (w.onProxy env server (.dataAvailable server data)).inactive server =
      w.proxy.now + 60000 := by
    refine (congrArg (fun timer : QTimer => timer.deadline.getD 0) htimer).trans ?_
    rw [h.watched.timer]
    rfl
  refine ⟨⟨hserver,hconnected,?_⟩,hnow,hinactive⟩
  rw [hinactive]
  apply htimer.trans
  rw [h.watched.timer]
  rfl

theorem dataAvailable_gone (h : w.Sustained env server) (hlive : ¬w.proxy.live server)
    (data : QByteArray) : w.proxy.step env (.dataAvailable server data) = w.proxy := by
  have hnone : w.proxy.m_proxyClients.value server = none := by
    cases hv : w.proxy.m_proxyClients.value server with
    | none => rfl
    | some o => exact absurd (hv.trans (congrArg some (h.named server o hv))) hlive
  simp only [TunnelProxyServer.step,TunnelProxyServer.onClientDataAvailable,hnone]

theorem received_timer (h : w.Sustained env server) {data : QByteArray}
    (hstate : (w.library.onConnectionDataAvailable env.toQt data).m_state = .StateRunning) :
    (w.library.onConnectionDataAvailable env.toQt data).now = w.library.now ∧
      (w.library.onConnectionDataAvailable env.toQt data).m_running = true ∧
      (w.library.onConnectionDataAvailable env.toQt data).m_keepAliveTimer =
        ⟨30000,false,some (w.library.now + 30000)⟩ := by
  have hinterval : w.library.m_keepAliveTimer.interval = 30000 := by rw [h.keepAlive]
  have hperiodic : w.library.m_keepAliveTimer.singleShot = false := by rw [h.keepAlive]
  have hbeating := TunnelProxySocketServer.received_beating env.toQt h.state h.running
    hinterval hperiodic data
  refine ⟨hbeating.clock,hbeating.running.trans (decide_eq_true hstate),?_⟩
  exact hbeating.timer hstate

theorem timeout_timer (h : w.Sustained env server)
    (hdue : w.library.m_keepAliveTimer.due w.library.now = true) :
    w.library.keepAliveTimeout env.toQt =
      { w.library with m_keepAliveTimer := ⟨30000,false,some (w.library.now + 30000)⟩ }.request
        (JsonRpcClient.callPing env.toQt (w.library.now / 1000)) .pingFinished := by
  have htimer : w.library.m_keepAliveTimer.timeout w.library.now =
      ⟨30000,false,some (w.library.now + 30000)⟩ := by
    rw [h.keepAlive]
    rfl
  rw [TunnelProxySocketServer.keepAliveTimeout,if_pos hdue,htimer]
  exact if_pos h.state

theorem timeout_idle (w : Link) (hdue : w.library.m_keepAliveTimer.due w.library.now ≠ true) :
    w.onLibrary (·.keepAliveTimeout env.toQt) = w := by
  have hsame : w.library.keepAliveTimeout env.toQt = w.library := by
    rw [TunnelProxySocketServer.keepAliveTimeout,if_neg hdue]
  simp only [onLibrary,hsame,List.drop_length]
  exact congrArg (fun up => { w with up := up }) (List.append_nil w.up)

theorem callPing_data (qt : Qt) (timestamp : Nat) (c : JsonRpcClient) :
    (JsonRpcClient.callPing qt timestamp c).data ≠ [] := by
  change SlipDataProcessor.serializeData _ ≠ []
  rw [SlipDataProcessor.serializeData_eq]
  exact List.append_ne_nil_of_right_ne_nil _ (List.cons_ne_nil _ _)

theorem ping_length_pos (h : w.Sustained env server)
    (hdue : w.library.m_keepAliveTimer.due w.library.now = true) :
    0 < (w.onLibrary (·.keepAliveTimeout env.toQt)).up.length - w.up.length := by
  have hsent : (w.onLibrary (·.keepAliveTimeout env.toQt)).up = w.up ++ stamp w.library.now
      (JsonRpcClient.callPing env.toQt (w.library.now / 1000) w.library.m_jsonClient).data := by
    simp only [onLibrary,timeout_timer h hdue]
    change w.up ++ stamp w.library.now (bytesFrom ((w.library.output ++ [_]).drop _)) = _
    rw [List.drop_left]
    exact congrArg (w.up ++ stamp w.library.now ·) (List.append_nil _)
  rw [hsent,List.length_append,stamp_length,Nat.add_sub_cancel_left]
  exact List.length_pos_of_ne_nil (callPing_data _ _ _)

end Sides

section Steps

variable {event : Event}

theorem step_sustained (h : w.Sustained env server) (htimed : w.Timed server event)
    (hstate : (w.step env server event).library.m_state = .StateRunning) :
    (w.step env server event).Sustained env server := by
  cases event with
  | writeData socket data =>
    exact onLibrary_sustained h (·.writeData socket data) rfl h.state h.running h.keepAlive
  | requestSocketDisconnect socketAddress =>
    exact onLibrary_sustained h (·.requestSocketDisconnect env.toQt socketAddress) rfl h.state
      h.running h.keepAlive
  | keepAliveTimeout =>
    by_cases hdue : w.library.m_keepAliveTimer.due w.library.now = true
    · have hping := timeout_timer h hdue
      exact onLibrary_sustained h (·.keepAliveTimeout env.toQt) (by rw [hping]; rfl) hstate
        (by rw [hping]; exact h.running) (by rw [hping]; rfl)
    · have hidle : w.step env server .keepAliveTimeout = w := timeout_idle w hdue
      rw [hidle]
      exact h
  | proxy event =>
    exact onProxy_sustained h htimed.2.2 (h.unmoved htimed).now (proxy_watched h htimed)
  | deliverUp count =>
    have h := h.wires (w.up.drop count) w.down
    by_cases hlive : w.proxy.live server
    · have hdata : bytes (w.up.take count) ≠ [] := fun he => htimed (List.map_eq_nil_iff.mp he)
      obtain ⟨hwatched,hnow,-⟩ := dataAvailable_watched h hlive hdata
      exact onProxy_sustained h trivial hnow hwatched
    · have hgone := dataAvailable_gone h hlive (bytes (w.up.take count))
      exact onProxy_sustained h trivial (congrArg TunnelProxyServer.now hgone)
        (h.watched.congr hgone)
  | deliverDown count =>
    have h := h.wires w.up (w.down.drop count)
    obtain ⟨hnow,hrunning,htimer⟩ := received_timer h hstate
    exact onLibrary_sustained h (·.onConnectionDataAvailable env.toQt (bytes (w.down.take count)))
      hnow hstate hrunning htimer
  | elapse ms =>
    have hfresh : w.proxy.Fresh (.elapse ms) := trivial
    exact ⟨h.reachable.step hfresh,congrArg (· + ms) h.clock,h.state,h.running,h.keepAlive,
      h.watched.isServer,h.watched.connected,h.watched.timer⟩

theorem step_watchdog (h : w.Sustained env server) (hlive : w.proxy.live server)
    (htimed : w.Timed server event)
    (hstate : (w.step env server event).library.m_state = .StateRunning) :
    (w.step env server event).watchdog server =
      Watchdog.step 30000 60000 (w.watchdog server) (w.watchdogEvent env server event) := by
  cases event with
  | writeData socket data => exact onLibrary_watchdog w (·.writeData socket data) rfl h.keepAlive
  | requestSocketDisconnect socketAddress =>
    exact onLibrary_watchdog w (·.requestSocketDisconnect env.toQt socketAddress) rfl h.keepAlive
  | keepAliveTimeout =>
    by_cases hdue : w.library.m_keepAliveTimer.due w.library.now = true
    · have hping := timeout_timer h hdue
      simp only [watchdogEvent,if_pos hdue]
      exact onLibrary_watchdog w (·.keepAliveTimeout env.toQt) (by rw [hping]; rfl)
        (by rw [hping]; rfl)
    · simp only [watchdogEvent,if_neg hdue]
      exact congrArg (watchdog server) (timeout_idle w hdue)
  | proxy event =>
    have htimer := (h.unmoved htimed).timer
    have hinactive : (w.onProxy env server event).inactive server = w.inactive server :=
      congrArg (fun timer : QTimer => timer.deadline.getD 0) htimer
    exact congrArg (fun expiry => { w.watchdog server with expiry := expiry }) hinactive
  | deliverUp count =>
    have hdata : bytes (w.up.take count) ≠ [] := fun he => htimed (List.map_eq_nil_iff.mp he)
    obtain ⟨-,-,hinactive⟩ := dataAvailable_watched (h.wires (w.up.drop count) w.down) hlive hdata
    have hclock : w.proxy.now = w.library.now := h.clock
    simp only [hclock] at hinactive
    change (⟨_,(w.up.drop count).map Prod.fst,_,_⟩ : Watchdog.State) = _
    rw [List.map_drop]
    exact congrArg (fun expiry => { w.watchdog server with
      sent := (w.up.map Prod.fst).drop count, expiry := expiry }) hinactive
  | deliverDown count =>
    obtain ⟨hnow,hrunning,htimer⟩ := received_timer (h.wires w.up (w.down.drop count)) hstate
    exact onLibrary_watchdog { w with down := w.down.drop count }
      (·.onConnectionDataAvailable env.toQt (bytes (w.down.take count))) hnow htimer
  | elapse ms => rfl

theorem step_live (h : w.Sustained env server) (htimed : w.Timed server event)
    (hlive : (w.step env server event).proxy.live server) : w.proxy.live server := by
  cases event with
  | proxy event => exact (h.unmoved htimed).live hlive
  | deliverUp count =>
    by_contra hgone
    have hsame := dataAvailable_gone (h.wires (w.up.drop count) w.down) hgone
      (bytes (w.up.take count))
    apply hgone
    rw [← hsame]
    exact hlive
  | writeData => exact hlive
  | requestSocketDisconnect => exact hlive
  | keepAliveTimeout => exact hlive
  | deliverDown => exact hlive
  | elapse => exact hlive

theorem step_possible (h : w.Sustained env server) (htimed : w.Timed server event) :
    Watchdog.Possible 10000 (w.watchdog server) (w.watchdogEvent env server event) := by
  cases event with
  | keepAliveTimeout =>
    by_cases hdue : w.library.m_keepAliveTimer.due w.library.now = true
    · simp only [watchdogEvent,if_pos hdue]
      exact ping_length_pos h hdue
    · simp only [watchdogEvent,if_neg hdue]
      exact trivial
  | elapse ms =>
    obtain ⟨hbeat,hwires⟩ := htimed
    refine ⟨fun t ht => ?_,hbeat⟩
    obtain ⟨byte,hbyte,rfl⟩ := List.mem_map.mp ht
    exact hwires byte (List.mem_append_left _ hbyte)
  | writeData => exact trivial
  | requestSocketDisconnect => exact trivial
  | proxy => exact trivial
  | deliverUp => exact trivial
  | deliverDown => exact trivial

theorem step_spared (hspared : w.Spared server event) :
    Watchdog.Spared 30000 10000 (w.watchdog server) (w.watchdogEvent env server event) := by
  cases event with
  | keepAliveTimeout =>
    simp only [watchdogEvent]
    split
    · exact trivial
    · exact trivial
  | deliverDown count =>
    refine Or.imp (fun hne he => hne (List.map_eq_nil_iff.mp he)) (fun hle => ?_) hspared
    rw [Nat.add_assoc]
    exact hle
  | writeData => exact trivial
  | requestSocketDisconnect => exact trivial
  | proxy => exact trivial
  | deliverUp => exact trivial
  | elapse => exact trivial

theorem step_fed (hfed : w.Fed server event) :
    Watchdog.Fed 10000 (w.watchdog server) (w.watchdogEvent env server event) := by
  cases event with
  | keepAliveTimeout =>
    simp only [watchdogEvent]
    split
    · exact trivial
    · exact trivial
  | elapse ms => exact fun hstarved => hfed (List.map_eq_nil_iff.mp hstarved.1) hstarved.2
  | writeData => exact trivial
  | requestSocketDisconnect => exact trivial
  | proxy => exact trivial
  | deliverUp => exact trivial
  | deliverDown => exact trivial

end Steps

section Runs

variable {events : List Event} {J : Watchdog.State → Prop}

structure Attended (env : Environment) (server : ObjectId) (J : Watchdog.State → Prop) (w : Link) :
    Prop where
  sustained : w.Sustained env server
  timely : w.proxy.live server → Watchdog.Timely 30000 10000 (w.watchdog server)
  kept : w.proxy.live server → J (w.watchdog server)

theorem always_attended {C : Watchdog.State → Watchdog.Event → Prop}
    (hstep : ∀ s event, Watchdog.Timely 30000 10000 s → J s → Watchdog.Possible 10000 s event →
      C s event → J (Watchdog.step 30000 60000 s event))
    (h : w.Attended env server J)
    (hrunning : Always (step env server) (fun w => w.library.m_state = .StateRunning) w events)
    (htimed : Along (step env server) (Timed server) w events)
    (hmet : Along (step env server)
      (fun w event => C (w.watchdog server) (w.watchdogEvent env server event)) w events) :
    Always (step env server) (Attended env server J) w events := by
  induction events generalizing w with
  | nil => exact h
  | cons event events ih =>
    refine ⟨h,ih ?_ hrunning.2 htimed.2 hmet.2⟩
    have hs := h.sustained
    have hpossible := step_possible hs htimed.1
    have hwatchdog (hlive : w.proxy.live server) := step_watchdog hs hlive htimed.1 hrunning.2.first
    have hlive := step_live hs htimed.1
    refine ⟨step_sustained hs htimed.1 hrunning.2.first,fun hafter => ?_,fun hafter => ?_⟩
    · rw [hwatchdog (hlive hafter)]
      exact Watchdog.step_timely (by decide) (h.timely (hlive hafter)) hpossible
    · rw [hwatchdog (hlive hafter)]
      exact hstep _ _ (h.timely (hlive hafter)) (h.kept (hlive hafter)) hpossible hmet.1

theorem expires_iff (h : w.Sustained env server) :
    w.Expires server ↔ w.proxy.live server ∧ w.inactive server ≤ w.library.now := by
  rw [Expires,h.watched.timer,h.clock,QTimer.due,Option.any_some,decide_eq_true_eq]

theorem Attended.not_expires (h : w.Attended env server J)
    (hJ : ∀ s, Watchdog.Timely 30000 10000 s → J s → s.now < s.expiry) : ¬w.Expires server := by
  rw [expires_iff h.sustained]
  rintro ⟨hlive,hdue⟩
  exact absurd (hJ _ (h.timely hlive) (h.kept hlive)) (Nat.not_lt.mpr hdue)

theorem Established.secured (h : w.Established env server) :
    w.Attended env server (Watchdog.Secured 10000) := by
  obtain ⟨heard,hle,hlt,htimer⟩ := h.heard
  have hkeep : w.keepAlive = w.library.now + 30000 := by
    rw [Link.keepAlive,h.keepAlive]
    rfl
  have hinactive : w.inactive server = heard + 60000 := by
    rw [inactive,htimer]
    rfl
  refine ⟨⟨h.reachable,h.clock,h.running.1,h.running.2,?_,h.registered.1,h.registered.2,?_⟩,
    fun _ => ⟨fun t ht => ?_,?_,?_⟩,fun _ => .inr ?_⟩
  · rw [hkeep]
    exact h.keepAlive
  · rw [hinactive]
    exact htimer
  · obtain ⟨byte,hbyte,rfl⟩ := List.mem_map.mp ht
    exact h.sent byte hbyte
  · simp only [watchdog,hkeep]
    omega
  · simp only [watchdog,hkeep]
    omega
  · simp only [watchdog,hkeep,hinactive]
    omega

theorem Attended.imp {I : Watchdog.State → Prop} (h : w.Attended env server I)
    (himp : ∀ s, I s → J s) : w.Attended env server J :=
  ⟨h.sustained,h.timely,fun hlive => himp _ (h.kept hlive)⟩

theorem spared_never_expires (h : w.Established env server)
    (hrunning : Always (step env server) (fun w => w.library.m_state = .StateRunning) w events)
    (htimed : Along (step env server) (Timed server) w events)
    (hspared : Along (step env server) (Spared server) w events) :
    Always (step env server) (fun w => ¬w.Expires server) w events := by
  have hattended := always_attended
    (fun s event htimely hsecured hpossible hs =>
      Watchdog.step_secured (by decide) htimely hsecured hpossible hs)
    h.secured hrunning htimed (hspared.imp fun _ _ => step_spared)
  exact hattended.imp fun w hw => hw.not_expires fun s ht hs => hs.alive ht (by decide)

/-- A server that is fed is never given up. -/
theorem fed_never_expires (h : w.Established env server)
    (hrunning : Always (step env server) (fun w => w.library.m_state = .StateRunning) w events)
    (htimed : Along (step env server) (Timed server) w events)
    (hfed : Along (step env server) (Fed server) w events) :
    Always (step env server) (fun w => ¬w.Expires server) w events := by
  have hattended := always_attended
    (fun s event htimely htended _ hf => Watchdog.step_tended (by decide) htimely htended hf)
    (h.secured.imp fun _ => .inl) hrunning htimed (hfed.imp fun _ _ => step_fed)
  exact hattended.imp fun w hw => hw.not_expires fun s ht hs => hs.alive ht (by decide)

/-- The events make a timed run that the server does not survive. -/
structure Fatal (env : Environment) (server : ObjectId) (w : Link) (events : List Event) :
    Prop where
  timed : Along (step env server) (Timed server) w events
  running : Always (step env server) (fun w => w.library.m_state = .StateRunning) w events
  expires : (run (step env server) w events).Expires server

theorem Fatal.cons {event : Event} (htimed : w.Timed server event)
    (hstate : w.library.m_state = .StateRunning)
    (h : Fatal env server (w.step env server event) events) :
    Fatal env server w (event :: events) := ⟨⟨htimed,h.timed⟩,⟨hstate,h.running⟩,h.expires⟩

theorem elapse_fatal (h : w.Sustained env server) (hlive : w.proxy.live server)
    (hbeat : w.library.now ≤ w.keepAlive) (hlate : w.inactive server ≤ w.keepAlive)
    (hwires : ∀ byte ∈ w.up ++ w.down,
      w.library.now < byte.1 + 10000 ∧ w.inactive server < byte.1 + 10000) :
    Fatal env server w [.elapse (w.inactive server - w.library.now)] := by
  have htimed : w.Timed server (.elapse (w.inactive server - w.library.now)) := by
    refine ⟨by omega,fun byte hbyte => ?_⟩
    obtain ⟨hnow,hexpiry⟩ := hwires byte hbyte
    omega
  have hafter := step_sustained h htimed h.state
  refine .cons htimed h.state ⟨trivial,h.state,(expires_iff hafter).mpr ⟨hlive,?_⟩⟩
  change w.inactive server ≤ w.library.now + (w.inactive server - w.library.now)
  omega

theorem ping_fatal (h : w.Sustained env server) (hlive : w.proxy.live server)
    (hdue : w.library.now = w.keepAlive) (hafter : w.keepAlive ≤ w.inactive server)
    (hstarved : w.inactive server < w.keepAlive + 10000)
    (hwires : ∀ byte ∈ w.up ++ w.down, w.inactive server < byte.1 + 10000) :
    ∃ events, Fatal env server w events := by
  have htimed : w.Timed server .keepAliveTimeout := trivial
  have htimer := timeout_timer h (by rw [h.keepAlive,hdue,QTimer.due]; simp)
  have hstate : (w.step env server .keepAliveTimeout).library.m_state = .StateRunning := by
    change (w.library.keepAliveTimeout env.toQt).m_state = _
    rw [htimer]
    exact h.state
  have hnow : (w.step env server .keepAliveTimeout).library.now = w.library.now := by
    change (w.library.keepAliveTimeout env.toQt).now = _
    rw [htimer]
    rfl
  have hbeat : (w.step env server .keepAliveTimeout).keepAlive = w.library.now + 30000 := by
    change (w.library.keepAliveTimeout env.toQt).m_keepAliveTimer.deadline.getD 0 = _
    rw [htimer]
    rfl
  have hinactive : (w.step env server .keepAliveTimeout).inactive server = w.inactive server := rfl
  refine ⟨_,.cons htimed h.state (elapse_fatal (step_sustained h htimed hstate) hlive ?_ ?_ ?_)⟩
  · rw [hnow,hbeat]
    omega
  · rw [hinactive,hbeat]
    omega
  · intro byte hbyte
    rw [hnow,hinactive]
    rcases mem_onLibrary hbyte with hold | hnew
    · have hexpiry := hwires byte hold
      omega
    · omega

theorem late_fatal (h : w.Sustained env server) (hlive : w.proxy.live server)
    (hbeat : w.library.now ≤ w.keepAlive) (hstarved : w.inactive server < w.keepAlive + 10000)
    (hwires : ∀ byte ∈ w.up ++ w.down,
      w.library.now < byte.1 + 10000 ∧ w.inactive server < byte.1 + 10000) :
    ∃ events, Fatal env server w events := by
  by_cases hafter : w.inactive server ≤ w.keepAlive
  · exact ⟨_,elapse_fatal h hlive hbeat hafter hwires⟩
  · have htimed : w.Timed server (.elapse (w.keepAlive - w.library.now)) := by
      refine ⟨by omega,fun byte hbyte => ?_⟩
      obtain ⟨hnow,hexpiry⟩ := hwires byte hbyte
      omega
    obtain ⟨events,hfatal⟩ := ping_fatal (step_sustained h htimed h.state) hlive
      (Nat.add_sub_of_le hbeat) (Nat.le_of_not_le hafter) hstarved
      fun byte hbyte => (hwires byte hbyte).2
    exact ⟨_,.cons htimed h.state hfatal⟩

theorem unfed_expires (h : w.Sustained env server) (hlive : w.proxy.live server)
    (hdown : w.down = []) {ms : Nat} (htimed : w.Timed server (.elapse ms))
    (hunfed : ¬w.Fed server (.elapse ms)) (socket : TunnelProxySocket) (data : QByteArray) :
    ∃ events, Fatal env server w (.elapse ms :: .writeData socket data :: events) := by
  simp only [Fed,Classical.not_imp,Nat.not_le] at hunfed
  obtain ⟨hup,hstarved,hlate⟩ := hunfed
  have helapsed := step_sustained h htimed h.state
  have hwrite : (w.step env server (.elapse ms)).Timed server (.writeData socket data) := trivial
  obtain ⟨events,hfatal⟩ := late_fatal (step_sustained helapsed hwrite h.state) hlive htimed.1
    hstarved fun byte hbyte => by
      rcases mem_onLibrary hbyte with hold | hnew
      · have hnone : byte ∈ w.up ++ w.down := hold
        rw [hup,hdown] at hnone
        exact absurd hnone List.not_mem_nil
      · have hsince : byte.1 = w.library.now + ms := hnew
        change w.library.now + ms < byte.1 + 10000 ∧ w.inactive server < byte.1 + 10000
        omega
  exact ⟨events,.cons htimed h.state (.cons hwrite h.state hfatal)⟩

end Runs

section Run

open TunnelProxyServer (sampleEnvironment tunnel)

instance decidableTimed (w : Link) : (event : Event) → Decidable (w.Timed server event)
  | .proxy _ => inferInstanceAs (Decidable (_ ∧ _))
  | .deliverUp _ => inferInstanceAs (Decidable (_ ≠ _))
  | .deliverDown _ => inferInstanceAs (Decidable (_ ≠ _))
  | .elapse _ => inferInstanceAs (Decidable (_ ∧ _))
  | .writeData .. => inferInstanceAs (Decidable True)
  | .requestSocketDisconnect _ => inferInstanceAs (Decidable True)
  | .keepAliveTimeout => inferInstanceAs (Decidable True)

instance decidableFed (w : Link) : (event : Event) → Decidable (w.Fed server event)
  | .elapse _ => inferInstanceAs (Decidable (_ → _ → _))
  | .proxy _ => inferInstanceAs (Decidable True)
  | .deliverUp _ => inferInstanceAs (Decidable True)
  | .deliverDown _ => inferInstanceAs (Decidable True)
  | .writeData .. => inferInstanceAs (Decidable True)
  | .requestSocketDisconnect _ => inferInstanceAs (Decidable True)
  | .keepAliveTimeout => inferInstanceAs (Decidable True)

def sampleSocket : TunnelProxySocket := .new "client" ⟨7⟩ "10.0.0.2" 1

def sampleServer : TunnelProxySocketServer :=
  { TunnelProxySocketServer.new ⟨5⟩ "server" with
    m_enabled := true
    m_connection := some 0
    connections := 1
    m_state := .StateRegister
    m_tunnelProxySockets := (∅ : QHash UInt16 TunnelProxySocket).insert 1 sampleSocket }

def sampleLink : Link := ⟨tunnel,sampleServer.setState .StateRunning,[],[]⟩

def upload : List Event :=
  [.elapse 20000,.proxy (.dataAvailable ⟨2⟩ [7]),.deliverDown 8]

def uploads : List Event := upload ++ upload ++ [.elapse 20000]

def answeredUploads : List Event :=
  upload ++ upload ++ [.writeData sampleSocket [9],.deliverUp 8] ++ upload

theorem sampleLink_started :
    sampleLink.library.now = 0 ∧ sampleLink.proxy.now = 0 ∧
      (sampleLink.library.m_state = .StateRunning ∧ sampleLink.library.m_running = true) ∧
      sampleLink.library.m_keepAliveTimer = QTimer.start ⟨30000,false,none⟩ 0 ∧
      (sampleLink.proxy.client ⟨1⟩).m_type = .TypeServer ∧
      (sampleLink.proxy.client ⟨1⟩).rxDataCountConnected = true ∧
      (sampleLink.proxy.client ⟨1⟩).m_inactiveTimer = QTimer.start ⟨60000,false,none⟩ 0 := by
  decide +kernel

theorem sampleLink_established : sampleLink.Established (sampleEnvironment true) ⟨1⟩ := by
  obtain ⟨hlibrary,hproxy,hrunning,hbeat,hserver,hconnected,hheard⟩ := sampleLink_started
  refine ⟨?_,?_,hrunning,?_,⟨hserver,hconnected⟩,⟨0,Nat.zero_le _,?_,hheard⟩,?_⟩
  · simp only [sampleLink]
    exact Uplink.tunnel_reachable
  · rw [hlibrary,hproxy]
  · rw [hlibrary]
    exact hbeat
  · rw [hlibrary]
    decide
  · exact fun byte hbyte => absurd hbyte List.not_mem_nil

theorem fed_never_expires_answered :
    Always (step (sampleEnvironment true) ⟨1⟩) (fun w => ¬w.Expires ⟨1⟩) sampleLink
      answeredUploads := by
  have hrun : Always (step (sampleEnvironment true) ⟨1⟩)
        (fun w => w.library.m_state = .StateRunning) sampleLink answeredUploads ∧
      Along (step (sampleEnvironment true) ⟨1⟩) (Timed ⟨1⟩) sampleLink answeredUploads ∧
      Along (step (sampleEnvironment true) ⟨1⟩) (Fed ⟨1⟩) sampleLink answeredUploads := by
    decide +kernel
  exact fed_never_expires sampleLink_established hrun.1 hrun.2.1 hrun.2.2

theorem uploads_expire :
    ¬(sampleLink.Established (sampleEnvironment true) ⟨1⟩ →
      Always (step (sampleEnvironment true) ⟨1⟩) (fun w => w.library.m_state = .StateRunning)
        sampleLink uploads →
      Along (step (sampleEnvironment true) ⟨1⟩) (Timed ⟨1⟩) sampleLink uploads →
      Always (step (sampleEnvironment true) ⟨1⟩) (fun w => ¬w.Expires ⟨1⟩) sampleLink
        uploads) := by
  intro h
  have hrun : Always (step (sampleEnvironment true) ⟨1⟩)
        (fun w => w.library.m_state = .StateRunning) sampleLink uploads ∧
      Along (step (sampleEnvironment true) ⟨1⟩) (Timed ⟨1⟩) sampleLink uploads ∧
      ¬Always (step (sampleEnvironment true) ⟨1⟩) (fun w => ¬w.Expires ⟨1⟩) sampleLink
        uploads := by
    decide +kernel
  exact hrun.2.2 (h sampleLink_established hrun.1 hrun.2.1)

end Run

end Link

end RemoteProxy.KeepAlive
