import Mathlib.Algebra.GroupWithZero.Nat
import RemoteProxy.Foundation.Runs
import RemoteProxy.Proxy.Connections
import RemoteProxy.Proxy.Departures

namespace RemoteProxy

open TunnelProxyServer

structure Host where
  environment : Environment
  qt6 : Bool
  createUuid : Nat → QUuid
  notNull : ∀ n, (createUuid n).isNull = false
  distinct : createUuid.Injective

def Signal.slot : Signal → TunnelProxyServer.Event
  | .clientConnected clientId address => .clientConnected clientId address
  | .clientDisconnected clientId => .clientDisconnected clientId
  | .dataAvailable clientId data => .dataAvailable clientId data

structure Deployment where
  m_tunnelProxyServer : TunnelProxyServer
  m_webSocketServerTunnelProxy : WebSocketServer
  m_tcpSocketServerTunnelProxy : TcpSocketServer
  m_unixSocketServerTunnelProxy : UnixSocketServer
  created : Nat

namespace Deployment

variable (h : Host)

def start (sslEnabled : Bool) : Deployment where
  m_tunnelProxyServer := .new
  m_webSocketServerTunnelProxy := ⟨∅⟩
  m_tcpSocketServerTunnelProxy := ⟨∅,⟨sslEnabled,[],fun _ => default⟩⟩
  m_unixSocketServerTunnelProxy := ⟨∅,fun _ => QUuid.null⟩
  created := 0

def killClientConnection (d : Deployment) (atOnce : Bool) (clientId : QUuid) : Deployment :=
  { d with
    m_webSocketServerTunnelProxy := d.m_webSocketServerTunnelProxy.kill atOnce clientId
    m_tcpSocketServerTunnelProxy := d.m_tcpSocketServerTunnelProxy.kill h.qt6 atOnce clientId
    m_unixSocketServerTunnelProxy := d.m_unixSocketServerTunnelProxy.kill atOnce clientId }

def obey : Nat → Deployment → List Output → Deployment
  | _, d, [] => d
  | n, d, .killed clientId _ :: out =>
    obey (n + 1) (d.killClientConnection h (h.environment.reportsAtOnce n) clientId) out
  | n, d, _ :: out => obey n d out

def deliver (d : Deployment) (event : TunnelProxyServer.Event) : Deployment :=
  let s := d.m_tunnelProxyServer.step h.environment event
  obey h d.m_tunnelProxyServer.killCount { d with m_tunnelProxyServer := s }
    (s.output.drop d.m_tunnelProxyServer.output.length)

def emit (d : Deployment) (signals : List Signal) : Deployment :=
  signals.foldl (fun d signal => d.deliver h signal.slot) { d with created := d.created + 1 }

inductive Event where
  | webSocket (event : WebSocketServer.Event)
  | tcp (event : TcpSocketServer.Event)
  | unix (event : UnixSocketServer.Event)
  | inactiveTimeout (clientId : QUuid)
  | elapse (ms : Nat)

def step (d : Deployment) : Event → Deployment
  | .webSocket event =>
    let r := d.m_webSocketServerTunnelProxy.step (h.createUuid d.created) event
    emit h { d with m_webSocketServerTunnelProxy := r.1 } r.2
  | .tcp event =>
    let r := d.m_tcpSocketServerTunnelProxy.step h.qt6 d.m_tunnelProxyServer.now
      (h.createUuid d.created) event
    emit h { d with m_tcpSocketServerTunnelProxy := r.1 } r.2
  | .unix event =>
    let r := d.m_unixSocketServerTunnelProxy.step (h.createUuid d.created) event
    emit h { d with m_unixSocketServerTunnelProxy := r.1 } r.2
  | .inactiveTimeout clientId => d.deliver h (.inactiveTimeout clientId)
  | .elapse ms => d.deliver h (.elapse ms)

def Possible (d : Deployment) : Event → Prop
  | .webSocket event => d.m_webSocketServerTunnelProxy.Possible event
  | .tcp event => d.m_tcpSocketServerTunnelProxy.Possible event
  | .unix event => d.m_unixSocketServerTunnelProxy.Possible event
  | _ => True

instance decidablePossible (d : Deployment) : (event : Event) → Decidable (d.Possible event)
  | .webSocket event => inferInstanceAs (Decidable (d.m_webSocketServerTunnelProxy.Possible event))
  | .tcp event => inferInstanceAs (Decidable (d.m_tcpSocketServerTunnelProxy.Possible event))
  | .unix event => inferInstanceAs (Decidable (d.m_unixSocketServerTunnelProxy.Possible event))
  | .inactiveTimeout _ => inferInstanceAs (Decidable True)
  | .elapse _ => inferInstanceAs (Decidable True)

def tables (d : Deployment) : List (QHash QUuid Socket) :=
  [d.m_webSocketServerTunnelProxy.m_clientList,d.m_tcpSocketServerTunnelProxy.m_clientList,
    d.m_unixSocketServerTunnelProxy.m_clientList]

end Deployment

def carriers (tables : List (QHash QUuid Socket)) (id : QUuid) : Nat :=
  tables.countP (·.contains id)

variable {h h' : QHash QUuid Socket} {l l' : List (QHash QUuid Socket)} {id createUuid : QUuid}

theorem carriers_append (id : QUuid) : carriers (l ++ l') id = carriers l id + carriers l' id :=
  List.countP_append

theorem carriers_cons (h : QHash QUuid Socket) (id : QUuid) :
    carriers (h :: l) id = carriers l id + if (h.value id).isSome then 1 else 0 :=
  List.countP_cons

theorem Change.signals {signals : List Signal} (hc : Change createUuid h h' signals) :
    signals = [] ∨ ∃ signal, signals = [signal] ∧ ∀ id ∈ signal.slot.arrivals, id = createUuid := by
  cases hc with
  | silent => exact .inl rfl
  | connected _ => exact .inr ⟨_,rfl,by simp [Signal.slot,Event.arrivals]⟩
  | disconnected _ => exact .inr ⟨_,rfl,by simp [Signal.slot,Event.arrivals]⟩
  | data => exact .inr ⟨_,rfl,by simp [Signal.slot,Event.arrivals]⟩

theorem Change.unchanged (hc : Change createUuid h h' []) : h' = h := by
  cases hc with
  | silent => rfl

theorem Change.carriers {signal : Signal} (hc : Change createUuid h h' [signal])
    {known : QUuid → Bool} (hold : ∀ id, carriers (l ++ h :: l') id = if known id then 1 else 0)
    (hnew : known createUuid = false) (id : QUuid) :
    carriers (l ++ h' :: l') id =
      if id ∈ signal.slot.leavers then 0 else if id ∈ signal.slot.arrivals then 1
      else if known id then 1 else 0 := by
  have hid := hold id
  cases hc with
  | data => simpa [Signal.slot,Event.leavers,Event.arrivals] using hid
  | connected hfree =>
    simp only [carriers_append,carriers_cons,Signal.slot,Event.leavers,Event.arrivals,
      List.not_mem_nil,if_false,List.mem_singleton,QHash.value_insert] at hid ⊢
    rcases eq_or_ne id createUuid with rfl | hne
    · simp only [hnew,Bool.false_eq_true,if_false] at hid
      simp only [if_true,Option.isSome_some]
      omega
    · simpa only [if_neg hne] using hid
  | @disconnected gone socket hv =>
    simp only [carriers_append,carriers_cons,Signal.slot,Event.leavers,Event.arrivals,
      List.not_mem_nil,if_false,List.mem_singleton,QHash.value_remove] at hid ⊢
    rcases eq_or_ne id gone with rfl | hne
    · simp only [hv,Option.isSome_some,if_true] at hid
      simp only [if_true,Option.isSome_none,Bool.false_eq_true,if_false]
      split at hid
      · omega
      · omega
    · simpa only [if_neg hne] using hid

namespace Deployment

variable {host : Host} {d : Deployment}

structure Serving (d : Deployment) : Prop where
  webSocket : Sound d.m_webSocketServerTunnelProxy.m_clientList
  tcp : d.m_tcpSocketServerTunnelProxy.Gated
  unix : Sound d.m_unixSocketServerTunnelProxy.m_clientList

/-- Whom the proxy knows, exactly one transport has, and whom it does not know, none. -/
structure Agrees (host : Host) (d : Deployment) : Prop where
  serving : Serving d
  reachable : Reachable host.environment d.m_tunnelProxyServer
  created : ∀ id ∈ d.m_tunnelProxyServer.clientIds, ∃ n < d.created, host.createUuid n = id
  carriers : ∀ id, carriers d.tables id =
    if d.m_tunnelProxyServer.m_proxyClients.contains id then 1 else 0

section Obey

theorem Serving.kill (host : Host) (hs : Serving d) (atOnce : Bool) (id : QUuid) :
    Serving (d.killClientConnection host atOnce id) ∧
      ∀ x, RemoteProxy.carriers (d.killClientConnection host atOnce id).tables x =
        if atOnce = true ∧ x = id then 0 else RemoteProxy.carriers d.tables x := by
  obtain ⟨hwebSocket,hw⟩ := WebSocketServer.kill_sound hs.webSocket atOnce id
  obtain ⟨htcp,ht⟩ := hs.tcp.kill host.qt6 atOnce id
  obtain ⟨hunix,hu⟩ := UnixSocketServer.kill_sound hs.unix atOnce id
  refine ⟨⟨hwebSocket,htcp,hunix⟩,fun x => ?_⟩
  simp only [tables,killClientConnection,carriers_cons,hw x,ht x,hu x]
  split
  · rfl
  · rfl

theorem obey_same (n : Nat) (out : List Output) :
    (obey host n d out).m_tunnelProxyServer = d.m_tunnelProxyServer ∧
      (obey host n d out).created = d.created := by
  induction out generalizing n d with
  | nil => exact ⟨rfl,rfl⟩
  | cons x out ih =>
    cases x with
    | killed o reason => exact ih (n + 1)
    | sent => exact ih n
    | assertFailed => exact ih n

theorem deliver_proxy (event : TunnelProxyServer.Event) :
    (d.deliver host event).m_tunnelProxyServer =
      d.m_tunnelProxyServer.step host.environment event :=
  (obey_same _ _).1

theorem Serving.obey (hs : Serving d) (n : Nat) (out : List Output) :
    Serving (obey host n d out) ∧ ∀ id, RemoteProxy.carriers (obey host n d out).tables id =
        if id ∈ departures host.environment n out then 0 else RemoteProxy.carriers d.tables id := by
  induction out generalizing n d with
  | nil => exact ⟨hs,fun id => rfl⟩
  | cons x out ih =>
    cases x with
    | killed o reason =>
      obtain ⟨hkept,hkill⟩ := hs.kill host (host.environment.reportsAtOnce n) o
      obtain ⟨hall,hcarriers⟩ := ih hkept (n + 1)
      refine ⟨hall,fun id => ?_⟩
      rw [Deployment.obey,hcarriers,hkill,departures]
      cases host.environment.reportsAtOnce n with
      | false => simp
      | true =>
        simp only [true_and,if_true,List.mem_cons]
        split
        · next h => rw [if_pos (.inr h)]
        · next h =>
          split
          · next ho => rw [if_pos (.inl ho)]
          · next ho => rw [if_neg fun hor => hor.elim ho h]
    | sent => exact ih hs n
    | assertFailed => exact ih hs n

end Obey

section Deliver

theorem step_clientIds {env : Environment} {s : TunnelProxyServer} (hc : Consistent [] s)
    {event : TunnelProxyServer.Event} (hfresh : s.Fresh event) :
    (s.step env event).clientIds = event.arrivals ++ s.clientIds := by
  have hstep := stepped env hc hfresh
  generalize s.step env event = t at hstep ⊢
  cases hstep with
  | admitted _ => rfl
  | received _ hw => exact (effects_ids hw).trans rfl
  | ignored _ => rfl
  | left hw => exact effects_ids hw
  | timedOut hw => exact effects_ids hw
  | elapsed => rfl

theorem deliver_agrees {event : TunnelProxyServer.Event} (hs : Serving d)
    (h : Reachable host.environment d.m_tunnelProxyServer)
    (hfresh : d.m_tunnelProxyServer.Fresh event)
    (hcreated : ∀ id ∈ event.arrivals ++ d.m_tunnelProxyServer.clientIds,
      ∃ n < d.created, host.createUuid n = id)
    (hcarriers : ∀ id, RemoteProxy.carriers d.tables id =
      if id ∈ event.leavers then 0 else if id ∈ event.arrivals then 1
      else if d.m_tunnelProxyServer.m_proxyClients.contains id then 1 else 0) :
    Agrees host (d.deliver host event) := by
  have hc := reachable_consistent h
  obtain ⟨new,hout,hvalue⟩ := step_departs host.environment hc hfresh
  have hnew : (d.m_tunnelProxyServer.step host.environment event).output.drop
      d.m_tunnelProxyServer.output.length = new := by
    rw [hout,List.drop_left]
  have hserving : Serving { d with
      m_tunnelProxyServer := d.m_tunnelProxyServer.step host.environment event } := ⟨hs.1,hs.2,hs.3⟩
  obtain ⟨hobeyed,hleft⟩ := hserving.obey d.m_tunnelProxyServer.killCount new
  obtain ⟨hproxy,hids⟩ := obey_same (d := { d with
    m_tunnelProxyServer := d.m_tunnelProxyServer.step host.environment event })
    d.m_tunnelProxyServer.killCount new
  simp only [deliver,hnew]
  refine ⟨hobeyed,hproxy ▸ h.step hfresh,?_,fun id => ?_⟩
  · rw [hproxy,hids]
    intro id hid
    exact hcreated id (step_clientIds hc hfresh ▸ hid)
  · have hbefore := hcarriers id
    rw [hleft,hproxy,QHash.contains,hvalue]
    simp only [tables] at hbefore ⊢
    rw [hbefore]
    simp only [List.mem_append]
    by_cases hgone : id ∈ departures host.environment d.m_tunnelProxyServer.killCount new
    · simp [hgone]
    · by_cases hleaves : id ∈ event.leavers
      · simp [hleaves]
      · by_cases harrives : id ∈ event.arrivals
        · simp [hgone,hleaves,harrives]
        · simp only [hgone,hleaves,harrives,or_self,if_false]
          rfl

end Deliver

section Step

theorem Agrees.unused (ha : Agrees host d) :
    host.createUuid d.created ∉ d.m_tunnelProxyServer.clientIds := by
  intro hid
  obtain ⟨n,hlt,hsame⟩ := ha.created _ hid
  have hn : n = d.created := host.distinct hsame
  omega

theorem Agrees.fresh (ha : Agrees host d) {signal : Signal}
    (harrive : ∀ id ∈ signal.slot.arrivals, id = host.createUuid d.created) :
    d.m_tunnelProxyServer.Fresh signal.slot := by
  cases signal with
  | clientConnected id address =>
    rw [Signal.slot,Fresh,harrive id (List.mem_singleton_self id)]
    exact ha.unused
  | clientDisconnected id => exact trivial
  | dataAvailable id data => exact trivial

theorem Agrees.emit (ha : Agrees host d) {d' : Deployment} {signals : List Signal}
    (hs : Serving d') (hproxy : d'.m_tunnelProxyServer = d.m_tunnelProxyServer)
    (hcreated : d'.created = d.created) (hold : d.tables = l ++ h :: l')
    (hnow : d'.tables = l ++ h' :: l')
    (hc : Change (host.createUuid d.created) h h' signals) : Agrees host (emit host d' signals) := by
  have hunused := ha.unused
  have hearlier : ∀ id ∈ d.m_tunnelProxyServer.clientIds,
      ∃ n < d.created + 1, host.createUuid n = id := by
    intro id hid
    obtain ⟨n,hlt,hn⟩ := ha.created id hid
    exact ⟨n,Nat.lt_succ_of_lt hlt,hn⟩
  have hnew : d.m_tunnelProxyServer.m_proxyClients.contains (host.createUuid d.created) = false :=
    (QHash.contains_eq_false _ _).mpr (value_unknown (reachable_consistent ha.reachable) hunused)
  have hserving : Serving { d' with created := d'.created + 1 } := ⟨hs.1,hs.2,hs.3⟩
  rcases hc.signals with rfl | ⟨signal,rfl,harrive⟩
  · refine ⟨hserving,hproxy ▸ ha.reachable,fun id hid => ?_,fun id => ?_⟩
    · rw [Deployment.emit,List.foldl_nil] at hid ⊢
      simp only [hproxy,hcreated] at hid ⊢
      exact hearlier id hid
    · have hsame : d'.tables = d.tables := by
        rw [hnow,hold,hc.unchanged]
      have hid := ha.carriers id
      rw [← hsame,← hproxy] at hid
      exact hid
  · have hfresh := ha.fresh harrive
    refine deliver_agrees hserving (hproxy ▸ ha.reachable) (hproxy ▸ hfresh) ?_ fun id => ?_
    · intro id hid
      simp only [hproxy,hcreated,List.mem_append] at hid ⊢
      rcases hid with hid | hid
      · exact ⟨d.created,Nat.lt_succ_self _,(harrive id hid).symm⟩
      · exact hearlier id hid
    · have hid := hc.carriers (fun id => hold ▸ ha.carriers id) hnew id
      rw [← hnow,← hproxy] at hid
      exact hid

theorem step_agrees (ha : Agrees host d) {event : Event} (hp : d.Possible event) :
    Agrees host (d.step host event) := by
  have hnull := host.notNull d.created
  have hs := ha.serving
  have hquiet : ∀ {event : TunnelProxyServer.Event}, event.leavers = [] → event.arrivals = [] →
      d.m_tunnelProxyServer.Fresh event → Agrees host (d.deliver host event) := by
    intro event hleavers harrivals hfresh
    refine deliver_agrees hs ha.reachable hfresh (fun id hid => ?_) fun id => ?_
    · rw [harrivals] at hid
      exact ha.created id hid
    · rw [ha.carriers,hleavers,harrivals]
      simp
  cases event with
  | webSocket event =>
    obtain ⟨hsound,hc⟩ := WebSocketServer.step_sound hs.webSocket hnull hp
    exact ha.emit ⟨hsound,hs.tcp,hs.unix⟩ rfl rfl (l := []) rfl rfl hc
  | tcp event =>
    obtain ⟨hsound,hc⟩ := TcpSocketServer.step_gated host.qt6
      d.m_tunnelProxyServer.now hs.tcp hnull hp
    exact ha.emit ⟨hs.webSocket,hsound,hs.unix⟩ rfl rfl
      (l := [d.m_webSocketServerTunnelProxy.m_clientList]) rfl rfl hc
  | unix event =>
    obtain ⟨hsound,hc⟩ := UnixSocketServer.step_sound hs.unix hnull hp
    exact ha.emit ⟨hs.webSocket,hs.tcp,hsound⟩ rfl rfl
      (l := [d.m_webSocketServerTunnelProxy.m_clientList,
        d.m_tcpSocketServerTunnelProxy.m_clientList]) rfl rfl hc
  | inactiveTimeout clientId => exact hquiet rfl rfl trivial
  | elapse ms => exact hquiet rfl rfl trivial

theorem start_agrees (host : Host) (sslEnabled : Bool) : Agrees host (start sslEnabled) := by
  have hempty : Sound (∅ : QHash QUuid Socket) :=
    ⟨QHash.value_empty _,fun a b x ha => by simp at ha⟩
  have hgated : (start sslEnabled).m_tcpSocketServerTunnelProxy.Gated :=
    ⟨hempty,fun id x hv => by simp [start] at hv,fun _ id x hv => by simp [start] at hv⟩
  refine ⟨⟨hempty,hgated,hempty⟩,.new,fun id hid => ?_,fun id => ?_⟩
  · simp [start,new] at hid
  · simp [tables,start,RemoteProxy.carriers,new,QHash.contains]

theorem run_agrees {events : List Event} (ha : Agrees host d)
    (hp : Runs.Along (step host) Possible d events) :
    Agrees host (Runs.run (step host) d events) := by
  induction events generalizing d with
  | nil => exact ha
  | cons event events ih => exact ih (step_agrees ha hp.1) hp.2

end Step

section Counts

theorem count_keys {V : Type} (h : QHash QUuid V) (id : QUuid) :
    h.keys.count id = if (h.value id).isSome then 1 else 0 := by
  have hmem : id ∈ h.keys ↔ (h.value id).isSome = true :=
    (QHash.mem_keys h id).trans Option.isSome_iff_exists.symm
  rw [h.keys_nodup.count]
  exact if_congr hmem rfl rfl

theorem count_carriers (l : List (QHash QUuid Socket)) (id : QUuid) :
    (l.flatMap AList.keys).count id = RemoteProxy.carriers l id := by
  induction l with
  | nil => rfl
  | cons h l ih => rw [List.flatMap_cons,List.count_append,ih,carriers_cons,count_keys,Nat.add_comm]

theorem count_of_carriers {V : Type} {table : QHash QUuid V} {l : List (QHash QUuid Socket)}
    (hl : ∀ id, RemoteProxy.carriers l id = if table.contains id then 1 else 0) :
    table.count = (l.map QHash.count).sum := by
  have hperm : table.keys.Perm (l.flatMap AList.keys) := by
    refine List.perm_iff_count.mpr fun id => ?_
    rw [count_carriers,hl,count_keys]
    rfl
  have hlength : ∀ {W : Type} (h : QHash QUuid W), h.keys.length = h.count :=
    fun h => List.length_map _
  rw [← hlength,hperm.length_eq,List.length_flatMap]
  exact congrArg List.sum (List.map_congr_left fun h _ => hlength h)

/-- In every run the proxy is as it is where each connection has an id of its own; whom it knows,
exactly one transport has, and its count is the sum of theirs. -/
theorem deployment_agrees {sslEnabled : Bool} {events : List Event}
    (hp : Runs.Along (step host) Possible (start sslEnabled) events) :
    let d := Runs.run (step host) (start sslEnabled) events
    Reachable host.environment d.m_tunnelProxyServer ∧
      (∀ id, RemoteProxy.carriers d.tables id =
        if d.m_tunnelProxyServer.m_proxyClients.contains id then 1 else 0) ∧
      d.m_tunnelProxyServer.m_proxyClients.count =
        d.m_webSocketServerTunnelProxy.connectionsCount +
          d.m_tcpSocketServerTunnelProxy.connectionsCount +
          d.m_unixSocketServerTunnelProxy.connectionsCount := by
  have ha := run_agrees (start_agrees host sslEnabled) hp
  refine ⟨ha.reachable,ha.carriers,?_⟩
  rw [count_of_carriers ha.carriers]
  simp only [tables,List.map_cons,List.map_nil,List.sum_cons,List.sum_nil,Nat.add_zero,
    ← Nat.add_assoc]
  rfl

def sampleHost : Host where
  environment := sampleEnvironment true
  qt6 := true
  createUuid n := ⟨n + 1⟩
  notNull _ := by simp [QUuid.isNull,QUuid.null]
  distinct a b hab := by simpa using hab

/-- A server behind TLS, a client of it on the unix socket, and the end of both with the server's. -/
def sampleArrivals : List Event :=
  [.tcp (.incomingConnection 7 "10.0.0.1"),.webSocket (.newConnection (some (3,13,"10.0.0.3"))),
    .tcp (.encrypted 7),.tcp (.readyRead 7 (request true registerServerRequest)),
    .unix (.newConnection 5),.unix (.readyRead 5 (request true registerClientRequest)),
    .webSocket (.disconnected 3),.tcp (.disconnected 7)]

theorem deployment_agrees_departure :
    let d := Runs.run (step sampleHost) (start true) sampleArrivals
    Reachable sampleHost.environment d.m_tunnelProxyServer ∧
      (∀ id, RemoteProxy.carriers d.tables id =
        if d.m_tunnelProxyServer.m_proxyClients.contains id then 1 else 0) ∧
      d.m_tunnelProxyServer.m_proxyClients.count =
        d.m_webSocketServerTunnelProxy.connectionsCount +
          d.m_tcpSocketServerTunnelProxy.connectionsCount +
          d.m_unixSocketServerTunnelProxy.connectionsCount :=
  deployment_agrees (by decide +kernel)

end Counts

end Deployment

end RemoteProxy
