import RemoteProxy.Foundation.Runs

namespace RemoteProxy.Engine

structure ProxyConfiguration where
  serverName : String
  logEngineEnabled : Bool
  monitorSocketFileName : String
  sslEnabled : Bool
  unixSocketFileName : String
  webSocketServerTunnelProxyHost : String
  webSocketServerTunnelProxyPort : Nat
  tcpServerTunnelProxyHost : String
  tcpServerTunnelProxyPort : Nat

structure ServerUrl where
  scheme : String
  host : String
  port : Nat
  deriving DecidableEq

inductive TransportInterface where
  | webSocketServer (serverUrl : ServerUrl)
  | tcpSocketServer (serverUrl : ServerUrl)
  | unixSocketServer (fileName : String)
  deriving DecidableEq

structure ProxyServer where
  m_transportInterfaces : List TransportInterface
  m_running : Bool

namespace ProxyServer

def registerTransportInterface (p : ProxyServer) (interface : TransportInterface) : ProxyServer :=
  if p.m_transportInterfaces.contains interface then p
  else { p with m_transportInterfaces := p.m_transportInterfaces ++ [interface] }

def setRunning (p : ProxyServer) (running : Bool) : ProxyServer := { p with m_running := running }

def startServer (p : ProxyServer) : ProxyServer := p.setRunning true

end ProxyServer

structure MonitorServer where
  m_serverName : String

end RemoteProxy.Engine

namespace RemoteProxy

/-- `queued` lists the calls of `setRunning` that the event loop has still to make. -/
structure Engine where
  m_running : Bool
  m_configuration : Option Engine.ProxyConfiguration
  m_tunnelProxyServer : Option Engine.ProxyServer
  m_webSocketServerTunnelProxy : Option Engine.TransportInterface
  m_tcpSocketServerTunnelProxy : Option Engine.TransportInterface
  m_unixSocketServerTunnelProxy : Option Engine.TransportInterface
  m_monitorServer : Option Engine.MonitorServer
  m_logEngine : Bool
  m_timer : Bool
  queued : List Bool
  runningChanged : List Bool

namespace Engine

def new : Engine where
  m_running := false
  m_configuration := none
  m_tunnelProxyServer := none
  m_webSocketServerTunnelProxy := none
  m_tcpSocketServerTunnelProxy := none
  m_unixSocketServerTunnelProxy := none
  m_monitorServer := none
  m_logEngine := false
  m_timer := false
  queued := []
  runningChanged := []

def clean (s : Engine) : Engine :=
  { s with
    m_monitorServer := none
    m_tunnelProxyServer := none
    m_tcpSocketServerTunnelProxy := none
    m_webSocketServerTunnelProxy := none
    m_unixSocketServerTunnelProxy := none
    m_configuration := none }

def setRunning (s : Engine) (running : Bool) : Engine :=
  if s.m_running = running then s
  else
    { s with
      m_tunnelProxyServer := s.m_tunnelProxyServer.map (·.setRunning running)
      m_timer := running
      m_running := running
      runningChanged := s.runningChanged ++ [running] }

def start (s : Engine) (configuration : ProxyConfiguration) : Engine :=
  let s := s.clean
  let webSocketServer := .webSocketServer ⟨if configuration.sslEnabled then "wss" else "ws",
    configuration.webSocketServerTunnelProxyHost,configuration.webSocketServerTunnelProxyPort⟩
  let tcpSocketServer := .tcpSocketServer ⟨if configuration.sslEnabled then "ssl" else "tcp",
    configuration.tcpServerTunnelProxyHost,configuration.tcpServerTunnelProxyPort⟩
  let unixSocketServer := .unixSocketServer configuration.unixSocketFileName
  let tunnelProxyServer : ProxyServer := ⟨[],false⟩
  let tunnelProxyServer := tunnelProxyServer.registerTransportInterface webSocketServer
  let tunnelProxyServer := tunnelProxyServer.registerTransportInterface tcpSocketServer
  let tunnelProxyServer := tunnelProxyServer.registerTransportInterface unixSocketServer
  { s with
    m_configuration := some configuration
    m_tunnelProxyServer := some tunnelProxyServer.startServer
    m_webSocketServerTunnelProxy := some webSocketServer
    m_tcpSocketServerTunnelProxy := some tcpSocketServer
    m_unixSocketServerTunnelProxy := some unixSocketServer
    m_monitorServer := some ⟨configuration.monitorSocketFileName⟩
    m_logEngine := configuration.logEngineEnabled || s.m_logEngine
    queued := s.queued ++ [true] }

def stop (s : Engine) : Engine := s.clean.setRunning false

def running (s : Engine) : Bool := s.m_running

def deliver (s : Engine) : Engine :=
  match s.queued with
  | [] => s
  | running :: queued => { s with queued := queued }.setRunning running

inductive Event where
  | start (configuration : ProxyConfiguration)
  | stop
  | deliver

def step (s : Engine) : Event → Engine
  | .start configuration => s.start configuration
  | .stop => s.stop
  | .deliver => s.deliver

def startedAfter (started : Bool) : Event → Bool
  | .start _ => true
  | .stop => false
  | .deliver => started

def called (s : Engine × Bool) (event : Event) : Engine × Bool :=
  (s.1.step event,startedAfter s.2 event)

/-- The members are there while the engine runs, and it runs as it was last told to. -/
structure Matches (s : Engine) (started : Bool) : Prop where
  served : s.m_running = true → s.m_tunnelProxyServer.isSome = true ∧
    s.m_monitorServer.isSome = true ∧ s.m_configuration.isSome = true
  current : s.queued = [] → (s.running = true ↔ started = true)

def Timely (s : Engine × Bool) (event : Event) : Prop :=
  event matches .deliver → s.1.queued ≠ [] → s.2 = true

structure Members (s : Engine) (started : Bool) : Prop where
  tunnelProxyServer : s.m_tunnelProxyServer.isSome = started
  monitorServer : s.m_monitorServer.isSome = started
  configuration : s.m_configuration.isSome = started

/-- What `start` and `stop` leave behind, whenever the queued calls are made. -/
structure Built (s : Engine) (started : Bool) : Prop where
  members : Members s started
  queued : ∀ running ∈ s.queued, running = true
  reached : started = true → s.queued = [] → s.m_running = true

variable {s : Engine} {started : Bool}

theorem setRunning_running (s : Engine) (running : Bool) :
    (s.setRunning running).m_running = running := by
  rw [setRunning]
  split
  · next h => exact h
  · rfl

theorem setRunning_queued (s : Engine) (running : Bool) :
    (s.setRunning running).queued = s.queued := by
  rw [setRunning]
  split
  · rfl
  · rfl

theorem Members.setRunning (h : Members s started) (running : Bool) :
    Members (s.setRunning running) started := by
  rw [Engine.setRunning]
  split
  · exact h
  · exact ⟨Option.isSome_map.trans h.tunnelProxyServer,h.monitorServer,h.configuration⟩

theorem stop_members (s : Engine) : Members s.stop false :=
  Members.setRunning (s := s.clean) ⟨rfl,rfl,rfl⟩ false

theorem step_built (h : Built s started) (event : Event) :
    Built (s.step event) (startedAfter started event) := by
  cases event with
  | start configuration =>
    refine ⟨⟨rfl,rfl,rfl⟩,?_,fun _ hqueued => ?_⟩
    · intro running hmem
      rcases List.mem_append.mp hmem with hmem | hmem
      · exact h.queued running hmem
      · exact List.mem_singleton.mp hmem
    · exact absurd hqueued (List.append_ne_nil_of_right_ne_nil s.queued (List.cons_ne_nil true []))
  | stop =>
    refine ⟨stop_members s,?_,fun hfalse => absurd hfalse Bool.false_ne_true⟩
    simp only [step,stop,setRunning_queued]
    exact h.queued
  | deliver =>
    simp only [step,deliver]
    cases hqueued : s.queued with
    | nil => exact h
    | cons running queued =>
      have hall : ∀ x ∈ running :: queued, x = true := hqueued ▸ h.queued
      obtain rfl := hall running List.mem_cons_self
      refine ⟨Members.setRunning (s := { s with queued := queued }) ?_ true,?_,fun _ _ => ?_⟩
      · exact ⟨h.members.tunnelProxyServer,h.members.monitorServer,h.members.configuration⟩
      · rw [setRunning_queued]
        exact fun x hx => hall x (List.mem_cons_of_mem true hx)
      · exact setRunning_running _ true

theorem matches_iff (h : Built s started) :
    Matches s started ↔ (s.m_running = true → started = true) := by
  constructor
  · intro hm hrunning
    rw [← h.members.tunnelProxyServer]
    exact (hm.served hrunning).1
  · intro hstarted
    refine ⟨fun hrunning => ?_,fun hqueued => ⟨hstarted,fun hs => h.reached hs hqueued⟩⟩
    obtain rfl := hstarted hrunning
    exact ⟨h.members.tunnelProxyServer,h.members.monitorServer,h.members.configuration⟩

theorem step_matches_iff (h : Built s started) (hm : Matches s started) (event : Event) :
    Matches (s.step event) (startedAfter started event) ↔
      (event matches .deliver → s.queued ≠ [] → started = true) := by
  rw [matches_iff (step_built h event)]
  cases event with
  | start configuration => exact iff_of_true (fun _ => rfl) (fun hdeliver => by cases hdeliver)
  | stop =>
    refine iff_of_true (fun hrunning => ?_) (fun hdeliver => by cases hdeliver)
    rw [step,stop,setRunning_running] at hrunning
    cases hrunning
  | deliver =>
    simp only [step,deliver,startedAfter]
    cases hqueued : s.queued with
    | nil => exact iff_of_true ((matches_iff h).mp hm) fun _ hne => absurd rfl hne
    | cons running queued =>
      obtain rfl := h.queued running (hqueued ▸ List.mem_cons_self)
      exact ⟨fun hstarted _ _ => hstarted (setRunning_running _ true),
        fun htimely _ => htimely trivial (List.cons_ne_nil _ _)⟩

/-- The engine is as it was last told to be, and has its members while it runs, exactly if no queued
call is made after a `stop`. -/
theorem running_matches_iff (events : List Event) :
    Runs.Always called (fun s => Matches s.1 s.2) (new,false) events ↔
      Runs.Along called Timely (new,false) events := by
  have hbuilt : Built new false := by
    refine ⟨⟨rfl,rfl,rfl⟩,?_,?_⟩
    · exact fun running hmem => absurd hmem List.not_mem_nil
    · exact fun hfalse => absurd hfalse Bool.false_ne_true
  refine Runs.always_iff_along (I := fun s => Built s.1 s.2) hbuilt ?_ ?_ ?_
  · exact (matches_iff hbuilt).mpr id
  · exact fun s event h _ => step_built h event
  · exact fun s event h hm => step_matches_iff h hm event

/-- Stopped before the event loop comes around, the engine runs all the same. -/
def stoppedEarly (configuration : ProxyConfiguration) : List Event :=
  [.start configuration,.stop,.deliver]

def sampleConfiguration : ProxyConfiguration :=
  ⟨"nymea-remoteproxy",false,"/tmp/monitor.sock",false,"/tmp/proxy.sock","127.0.0.1",2212,
    "127.0.0.1",2213⟩

theorem stopped_runs :
    (Runs.run called (new,false) (stoppedEarly sampleConfiguration)).1.running = true ∧
      (Runs.run called (new,false) (stoppedEarly sampleConfiguration)).1.queued = [] ∧
      (Runs.run called (new,false) (stoppedEarly
        sampleConfiguration)).1.m_tunnelProxyServer.isNone = true ∧
      ¬Runs.Always called (fun s => Matches s.1 s.2) (new,false)
        (stoppedEarly sampleConfiguration) :=
  ⟨rfl,rfl,rfl,fun h => Bool.false_ne_true (h.2.2.2.served rfl).1⟩

end Engine

end RemoteProxy
