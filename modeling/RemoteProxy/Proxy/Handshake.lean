import RemoteProxy.Proxy.Deployment
import RemoteProxy.Proxy.Limits

namespace RemoteProxy

open TunnelProxyServer

def SslClient.Waiting (c : SslClient) (now : Nat) : Prop :=
  c.isEncrypted = false → c.closed = false →
    c.m_timer.deadline = some (c.openedAt + 5000) ∧ now ≤ c.openedAt + 5000

namespace TcpSocketServer

variable {s : TcpSocketServer} {now : Nat} {qt6 : Bool} {createUuid : QUuid} {socket : Socket}

structure Guarded (s : TcpSocketServer) (now : Nat) : Prop where
  ssl : s.m_server.m_sslEnabled = true
  waiting : ∀ socket ∈ s.m_server.m_clients, (s.m_server.socket socket).Waiting now

theorem Guarded.congr (h : Guarded s now) {s' : TcpSocketServer} (hs : s'.m_server = s.m_server) :
    Guarded s' now :=
  ⟨hs ▸ h.ssl,hs ▸ h.waiting⟩

theorem Guarded.setSocket (h : Guarded s now) (socket : Socket) {c : SslClient}
    (hc : (s.m_server.socket socket).Waiting now → c.Waiting now) :
    Guarded { s with m_server := s.m_server.setSocket socket c } now := by
  refine ⟨h.ssl,fun x hx => ?_⟩
  have hwaiting := h.waiting x hx
  simp only [SslServer.setSocket,Function.update_apply]
  split
  · next e => exact hc (e ▸ hwaiting)
  · exact hwaiting

theorem Guarded.close (h : Guarded s now) (socket : Socket) :
    Guarded { s with m_server := s.m_server.setSocket socket (s.m_server.socket socket).close } now :=
  h.setSocket socket fun _ _ hopen => by cases hopen

theorem Guarded.disconnected (h : Guarded s now) (qt6 : Bool) (socket : Socket) :
    Guarded (s.disconnected qt6 socket).1 now := by
  refine ⟨?_,fun x hx => ?_⟩
  · rw [disconnected_server]
    exact h.ssl
  · rw [disconnected_server] at hx ⊢
    exact h.waiting x (List.mem_of_mem_filter hx)

theorem Guarded.kill (h : Guarded s now) (qt6 atOnce : Bool) (id : QUuid) :
    Guarded (s.kill qt6 atOnce id) now := by
  cases hv : s.m_clientList.value id with
  | none =>
    simp only [TcpSocketServer.kill,killClientConnection,hv]
    exact h
  | some client =>
    simp only [TcpSocketServer.kill,killClientConnection,hv]
    cases atOnce with
    | false => exact h.close client
    | true => exact (h.close client).disconnected qt6 client

theorem Guarded.incoming (h : Guarded s now) (socket : Socket) (address : String) :
    Guarded { s with m_server := s.m_server.incomingConnection now socket address } now := by
  refine ⟨h.ssl,fun x hx => ?_⟩
  rcases eq_or_ne x socket with rfl | hne
  · simp only [SslServer.incomingConnection,SslServer.setSocket,Function.update_self,h.ssl,if_true]
    exact fun _ _ => ⟨rfl,Nat.le_add_right _ _⟩
  · simp only [SslServer.incomingConnection,SslServer.setSocket,Function.update_of_ne hne]
    refine h.waiting x ?_
    simpa [SslServer.incomingConnection,SslServer.setSocket,hne] using hx

theorem Guarded.step (h : Guarded s now) (event : Event) :
    Guarded (s.step qt6 now createUuid event).1 now := by
  cases event with
  | incomingConnection socket address =>
    simp only [TcpSocketServer.step]
    split
    · exact h.incoming socket address
    · next hplain => exact absurd h.ssl hplain
  | encrypted socket =>
    exact (h.setSocket socket (c := (s.m_server.socket socket).encrypted) fun _ henc => by
      cases henc).congr rfl
  | readyRead socket data => exact h
  | disconnected socket => exact h.disconnected qt6 socket
  | timeout socket =>
    refine h.setSocket socket fun hwaiting => ?_
    simp only [SslClient.timeout]
    split
    · exact fun _ hopen => by cases hopen
    · exact hwaiting
  | errorOccurred socket => exact h.close socket

theorem step_silent (qt6 : Bool) (now : Nat) (createUuid : QUuid) (hg : s.Gated)
    (hssl : s.m_server.m_sslEnabled = true) {event : Event}
    (hplain : (s.m_server.socket event.socket).isEncrypted = false)
    (hevent : event ≠ .encrypted event.socket) :
    (s.step qt6 now createUuid event).2 = [] := by
  have hnone : ∀ id, s.m_clientList.value id ≠ some event.socket := by
    intro id hv
    rw [hg.encrypted hssl id _ hv] at hplain
    cases hplain
  cases event with
  | incomingConnection socket address =>
    have hincoming : (s.m_server.incomingConnection now socket address).m_sslEnabled = true := hssl
    simp only [TcpSocketServer.step,hincoming,if_true]
  | encrypted socket => exact absurd rfl hevent
  | readyRead socket data =>
    simp only [Event.socket] at hplain
    simp [TcpSocketServer.step,SslServer.tellsData,hssl,hplain]
  | disconnected socket =>
    have hkey := key_unknown hnone
    simp only [Event.socket] at hkey
    simp only [TcpSocketServer.step,TcpSocketServer.disconnected]
    split
    · simp [onSocketDisconnected,hkey,QUuid.isNull]
    · rfl
  | timeout socket => rfl
  | errorOccurred socket => rfl

end TcpSocketServer

namespace Deployment

variable {host : Host} {d : Deployment}

abbrev Guarded (d : Deployment) : Prop :=
  d.m_tcpSocketServerTunnelProxy.Guarded d.m_tunnelProxyServer.now

def OnTime (d : Deployment) : Event → Prop
  | .elapse ms =>
    ∀ socket ∈ d.m_tcpSocketServerTunnelProxy.m_server.m_clients,
      (d.m_tcpSocketServerTunnelProxy.m_server.socket socket).closed = false →
      ∀ deadline ∈ (d.m_tcpSocketServerTunnelProxy.m_server.socket socket).m_timer.deadline,
        d.m_tunnelProxyServer.now + ms ≤ deadline
  | _ => True

instance decidableOnTime (d : Deployment) : (event : Event) → Decidable (d.OnTime event)
  | .webSocket _ => inferInstanceAs (Decidable True)
  | .tcp _ => inferInstanceAs (Decidable True)
  | .unix _ => inferInstanceAs (Decidable True)
  | .inactiveTimeout _ => inferInstanceAs (Decidable True)
  | .elapse ms =>
    inferInstanceAs (Decidable (∀ socket ∈ _, _ → ∀ deadline ∈ _, _ + ms ≤ deadline))

theorem now_step {env : Environment} {s : TunnelProxyServer} (hc : Consistent [] s)
    {event : TunnelProxyServer.Event} (hfresh : s.Fresh event) (helapse : ∀ ms, event ≠ .elapse ms) :
    (s.step env event).now = s.now := by
  have hstep := stepped env hc hfresh
  generalize s.step env event = t at hstep ⊢
  cases hstep with
  | admitted _ => rfl
  | received _ hw => exact (effects_now hw).trans rfl
  | ignored _ => rfl
  | left hw => exact effects_now hw
  | timedOut hw => exact effects_now hw
  | elapsed => exact absurd rfl (helapse _)

theorem Guarded.obey {now : Nat} (h : d.m_tcpSocketServerTunnelProxy.Guarded now) (n : Nat)
    (out : List Output) : (obey host n d out).m_tcpSocketServerTunnelProxy.Guarded now := by
  induction out generalizing n d with
  | nil => exact h
  | cons x out ih =>
    cases x with
    | killed o reason => exact ih (h.kill host.qt6 (host.environment.reportsAtOnce n) o) (n + 1)
    | sent => exact ih h n
    | assertFailed => exact ih h n

theorem deliver_guarded {event : TunnelProxyServer.Event} (hg : Guarded d)
    (hc : Consistent [] d.m_tunnelProxyServer) (hfresh : d.m_tunnelProxyServer.Fresh event)
    (helapse : ∀ ms, event ≠ .elapse ms) : Guarded (d.deliver host event) := by
  rw [Guarded,deliver_proxy,now_step hc hfresh helapse]
  exact Guarded.obey (d := { d with
    m_tunnelProxyServer := d.m_tunnelProxyServer.step host.environment event }) hg _ _

theorem elapse_guarded {ms : Nat} (hg : Guarded d) (ht : d.OnTime (.elapse ms)) :
    Guarded (d.deliver host (.elapse ms)) := by
  have hlater : d.m_tcpSocketServerTunnelProxy.Guarded (d.m_tunnelProxyServer.now + ms) := by
    refine ⟨hg.ssl,fun socket hsocket hplain hopen => ?_⟩
    obtain ⟨hdeadline,-⟩ := hg.waiting socket hsocket hplain hopen
    exact ⟨hdeadline,ht socket hsocket hopen _ hdeadline⟩
  rw [Guarded,deliver_proxy]
  exact Guarded.obey (d := { d with
    m_tunnelProxyServer := d.m_tunnelProxyServer.step host.environment (.elapse ms) }) hlater _ _

theorem emit_guarded {d' : Deployment} {h h' : QHash QUuid Socket} {signals : List Signal}
    (ha : Agrees host d) (hg : Guarded d') (hproxy : d'.m_tunnelProxyServer = d.m_tunnelProxyServer)
    (hc : Change (host.createUuid d.created) h h' signals) : Guarded (emit host d' signals) := by
  rcases hc.signals with rfl | ⟨signal,rfl,harrive⟩
  · exact hg
  · refine deliver_guarded hg ?_ ?_ fun ms => by cases signal <;> simp [Signal.slot]
    · exact hproxy ▸ reachable_consistent ha.reachable
    · exact hproxy ▸ ha.fresh harrive

theorem step_guarded (ha : Agrees host d) (hg : Guarded d) {event : Event}
    (hp : d.Possible event) (ht : d.OnTime event) : Guarded (d.step host event) := by
  have hnull := host.notNull d.created
  have hs := ha.serving
  cases event with
  | webSocket event => exact emit_guarded ha hg rfl (WebSocketServer.step_sound hs.webSocket hnull hp).2
  | tcp event =>
    exact emit_guarded ha (hg.step event) rfl (TcpSocketServer.step_gated _ _ hs.tcp hnull hp).2
  | unix event => exact emit_guarded ha hg rfl (UnixSocketServer.step_sound hs.unix hnull hp).2
  | inactiveTimeout clientId =>
    exact deliver_guarded hg (reachable_consistent ha.reachable) trivial fun ms => by simp
  | elapse ms => exact elapse_guarded hg ht

theorem run_guarded {events : List Event} (ha : Agrees host d) (hg : Guarded d)
    (hp : Runs.Along (step host) Possible d events) (ht : Runs.Along (step host) OnTime d events) :
    Guarded (Runs.run (step host) d events) := by
  induction events generalizing d with
  | nil => exact hg
  | cons event events ih =>
    exact ih (step_agrees ha hp.1) (step_guarded ha hg hp.1 ht.1) hp.2 ht.2

/-- With TLS only encrypted connections have an id, one that does not get there is closed within
five seconds, and until then it does nothing to the proxy. -/
theorem handshake_enforced {events : List Event}
    (hp : Runs.Along (step host) Possible (start true) events)
    (ht : Runs.Along (step host) OnTime (start true) events) :
    let d := Runs.run (step host) (start true) events
    let server := d.m_tcpSocketServerTunnelProxy.m_server
    (∀ id socket, d.m_tcpSocketServerTunnelProxy.m_clientList.value id = some socket →
      (server.socket socket).isEncrypted = true) ∧
    (∀ socket ∈ server.m_clients, (server.socket socket).isEncrypted = true ∨
      (server.socket socket).closed = true ∨
      d.m_tunnelProxyServer.now ≤ (server.socket socket).openedAt + 5000) ∧
    ∀ event : TcpSocketServer.Event, (server.socket event.socket).isEncrypted = false →
      event ≠ .encrypted event.socket →
      (d.step host (.tcp event)).m_tunnelProxyServer = d.m_tunnelProxyServer := by
  have ha := run_agrees (start_agrees host true) hp
  have hstart : Guarded (start true) := ⟨rfl,fun socket hsocket => by simp [start] at hsocket⟩
  have hg := run_guarded (start_agrees host true) hstart hp ht
  generalize Runs.run (step host) (start true) events = d at ha hg ⊢
  refine ⟨ha.serving.tcp.encrypted hg.ssl,fun socket hsocket => ?_,fun event hplain hevent => ?_⟩
  · cases hencrypted : (d.m_tcpSocketServerTunnelProxy.m_server.socket socket).isEncrypted with
    | true => exact .inl rfl
    | false =>
      cases hclosed : (d.m_tcpSocketServerTunnelProxy.m_server.socket socket).closed with
      | true => exact .inr (.inl rfl)
      | false => exact .inr (.inr (hg.waiting socket hsocket hencrypted hclosed).2)
  · have hsilent := TcpSocketServer.step_silent host.qt6 d.m_tunnelProxyServer.now
      (host.createUuid d.created) ha.serving.tcp hg.ssl hplain hevent
    simp only [step,hsilent]
    rfl

/-- One connection that encrypts, and one that sends in the clear until its time is up. -/
def sampleHandshakes : List Event :=
  [.tcp (.incomingConnection 7 "10.0.0.1"),.tcp (.incomingConnection 8 "10.0.0.2"),.elapse 3000,
    .tcp (.encrypted 7),.tcp (.readyRead 7 (request true registerServerRequest)),
    .tcp (.readyRead 8 (request true registerClientRequest)),.elapse 2000,.tcp (.timeout 8),
    .elapse 1000]

theorem handshake_enforced_plain :
    let d := Runs.run (step sampleHost) (start true) sampleHandshakes
    let server := d.m_tcpSocketServerTunnelProxy.m_server
    (∀ id socket, d.m_tcpSocketServerTunnelProxy.m_clientList.value id = some socket →
      (server.socket socket).isEncrypted = true) ∧
    (∀ socket ∈ server.m_clients, (server.socket socket).isEncrypted = true ∨
      (server.socket socket).closed = true ∨
      d.m_tunnelProxyServer.now ≤ (server.socket socket).openedAt + 5000) ∧
    ∀ event : TcpSocketServer.Event, (server.socket event.socket).isEncrypted = false →
      event ≠ .encrypted event.socket →
      (d.step sampleHost (.tcp event)).m_tunnelProxyServer = d.m_tunnelProxyServer :=
  handshake_enforced (by decide +kernel) (by decide +kernel)

end Deployment

end RemoteProxy
