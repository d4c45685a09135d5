import RemoteProxy.Proxy.Deployment

namespace RemoteProxy

open TunnelProxyServer

def Shrinks (h h' : QHash QUuid Socket) : Prop :=
  ∀ id socket, h'.value id = some socket → h.value id = some socket

variable {h h' : QHash QUuid Socket} {id createUuid : QUuid} {socket : Socket}

theorem Shrinks.none (hs : Shrinks h h') (hv : h.value id = none) : h'.value id = none := by
  cases hv' : h'.value id with
  | none => rfl
  | some socket => rw [hs id socket hv'] at hv; cases hv

theorem Killed.shrinks {atOnce : Bool} (hk : Killed atOnce id h h') : Shrinks h h' := by
  intro x socket hv
  rw [hk x] at hv
  split at hv
  · cases hv
  · exact hv

theorem Change.value {signals : List Signal} (hc : Change createUuid h h' signals)
    (hv : h'.value id = some socket) : h.value id = some socket ∨ id = createUuid := by
  cases hc with
  | silent => exact .inl hv
  | data => exact .inl hv
  | connected _ =>
    rw [QHash.value_insert] at hv
    split at hv
    · next hid => exact .inr hid
    · exact .inl hv
  | disconnected _ =>
    rw [QHash.value_remove] at hv
    split at hv
    · cases hv
    · exact .inl hv

namespace UnixSocketServer

theorem kill_captured (s : UnixSocketServer) (atOnce : Bool) (id : QUuid) :
    (s.kill atOnce id).captured = s.captured := by
  simp only [kill]
  split
  · rfl
  · split
    · rfl
    · rfl

end UnixSocketServer

namespace Deployment

variable {host : Host} {d d' : Deployment}

/-- The ids that the unix sockets were given are theirs alone, for as long as these are there. -/
structure Remembers (host : Host) (d : Deployment) : Prop where
  created : ∀ client, d.m_unixSocketServerTunnelProxy.captured client = QUuid.null ∨
    ∃ n < d.created, host.createUuid n = d.m_unixSocketServerTunnelProxy.captured client
  distinct : ∀ a b, d.m_unixSocketServerTunnelProxy.captured a =
    d.m_unixSocketServerTunnelProxy.captured b →
    d.m_unixSocketServerTunnelProxy.captured a ≠ QUuid.null → a = b
  listed : ∀ id client, d.m_unixSocketServerTunnelProxy.m_clientList.value id = some client →
    d.m_unixSocketServerTunnelProxy.captured client = id
  alone : ∀ client, d.m_unixSocketServerTunnelProxy.captured client ≠ QUuid.null →
    d.m_webSocketServerTunnelProxy.m_clientList.value
        (d.m_unixSocketServerTunnelProxy.captured client) = none ∧
      d.m_tcpSocketServerTunnelProxy.m_clientList.value
        (d.m_unixSocketServerTunnelProxy.captured client) = none

structure Thins (d d' : Deployment) : Prop where
  webSocket : Shrinks d.m_webSocketServerTunnelProxy.m_clientList
    d'.m_webSocketServerTunnelProxy.m_clientList
  tcp : Shrinks d.m_tcpSocketServerTunnelProxy.m_clientList
    d'.m_tcpSocketServerTunnelProxy.m_clientList
  unix : Shrinks d.m_unixSocketServerTunnelProxy.m_clientList
    d'.m_unixSocketServerTunnelProxy.m_clientList
  captured : d'.m_unixSocketServerTunnelProxy.captured = d.m_unixSocketServerTunnelProxy.captured
  created : d'.created = d.created

theorem Remembers.thin (hr : Remembers host d) (ht : Thins d d') : Remembers host d' := by
  constructor
  · rw [ht.captured,ht.created]
    exact hr.created
  · rw [ht.captured]
    exact hr.distinct
  · rw [ht.captured]
    exact fun id client hv => hr.listed id client (ht.unix id client hv)
  · rw [ht.captured]
    intro client hne
    obtain ⟨hwebSocket,htcp⟩ := hr.alone client hne
    exact ⟨ht.webSocket.none hwebSocket,ht.tcp.none htcp⟩

theorem Thins.refl (d : Deployment) : Thins d d :=
  ⟨fun _ _ hv => hv,fun _ _ hv => hv,fun _ _ hv => hv,rfl,rfl⟩

theorem Thins.trans {d'' : Deployment} (h : Thins d d') (h' : Thins d' d'') : Thins d d'' where
  webSocket id socket hv := h.webSocket id socket (h'.webSocket id socket hv)
  tcp id socket hv := h.tcp id socket (h'.tcp id socket hv)
  unix id socket hv := h.unix id socket (h'.unix id socket hv)
  captured := h'.captured.trans h.captured
  created := h'.created.trans h.created

theorem Serving.kill_thins (hs : Serving d) (atOnce : Bool) (id : QUuid) :
    Thins d (d.killClientConnection host atOnce id) where
  webSocket := (WebSocketServer.kill_sound hs.webSocket atOnce id).2.shrinks
  tcp := (hs.tcp.kill host.qt6 atOnce id).2.shrinks
  unix := (UnixSocketServer.kill_sound hs.unix atOnce id).2.shrinks
  captured := UnixSocketServer.kill_captured _ atOnce id
  created := rfl

theorem Serving.obey_thins (host : Host) (hs : Serving d) (n : Nat) (out : List Output) :
    Thins d (Deployment.obey host n d out) := by
  induction out generalizing n d with
  | nil => exact .refl d
  | cons x out ih =>
    cases x with
    | killed o reason =>
      have hkept := (hs.kill host (host.environment.reportsAtOnce n) o).1
      exact (hs.kill_thins _ o).trans (ih hkept (n + 1))
    | sent => exact ih hs n
    | assertFailed => exact ih hs n

theorem Serving.deliver_thins (hs : Serving d) (event : TunnelProxyServer.Event) :
    Thins d (d.deliver host event) := by
  have hserving : Serving { d with
      m_tunnelProxyServer := d.m_tunnelProxyServer.step host.environment event } := ⟨hs.1,hs.2,hs.3⟩
  obtain ⟨hwebSocket,htcp,hunix,hcaptured,hcreated⟩ := hserving.obey_thins host
    d.m_tunnelProxyServer.killCount ((d.m_tunnelProxyServer.step host.environment event).output.drop
      d.m_tunnelProxyServer.output.length)
  exact ⟨hwebSocket,htcp,hunix,hcaptured,hcreated⟩

theorem Agrees.unknown_iff (ha : Agrees host d) (id : QUuid) :
    d.m_tunnelProxyServer.m_proxyClients.contains id = false ↔
      ∀ h ∈ d.tables, h.value id = none := by
  have hzero : RemoteProxy.carriers d.tables id = 0 ↔ ∀ h ∈ d.tables, h.value id = none := by
    rw [RemoteProxy.carriers,List.countP_eq_zero]
    refine forall₂_congr fun h _ => ?_
    rw [← QHash.contains_eq_false,Bool.not_eq_true]
  rw [← hzero,ha.carriers]
  split
  · next hknown => simp [hknown]
  · next hunknown => simpa using hunknown

theorem Agrees.free (ha : Agrees host d) :
    d.m_tunnelProxyServer.m_proxyClients.contains (host.createUuid d.created) = false :=
  (QHash.contains_eq_false _ _).mpr
    (value_unknown (reachable_consistent ha.reachable) ha.unused)

theorem Remembers.fresh (hr : Remembers host d) {client : Socket}
    (hne : d.m_unixSocketServerTunnelProxy.captured client ≠ QUuid.null) :
    d.m_unixSocketServerTunnelProxy.captured client ≠ host.createUuid d.created := by
  intro hsame
  rcases hr.created client with hnull | ⟨n,hlt,hn⟩
  · exact hne hnull
  · have hsame : n = d.created := host.distinct (hn.trans hsame)
    omega

theorem Remembers.later (hr : Remembers host d) :
    Remembers host { d with created := d.created + 1 } :=
  ⟨fun client => (hr.created client).imp (fun hnull => hnull)
      fun ⟨n,hlt,hn⟩ => ⟨n,Nat.lt_succ_of_lt hlt,hn⟩,
    hr.distinct,hr.listed,hr.alone⟩

theorem Remembers.spared {signals : List Signal} (hr : Remembers host d)
    (hc : Change (host.createUuid d.created) h h' signals) {client : Socket}
    (hne : d.m_unixSocketServerTunnelProxy.captured client ≠ QUuid.null)
    (hv : h.value (d.m_unixSocketServerTunnelProxy.captured client) = none) :
    h'.value (d.m_unixSocketServerTunnelProxy.captured client) = none := by
  cases hv' : h'.value (d.m_unixSocketServerTunnelProxy.captured client) with
  | none => rfl
  | some socket =>
    rcases hc.value hv' with hold | hnew
    · rw [hv] at hold
      cases hold
    · exact absurd hnew (hr.fresh hne)

theorem Remembers.connected (ha : Agrees host d) (hr : Remembers host d) {client : Socket}
    (hnew : client ∉ d.m_unixSocketServerTunnelProxy.m_clientList.values) :
    Remembers host { d with
      m_unixSocketServerTunnelProxy := (d.m_unixSocketServerTunnelProxy.onClientConnected
        (host.createUuid d.created) client).1
      created := d.created + 1 } := by
  have hfree := (ha.unknown_iff _).mp ha.free
  have hnull : host.createUuid d.created ≠ QUuid.null := by
    have := host.notNull d.created
    simpa [QUuid.isNull] using this
  constructor
  · intro x
    simp only [UnixSocketServer.onClientConnected,Function.update_apply]
    split
    · exact .inr ⟨d.created,Nat.lt_succ_self _,rfl⟩
    · exact hr.later.created x
  · intro a b hsame hne
    simp only [UnixSocketServer.onClientConnected,Function.update_apply] at hsame hne
    split at hsame
    · next ha =>
      split at hsame
      · next hb => rw [ha,hb]
      · exact absurd hsame.symm (hr.fresh (hsame ▸ hnull))
    · next ha =>
      rw [if_neg ha] at hne
      split at hsame
      · exact absurd hsame (hr.fresh hne)
      · exact hr.distinct a b hsame hne
  · intro id x hv
    simp only [UnixSocketServer.onClientConnected,QHash.value_insert,Function.update_apply] at hv ⊢
    split at hv
    · next hid =>
      cases hv
      rw [if_pos rfl,hid]
    · have hne : x ≠ client := by
        rintro rfl
        exact unlisted hnew id hv
      rw [if_neg hne]
      exact hr.listed id x hv
  · intro x hne
    simp only [UnixSocketServer.onClientConnected,Function.update_apply] at hne ⊢
    split
    · exact ⟨hfree _ (by simp [tables]),hfree _ (by simp [tables])⟩
    · next hx =>
      rw [if_neg hx] at hne
      exact hr.alone x hne

theorem emit_thins {signals : List Signal} (hs : Serving d)
    (hc : Change createUuid h h' signals) :
    Thins { d with created := d.created + 1 } (emit host d signals) := by
  have hserving : Serving { d with created := d.created + 1 } := ⟨hs.1,hs.2,hs.3⟩
  rcases hc.signals with rfl | ⟨signal,rfl,-⟩
  · exact .refl _
  · exact hserving.deliver_thins signal.slot

theorem step_remembers (ha : Agrees host d) (hr : Remembers host d) {event : Event}
    (hp : d.Possible event) : Remembers host (d.step host event) := by
  have hnull := host.notNull d.created
  have hs := ha.serving
  have hl := hr.later
  cases event with
  | webSocket event =>
    obtain ⟨hsound,hc⟩ := WebSocketServer.step_sound hs.webSocket hnull hp
    refine Remembers.thin ?_ (emit_thins ⟨hsound,hs.tcp,hs.unix⟩ hc)
    exact ⟨hl.created,hl.distinct,hl.listed,fun client hne =>
      ⟨hr.spared hc hne (hr.alone client hne).1,(hr.alone client hne).2⟩⟩
  | tcp event =>
    obtain ⟨hsound,hc⟩ := TcpSocketServer.step_gated host.qt6
      d.m_tunnelProxyServer.now hs.tcp hnull hp
    refine Remembers.thin ?_ (emit_thins ⟨hs.webSocket,hsound,hs.unix⟩ hc)
    exact ⟨hl.created,hl.distinct,hl.listed,fun client hne =>
      ⟨(hr.alone client hne).1,hr.spared hc hne (hr.alone client hne).2⟩⟩
  | unix event =>
    obtain ⟨hsound,hc⟩ := UnixSocketServer.step_sound hs.unix hnull hp
    refine Remembers.thin ?_ (emit_thins ⟨hs.webSocket,hs.tcp,hsound⟩ hc)
    cases event with
    | newConnection client => exact hr.connected ha hp
    | readyRead client data => exact hl
    | disconnected client =>
      refine hl.thin ⟨fun _ _ hv => hv,fun _ _ hv => hv,fun id x hv => ?_,rfl,rfl⟩
      simp only [UnixSocketServer.step,UnixSocketServer.disconnected,QHash.value_remove] at hv
      split at hv
      · cases hv
      · exact hv
  | inactiveTimeout clientId => exact hr.thin (hs.deliver_thins _)
  | elapse ms => exact hr.thin (hs.deliver_thins _)

theorem run_remembers {events : List Event} (ha : Agrees host d) (hr : Remembers host d)
    (hp : Runs.Along (step host) Possible d events) :
    Remembers host (Runs.run (step host) d events) := by
  induction events generalizing d with
  | nil => exact hr
  | cons event events ih => exact ih (step_agrees ha hp.1) (step_remembers ha hr hp.1) hp.2

/-- What comes in, the socket that it comes in over, and the table of that socket's transport. -/
def Event.received (d : Deployment) : Event → Option (QHash QUuid Socket × Socket × QByteArray)
  | .webSocket (.textMessageReceived client message) =>
    some (d.m_webSocketServerTunnelProxy.m_clientList,client,
      (d.m_webSocketServerTunnelProxy.onTextMessageReceived client message).2)
  | .tcp (.readyRead socket data) =>
    some (d.m_tcpSocketServerTunnelProxy.m_clientList,socket,data)
  | .unix (.readyRead client data) =>
    some (d.m_unixSocketServerTunnelProxy.m_clientList,client,data)
  | _ => none

theorem ignored {env : Environment} {s : TunnelProxyServer} {data : QByteArray}
    (hv : s.m_proxyClients.value id = none) : s.step env (.dataAvailable id data) = s := by
  simp only [TunnelProxyServer.step,onClientDataAvailable,hv]

theorem Agrees.null (ha : Agrees host d) :
    d.m_tunnelProxyServer.m_proxyClients.value QUuid.null = none := by
  rw [← QHash.contains_eq_false,ha.unknown_iff]
  simp only [tables,List.mem_cons,List.not_mem_nil,or_false]
  rintro h (rfl | rfl | rfl)
  · exact ha.serving.webSocket.notNull
  · exact ha.serving.tcp.sound.notNull
  · exact ha.serving.unix.notNull

theorem Remembers.forgotten (ha : Agrees host d) (hr : Remembers host d)
    (hnone : ∀ id, d.m_unixSocketServerTunnelProxy.m_clientList.value id ≠ some socket) :
    d.m_tunnelProxyServer.m_proxyClients.value
      (d.m_unixSocketServerTunnelProxy.captured socket) = none := by
  by_cases hne : d.m_unixSocketServerTunnelProxy.captured socket = QUuid.null
  · rw [hne,ha.null]
  · obtain ⟨hwebSocket,htcp⟩ := hr.alone socket hne
    rw [← QHash.contains_eq_false,ha.unknown_iff]
    simp only [tables,List.mem_cons,List.not_mem_nil,or_false]
    rintro h (rfl | rfl | rfl)
    · exact hwebSocket
    · exact htcp
    · cases hv : d.m_unixSocketServerTunnelProxy.m_clientList.value
        (d.m_unixSocketServerTunnelProxy.captured socket) with
      | none => rfl
      | some x =>
        have hsame := hr.listed _ x hv
        have hx := hr.distinct x socket hsame (hsame.trans_ne hne)
        exact absurd (hx ▸ hv) (hnone _)

theorem received_attributed (ha : Agrees host d) (hr : Remembers host d) {event : Event}
    {table : QHash QUuid Socket} {data : QByteArray}
    (hreceived : event.received d = some (table,socket,data)) :
    (∀ id, table.value id = some socket → (d.step host event).m_tunnelProxyServer =
      d.m_tunnelProxyServer.step host.environment (.dataAvailable id data)) ∧
    ((∀ id, table.value id ≠ some socket) →
      (d.step host event).m_tunnelProxyServer = d.m_tunnelProxyServer) := by
  cases event with
  | webSocket event =>
    cases event with
    | textMessageReceived client message =>
      cases hreceived
      refine ⟨fun id hv => ?_,fun hnone => ?_⟩
      · simp only [step,WebSocketServer.step,WebSocketServer.onTextMessageReceived,
          ha.serving.webSocket.key hv]
        exact deliver_proxy _
      · simp only [step,WebSocketServer.step,WebSocketServer.onTextMessageReceived,
          key_unknown hnone]
        exact (deliver_proxy _).trans (ignored ha.null)
    | _ => cases hreceived
  | tcp event =>
    cases event with
    | readyRead client data =>
      cases hreceived
      refine ⟨fun id hv => ?_,fun hnone => ?_⟩
      · simp only [step,TcpSocketServer.step,ha.serving.tcp.hears hv,if_true,
          TcpSocketServer.onDataAvailable,ha.serving.tcp.sound.key hv,
          ha.serving.tcp.sound.value_notNull hv,Bool.false_eq_true,if_false]
        exact deliver_proxy _
      · simp only [step,TcpSocketServer.step,TcpSocketServer.onDataAvailable,key_unknown hnone,
          QUuid.isNull,decide_true,if_true,ite_self]
        rfl
    | _ => cases hreceived
  | unix event =>
    cases event with
    | readyRead client data =>
      cases hreceived
      refine ⟨fun id hv => ?_,fun hnone => ?_⟩
      · simp only [step,UnixSocketServer.step,hr.listed id _ hv]
        exact deliver_proxy _
      · have hunknown := hr.forgotten ha hnone
        exact (deliver_proxy _).trans (ignored hunknown)
    | _ => cases hreceived
  | _ => cases hreceived

/-- What comes in over a connection, the proxy is given under that connection's id; what comes in
over any other socket does nothing to the proxy. -/
theorem bytes_attributed {sslEnabled : Bool} {events : List Event}
    (hp : Runs.Along (step host) Possible (start sslEnabled) events) (event : Event)
    {table : QHash QUuid Socket} {socket : Socket} {data : QByteArray} :
    let d := Runs.run (step host) (start sslEnabled) events
    event.received d = some (table,socket,data) →
      (∀ id, table.value id = some socket → (d.step host event).m_tunnelProxyServer =
        d.m_tunnelProxyServer.step host.environment (.dataAvailable id data)) ∧
      ((∀ id, table.value id ≠ some socket) →
        (d.step host event).m_tunnelProxyServer = d.m_tunnelProxyServer) := by
  have hstart : Remembers host (start sslEnabled) :=
    ⟨fun _ => .inl rfl,fun _ _ _ hne => absurd rfl hne,fun _ _ hv => by simp [start] at hv,
      fun _ hne => absurd rfl hne⟩
  exact received_attributed (run_agrees (start_agrees host sslEnabled) hp)
    (run_remembers (start_agrees host sslEnabled) hstart hp)

theorem bytes_attributed_tcp :
    let d := Runs.run (step sampleHost) (start true) (sampleArrivals.take 3)
    (∀ id, d.m_tcpSocketServerTunnelProxy.m_clientList.value id = some 7 →
      (d.step sampleHost (.tcp (.readyRead 7 [0x20]))).m_tunnelProxyServer =
        d.m_tunnelProxyServer.step sampleHost.environment (.dataAvailable id [0x20])) ∧
    ((∀ id, d.m_tcpSocketServerTunnelProxy.m_clientList.value id ≠ some 7) →
      (d.step sampleHost (.tcp (.readyRead 7 [0x20]))).m_tunnelProxyServer =
        d.m_tunnelProxyServer) :=
  bytes_attributed (by decide +kernel) (.tcp (.readyRead 7 [0x20])) rfl

end Deployment

end RemoteProxy
