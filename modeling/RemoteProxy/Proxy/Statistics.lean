import Mathlib.Algebra.GroupWithZero.Nat
import RemoteProxy.Proxy.Accounts
import RemoteProxy.Proxy.Isolation

namespace RemoteProxy

def QHash.count {K V : Type} (h : QHash K V) : Nat := h.entries.length

namespace TunnelProxyServer

section Source

def connectionMap (env : Environment) (creationTime : ObjectId → Nat) (s : TunnelProxyServer)
    (uuidKey : String) (transportClient : ObjectId) : QVariantMap :=
  [("id",.string (env.uuidToString transportClient)),
    ("address",.string (s.client transportClient).m_peerAddress),
    ("timestamp",.ofNat (creationTime transportClient)),
    ("name",.string (s.client transportClient).m_name),
    (uuidKey,.uuid (s.client transportClient).m_uuid),
    ("rxDataCount",.ofNat (s.client transportClient).m_rxDataCount.toNat),
    ("txDataCount",.ofNat (s.client transportClient).m_txDataCount.toNat)]

def clientMap (env : Environment) (creationTime : ObjectId → Nat) (s : TunnelProxyServer)
    (client : ObjectId) : QVariant :=
  .map (connectionMap env creationTime s "clientUuid" (s.clientConnection client).m_transportClient)

def serverMap (env : Environment) (creationTime : ObjectId → Nat) (s : TunnelProxyServer)
    (server : ObjectId) : QVariant :=
  .map (connectionMap env creationTime s "serverUuid"
      (s.serverConnection server).m_transportClient ++
    [("clientConnections",.list ((env.order (s.serverConnection server).clientConnections).map
      (clientMap env creationTime s)))])

/-- `transports` holds the connections of each transport, and `m_troughput` is the last figure. -/
def currentStatistics (env : Environment) (creationTime : ObjectId → Nat)
    (transports : QVariantMap) (m_troughput : Int32) (s : TunnelProxyServer) (printAll : Bool) :
    QVariantMap :=
  let shown := (env.order s.m_tunnelProxyServerConnections.values).filter fun server =>
    printAll || !(s.serverConnection server).clientConnections.isEmpty
  [("totalClientCount",.ofNat s.m_proxyClients.count),
    ("serverConnectionsCount",.ofNat s.m_tunnelProxyServerConnections.count),
    ("clientConnectionsCount",.ofNat s.m_tunnelProxyClientConnections.count),
    ("transports",.map transports),("troughput",.number m_troughput.toInt 0),
    ("tunnelConnections",.list (shown.map (serverMap env creationTime s)))]

def buildMonitorData (env : Environment) (creationTime : ObjectId → Nat)
    (transports : QVariantMap) (m_troughput : Int32) (s : TunnelProxyServer) (printAll : Bool) :
    QVariantMap :=
  [("serverName",.string env.serverName),("serverVersion",.string env.serverVersionString),
    ("apiVersion",.string env.apiVersionString),
    ("tunnelProxyStatistic",
      .map (currentStatistics env creationTime transports m_troughput s printAll))]

end Source

structure Enumerates (l : List ObjectId) (p : ObjectId → Prop) : Prop where
  nodup : l.Nodup
  mem : ∀ o, o ∈ l ↔ p o

variable {env : Environment} {s : TunnelProxyServer} {l l' : List ObjectId} {p q : ObjectId → Prop}

theorem Enumerates.perm (h : Enumerates l p) (hp : l'.Perm l) : Enumerates l' p :=
  ⟨hp.nodup_iff.mpr h.nodup,fun o => hp.mem_iff.trans (h.mem o)⟩

theorem Enumerates.congr (h : Enumerates l p) (hpq : ∀ o, p o ↔ q o) : Enumerates l q :=
  ⟨h.nodup,fun o => (h.mem o).trans (hpq o)⟩

theorem Enumerates.filter (h : Enumerates l p) (f : ObjectId → Bool) :
    Enumerates (l.filter f) fun o => p o ∧ f o = true :=
  ⟨h.nodup.filter f,fun o => by rw [List.mem_filter,h.mem]⟩

theorem enumerates_values {h : QHash QUuid ObjectId} {k : ObjectId → QUuid}
    (hvalue : ∀ u o, h.value u = some o ↔ p o ∧ k o = u) : Enumerates h.values p := by
  refine ⟨QHash.nodup_values ?_,fun o => ?_⟩
  · intro u u' o ho ho'
    exact ((hvalue u o).mp ho).2.symm.trans ((hvalue u' o).mp ho').2
  · rw [QHash.mem_values]
    constructor
    · rintro ⟨u,hu⟩
      exact ((hvalue u o).mp hu).1
    · intro ho
      exact ⟨k o,(hvalue _ o).mpr ⟨ho,rfl⟩⟩

theorem count_values (h : QHash QUuid ObjectId) : h.count = h.values.length :=
  (List.length_map _).symm

section Tables

variable (hc : Consistent [] s)

include hc

theorem Consistent.enumerates_live : Enumerates s.m_proxyClients.values s.live := by
  refine enumerates_values (k := id) fun u o => ?_
  constructor
  · intro hu
    obtain rfl := hc.named u o hu
    exact ⟨hu,rfl⟩
  · rintro ⟨hlive,rfl⟩
    exact hlive

theorem Consistent.enumerates_servers :
    Enumerates s.m_tunnelProxyServerConnections.values fun o => s.live o ∧ s.isServer o :=
  enumerates_values (k := fun o => (s.client o).m_uuid) fun u o => by
    rw [hc.server_iff,and_assoc]

theorem Consistent.enumerates_clients :
    Enumerates s.m_tunnelProxyClientConnections.values fun o => s.live o ∧ s.isClient o :=
  enumerates_values (k := fun o => (s.client o).m_uuid) fun u o => by
    rw [hc.client_iff,and_assoc]

theorem Consistent.enumerates_attached {server : ObjectId} (hlive : s.live server)
    (hserver : s.isServer server) :
    Enumerates (s.serverConnection server).clientConnections
      fun o => (s.clientConnection o).m_serverConnection = some server := by
  have hserves : serves [] s server := ⟨hserver,.inl hlive⟩
  refine enumerates_values (k := fun o => (s.client o).m_uuid) fun u o => ?_
  constructor
  · intro hu
    obtain ⟨-,-,hto,huuid⟩ := hc.listed server u o hserves hu
    exact ⟨hto,huuid⟩
  · rintro ⟨hto,rfl⟩
    exact (hc.attached o server hto).2.2.2

end Tables

section Overview

/-- Who is connected, who is registered and who is attached to whom, with nobody listed twice. -/
structure Overview (s : TunnelProxyServer) (printAll : Bool) where
  all : List ObjectId
  servers : List ObjectId
  clients : List ObjectId
  shown : List ObjectId
  attached : ObjectId → List ObjectId
  enumerates_all : Enumerates all s.live
  enumerates_servers : Enumerates servers fun o => s.live o ∧ s.isServer o
  enumerates_clients : Enumerates clients fun o => s.live o ∧ s.isClient o
  enumerates_shown : Enumerates shown fun o => (s.live o ∧ s.isServer o) ∧
    (printAll = true ∨ ∃ c, Attached s c o)
  enumerates_attached : ∀ server ∈ shown, Enumerates (attached server) fun c => Attached s c server

variable (env) (creationTime : ObjectId → Nat) (transports : QVariantMap) (m_troughput : Int32)
  (events : List Event)

/-- What there is to say of a connection after the events: its traffic is what they have caused. -/
def account (s : TunnelProxyServer) (uuidKey : String) (o : ObjectId) : QVariantMap :=
  [("id",.string (env.uuidToString o)),("address",.string (s.client o).m_peerAddress),
    ("timestamp",.ofNat (creationTime o)),("name",.string (s.client o).m_name),
    (uuidKey,.uuid (s.client o).m_uuid),
    ("rxDataCount",.ofNat ((receivedFrom env o new events).length % 2 ^ 64)),
    ("txDataCount",.ofNat ((s.sentTo o).length % 2 ^ 64))]

def Overview.report {printAll : Bool} (v : Overview s printAll) : QVariantMap :=
  [("totalClientCount",.ofNat v.all.length),("serverConnectionsCount",.ofNat v.servers.length),
    ("clientConnectionsCount",.ofNat v.clients.length),("transports",.map transports),
    ("troughput",.number m_troughput.toInt 0),
    ("tunnelConnections",.list (v.shown.map fun server =>
      .map (account env creationTime events s "serverUuid" server ++
        [("clientConnections",.list ((v.attached server).map fun c =>
          .map (account env creationTime events s "clientUuid" c)))])))]

variable {env}

theorem Consistent.attached_iff (hc : Consistent [] s) (o server : ObjectId) :
    (s.clientConnection o).m_serverConnection = some server ↔ Attached s o server :=
  ⟨hc.attachedTo,Attached.serverConnection⟩

theorem Consistent.enumerates_shown (hc : Consistent [] s) (printAll : Bool) :
    Enumerates ((env.order s.m_tunnelProxyServerConnections.values).filter fun server =>
        printAll || !(s.serverConnection server).clientConnections.isEmpty)
      fun o => (s.live o ∧ s.isServer o) ∧ (printAll = true ∨ ∃ c, Attached s c o) := by
  refine ((hc.enumerates_servers.perm (env.order_perm _)).filter _).congr fun o => ?_
  refine and_congr_right fun ⟨hlive,hserver⟩ => ?_
  have hattached := hc.enumerates_attached hlive hserver
  rw [Bool.or_eq_true]
  refine or_congr_right ?_
  rw [Bool.not_eq_true',← Bool.not_eq_true,List.isEmpty_iff,List.eq_nil_iff_forall_not_mem,
    not_forall]
  exact exists_congr fun c => not_not.trans ((hattached.mem c).trans (hc.attached_iff c o))

def Consistent.overview (hc : Consistent [] s) (env : Environment) (printAll : Bool) :
    Overview s printAll where
  all := s.m_proxyClients.values
  servers := s.m_tunnelProxyServerConnections.values
  clients := s.m_tunnelProxyClientConnections.values
  shown := (env.order s.m_tunnelProxyServerConnections.values).filter fun server =>
    printAll || !(s.serverConnection server).clientConnections.isEmpty
  attached server := env.order (s.serverConnection server).clientConnections
  enumerates_all := hc.enumerates_live
  enumerates_servers := hc.enumerates_servers
  enumerates_clients := hc.enumerates_clients
  enumerates_shown := hc.enumerates_shown printAll
  enumerates_attached := by
    intro server hshown
    obtain ⟨⟨hlive,hserver⟩,-⟩ := ((hc.enumerates_shown printAll).mem server).mp hshown
    have hattached := (hc.enumerates_attached hlive hserver).perm (env.order_perm _)
    exact hattached.congr fun o => hc.attached_iff o server

theorem connectionMap_account (hfresh : FreshRun env new events) (uuidKey : String)
    (o : ObjectId) :
    connectionMap env creationTime (new.run env events) uuidKey o =
      account env creationTime events (new.run env events) uuidKey o := by
  have hrx : ((new.run env events).client o).m_rxDataCount =
      .ofNat (receivedFrom env o new events).length :=
    (run_rxDataCount .new hfresh o fun _ => rfl).trans (UInt64.zero_add _)
  rw [connectionMap,account,hrx,(counters_balanced (Reachable.run .new hfresh)).txDataCount o,
    UInt64.toNat_ofNat',UInt64.toNat_ofNat']

/-- The statistics count and list exactly who is there, each once and with its traffic; without
`printAll` the servers that nobody is attached to are left out. -/
theorem statistics_exact (hfresh : FreshRun env new events) (printAll : Bool) :
    ∃ v : Overview (new.run env events) printAll,
      currentStatistics env creationTime transports m_troughput (new.run env events) printAll =
        v.report env creationTime transports m_troughput events := by
  have hc := reachable_consistent (Reachable.run .new hfresh)
  refine ⟨hc.overview env printAll,?_⟩
  have hserver : ∀ server ∈ (hc.overview env printAll).shown,
      serverMap env creationTime (new.run env events) server =
        .map (account env creationTime events (new.run env events) "serverUuid" server ++
          [("clientConnections",.list (((hc.overview env printAll).attached server).map fun c =>
            .map (account env creationTime events (new.run env events) "clientUuid" c)))]) := by
    intro server hshown
    obtain ⟨⟨hlive,hserver⟩,-⟩ := ((hc.overview env printAll).enumerates_shown.mem server).mp hshown
    have hclients : ∀ c ∈ (hc.overview env printAll).attached server,
        clientMap env creationTime (new.run env events) c =
          .map (account env creationTime events (new.run env events) "clientUuid" c) := by
      intro c hattached
      have ha := (((hc.overview env printAll).enumerates_attached server hshown).mem c).mp hattached
      rw [clientMap,(hc.clientTransport c ha.live ha.isClient).1,
        connectionMap_account creationTime events hfresh]
    rw [serverMap,hc.serverTransport server ⟨hserver,.inl hlive⟩,
      connectionMap_account creationTime events hfresh]
    exact congrArg (fun clients => QVariant.map (account env creationTime events
      (new.run env events) "serverUuid" server ++ [("clientConnections",.list clients)]))
      (List.map_congr_left hclients)
  have htunnels := List.map_congr_left hserver
  simp only [currentStatistics,Overview.report,count_values]
  rw [← htunnels]
  rfl

theorem statistics_exact_tunnel :
    ∃ v : Overview (new.run (sampleEnvironment true) (sampleEvents true)) false,
      currentStatistics (sampleEnvironment true) (fun _ => 0) [] 2
          (new.run (sampleEnvironment true) (sampleEvents true)) false =
        v.report (sampleEnvironment true) (fun _ => 0) [] 2 (sampleEvents true) :=
  statistics_exact (fun _ => 0) [] 2 (sampleEvents true) (by decide +kernel) false

end Overview

end TunnelProxyServer

end RemoteProxy
