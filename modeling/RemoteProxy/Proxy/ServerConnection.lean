import RemoteProxy.Foundation.Probe
import RemoteProxy.Qt.Types

namespace RemoteProxy

/-- Objects are named by the `clientId` of the transport client they belong to: a transport client
registers at most once, so it owns at most one connection object of either kind. -/
abbrev ObjectId := QUuid

structure TunnelProxyClientConnection where
  m_transportClient : ObjectId
  m_serverConnection : Option ObjectId
  m_clientUuid : QUuid
  m_clientName : String
  m_serverUuid : QUuid
  m_socketAddress : UInt16

structure TunnelProxyServerConnection where
  m_transportClient : ObjectId
  m_serverUuid : QUuid
  m_serverName : String
  m_connectionLimit : UInt16
  m_currentAddressCounter : UInt16
  m_clientConnections : QHash QUuid ObjectId
  m_clientConnectionsAddresses : QHash UInt16 ObjectId

namespace TunnelProxyClientConnection

def new (transportClient : ObjectId) (clientUuid : QUuid) (clientName : String) :
    TunnelProxyClientConnection where
  m_transportClient := transportClient
  m_serverConnection := none
  m_clientUuid := clientUuid
  m_clientName := clientName
  m_serverUuid := QUuid.null
  m_socketAddress := 0xFFFF

instance : Inhabited TunnelProxyClientConnection := ⟨new QUuid.null QUuid.null ""⟩

def setSocketAddress (c : TunnelProxyClientConnection) (socketAddress : UInt16) :
    TunnelProxyClientConnection :=
  { c with m_socketAddress := socketAddress }

def setServerConnection (c : TunnelProxyClientConnection)
    (serverConnection : Option (ObjectId × QUuid)) : TunnelProxyClientConnection :=
  match serverConnection with
  | some (object,serverUuid) =>
    { c with m_serverConnection := some object, m_serverUuid := serverUuid }
  | none => { c with m_serverConnection := none, m_serverUuid := QUuid.null }

end TunnelProxyClientConnection

namespace TunnelProxyServerConnection

def new (transportClient : ObjectId) (serverUuid : QUuid) (serverName : String) :
    TunnelProxyServerConnection where
  m_transportClient := transportClient
  m_serverUuid := serverUuid
  m_serverName := serverName
  m_connectionLimit := 100
  m_currentAddressCounter := 0
  m_clientConnections := ∅
  m_clientConnectionsAddresses := ∅

instance : Inhabited TunnelProxyServerConnection := ⟨new QUuid.null QUuid.null ""⟩

def clientConnections (s : TunnelProxyServerConnection) : List ObjectId :=
  s.m_clientConnections.values

def getClientConnection (s : TunnelProxyServerConnection) (socketAddress : UInt16) :
    Option ObjectId :=
  s.m_clientConnectionsAddresses.value socketAddress

def blocked (s : TunnelProxyServerConnection) (address : UInt16) : Bool :=
  s.m_clientConnectionsAddresses.contains address || address == 0x0000 || address == 0xFFFF

def getFreeAddress (s : TunnelProxyServerConnection) : TunnelProxyServerConnection × UInt16 :=
  let s := { s with m_currentAddressCounter := s.m_currentAddressCounter + 1 }
  (s,Probe.probe s.blocked (· + 1) s.m_connectionLimit.toNat s.m_currentAddressCounter)

def freeAddressAsserted (s : TunnelProxyServerConnection) : Bool :=
  !s.m_clientConnectionsAddresses.contains s.getFreeAddress.2

def registerClientConnection (self : ObjectId) (s : TunnelProxyServerConnection)
    (object : ObjectId) (c : TunnelProxyClientConnection) :
    TunnelProxyServerConnection × TunnelProxyClientConnection :=
  let socketAddress := s.getFreeAddress.2
  let s := s.getFreeAddress.1
  let c := (c.setSocketAddress socketAddress).setServerConnection (some (self,s.m_serverUuid))
  ({ s with
      m_clientConnectionsAddresses := s.m_clientConnectionsAddresses.insert socketAddress object
      m_clientConnections := s.m_clientConnections.insert c.m_clientUuid object },c)

def unregisterClientConnection (s : TunnelProxyServerConnection) (c : TunnelProxyClientConnection) :
    TunnelProxyServerConnection × TunnelProxyClientConnection :=
  ({ s with
      m_clientConnections := s.m_clientConnections.remove c.m_clientUuid
      m_clientConnectionsAddresses := s.m_clientConnectionsAddresses.remove c.m_socketAddress },
    (c.setSocketAddress 0xFFFF).setServerConnection none)

section Fields

variable (self object : ObjectId) (s : TunnelProxyServerConnection) (c : TunnelProxyClientConnection)

@[simp] theorem getFreeAddress_addresses :
    s.getFreeAddress.1.m_clientConnectionsAddresses = s.m_clientConnectionsAddresses := rfl

@[simp] theorem register_socketAddress :
    (registerClientConnection self s object c).2.m_socketAddress = s.getFreeAddress.2 := rfl

@[simp] theorem register_serverConnection :
    (registerClientConnection self s object c).2.m_serverConnection = some self := rfl

@[simp] theorem register_clientUuid :
    (registerClientConnection self s object c).2.m_clientUuid = c.m_clientUuid := rfl

@[simp] theorem register_client_transportClient :
    (registerClientConnection self s object c).2.m_transportClient = c.m_transportClient := rfl

@[simp] theorem register_transportClient :
    (registerClientConnection self s object c).1.m_transportClient = s.m_transportClient := rfl

@[simp] theorem register_counter :
    (registerClientConnection self s object c).1.m_currentAddressCounter =
      s.m_currentAddressCounter + 1 := rfl

@[simp] theorem register_limit :
    (registerClientConnection self s object c).1.m_connectionLimit = s.m_connectionLimit := rfl

theorem getClientConnection_register (a : UInt16) :
    (registerClientConnection self s object c).1.getClientConnection a =
      if a = s.getFreeAddress.2 then some object else s.getClientConnection a :=
  QHash.value_insert _ _ _ _

theorem clientConnection_register (u : QUuid) :
    (registerClientConnection self s object c).1.m_clientConnections.value u =
      if u = c.m_clientUuid then some object else s.m_clientConnections.value u :=
  QHash.value_insert _ _ _ _

@[simp] theorem unregister_socketAddress :
    (unregisterClientConnection s c).2.m_socketAddress = 0xFFFF := rfl

@[simp] theorem unregister_serverConnection :
    (unregisterClientConnection s c).2.m_serverConnection = none := rfl

@[simp] theorem unregister_clientUuid :
    (unregisterClientConnection s c).2.m_clientUuid = c.m_clientUuid := rfl

@[simp] theorem unregister_client_transportClient :
    (unregisterClientConnection s c).2.m_transportClient = c.m_transportClient := rfl

@[simp] theorem unregister_transportClient :
    (unregisterClientConnection s c).1.m_transportClient = s.m_transportClient := rfl

@[simp] theorem unregister_counter :
    (unregisterClientConnection s c).1.m_currentAddressCounter = s.m_currentAddressCounter := rfl

@[simp] theorem unregister_limit :
    (unregisterClientConnection s c).1.m_connectionLimit = s.m_connectionLimit := rfl

theorem getClientConnection_unregister (a : UInt16) :
    (unregisterClientConnection s c).1.getClientConnection a =
      if a = c.m_socketAddress then none else s.getClientConnection a :=
  QHash.value_remove _ _ _

theorem clientConnection_unregister (u : QUuid) :
    (unregisterClientConnection s c).1.m_clientConnections.value u =
      if u = c.m_clientUuid then none else s.m_clientConnections.value u :=
  QHash.value_remove _ _ _

end Fields

theorem blocked_eq_false {s : TunnelProxyServerConnection} {a : UInt16} :
    s.blocked a = false ↔ s.getClientConnection a = none ∧ a ≠ 0x0000 ∧ a ≠ 0xFFFF := by
  simp only [blocked,Bool.or_eq_false_iff,beq_eq_false_iff_ne,QHash.contains_eq_false,
    getClientConnection,and_assoc]

theorem iterate_add_one (k : Nat) (a : UInt16) : (· + 1)^[k] a = a + UInt16.ofNat k := by
  induction k generalizing a with
  | zero => simp
  | succ k ih =>
    rw [Function.iterate_succ_apply,ih,UInt16.ofNat_add,UInt16.add_assoc,UInt16.add_comm 1]
    rfl

theorem getFreeAddress_of_free {s : TunnelProxyServerConnection}
    (h : s.blocked (s.m_currentAddressCounter + 1) = false) :
    s.getFreeAddress.2 = s.m_currentAddressCounter + 1 :=
  Probe.probe_of_free _ _ _ _ h

theorem getFreeAddress_of_blocked {s : TunnelProxyServerConnection}
    (h : ∀ k < s.m_connectionLimit.toNat,
      s.blocked (s.m_currentAddressCounter + 1 + UInt16.ofNat k) = true) :
    s.getFreeAddress.2 = s.m_currentAddressCounter + 1 + UInt16.ofNat s.m_connectionLimit.toNat := by
  simp only [← iterate_add_one] at h ⊢
  exact Probe.probe_of_blocked _ _ _ _ h

theorem getFreeAddress_blocked_iff (s : TunnelProxyServerConnection) :
    s.blocked s.getFreeAddress.2 = true ↔ ∀ k ≤ s.m_connectionLimit.toNat,
      s.blocked (s.m_currentAddressCounter + 1 + UInt16.ofNat k) = true := by
  simp only [← iterate_add_one]
  exact Probe.probe_blocked_iff _ _ _ _

end TunnelProxyServerConnection

end RemoteProxy
