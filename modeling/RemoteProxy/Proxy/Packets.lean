import RemoteProxy.Proxy.TunnelProxyServer

namespace RemoteProxy.TunnelProxyServer

variable (env : Environment)

structure Request where
  commandId : Int
  targetNamespace : String
  method : String
  handler : JsonHandler
  params : QVariantMap

namespace JsonRpcServer

def request (data : QByteArray) : Option Request :=
  match env.fromJson data with
  | .error _ => none
  | .ok jsonDoc =>
    let message := jsonDoc.toMap
    match env.toInt (message.value "id") with
    | none => none
    | some commandId =>
      match QString.split '.' (env.toString (message.value "method")) with
      | [targetNamespace,method] =>
        match m_handlers.lookup targetNamespace with
        | none => none
        | some handler =>
          let params := (message.value "params").toMap
          if !handler.hasMethod method then none
          else if !(handler.validateParams env.toQt method params).1 then none
          else some ⟨commandId,targetNamespace,method,handler,params⟩
      | _ => none

def invoke (s : TunnelProxyServer) (transportClient : ObjectId) (r : Request) :
    TunnelProxyServer :=
  invokeMethod env s transportClient r.commandId r.targetNamespace r.method r.handler r.params

theorem processDataPacket_cases (s : TunnelProxyServer) (o : ObjectId) (data : QByteArray) :
    (∃ r, request env data = some r ∧ processDataPacket env s o data = invoke env s o r) ∨
      request env data = none ∧ ∃ commandId error reason,
        processDataPacket env s o data = refuse env s o commandId error reason := by
  simp only [request,processDataPacket]
  cases hjson : env.fromJson data with
  | error errorString => exact .inr ⟨rfl,_,_,_,rfl⟩
  | ok jsonDoc =>
    dsimp only
    cases hid : env.toInt (jsonDoc.toMap.value "id") with
    | none => exact .inr ⟨rfl,_,_,_,rfl⟩
    | some commandId =>
      dsimp only
      rcases hsplit : QString.split '.' (env.toString (jsonDoc.toMap.value "method")) with
        _ | ⟨targetNamespace,_ | ⟨method,_ | ⟨other,others⟩⟩⟩
      · exact .inr ⟨rfl,_,_,_,rfl⟩
      · exact .inr ⟨rfl,_,_,_,rfl⟩
      · dsimp only
        cases hlookup : m_handlers.lookup targetNamespace with
        | none => exact .inr ⟨rfl,_,_,_,rfl⟩
        | some handler =>
          dsimp only
          split
          · exact .inr ⟨rfl,_,_,_,rfl⟩
          · split
            · exact .inr ⟨rfl,_,_,_,rfl⟩
            · exact .inl ⟨_,rfl,rfl⟩
      · exact .inr ⟨rfl,_,_,_,rfl⟩

end JsonRpcServer

section Methods

variable {s : TunnelProxyServer} {o : ObjectId}

/-- A registration that is turned down at most has its client killed after the response. -/
def TurnedDown (s : TunnelProxyServer) (o : ObjectId) (r : TunnelProxyServer × TunnelProxyError) :
    Prop :=
  r.2 ≠ .NoError ∧ (r.1 = s ∨ ∃ reason, r.1 = killConnectionAfterResponse s o reason)

theorem registerServer_cases (hnamed : ∀ x, s.m_proxyClients.value o = some x → x = o)
    (serverUuid : QUuid) (serverName : String) :
    TurnedDown s o (registerServer s o serverUuid serverName) ∨
      (s.m_proxyClients.value o = some o ∧ (s.client o).m_type = .TypeNone ∧
        s.m_tunnelProxyServerConnections.value serverUuid = none ∧
        s.m_tunnelProxyClientConnections.value serverUuid = none ∧
        registerServer s o serverUuid serverName =
          (s.acceptServer o serverUuid serverName,.NoError)) := by
  cases hv : s.m_proxyClients.value o with
  | none =>
    simp only [registerServer,hv]
    exact .inl ⟨by simp,.inl rfl⟩
  | some x =>
    obtain rfl := hnamed x hv
    simp only [registerServer,hv]
    split
    · exact .inl ⟨by simp,.inr ⟨_,rfl⟩⟩
    · next htype =>
      split
      · exact .inl ⟨by simp,.inr ⟨_,rfl⟩⟩
      · next hns =>
        split
        · exact .inl ⟨by simp,.inr ⟨_,rfl⟩⟩
        · next hnc =>
          simp only [Bool.not_eq_true,QHash.contains_eq_false] at hns hnc
          exact .inr ⟨trivial,not_not.mp htype,hns,hnc,rfl⟩

theorem registerServer_accepted {serverUuid : QUuid} {serverName : String}
    (hv : s.m_proxyClients.value o = some o) (htype : (s.client o).m_type = .TypeNone)
    (hns : s.m_tunnelProxyServerConnections.value serverUuid = none)
    (hnc : s.m_tunnelProxyClientConnections.value serverUuid = none) :
    registerServer s o serverUuid serverName = (s.acceptServer o serverUuid serverName,.NoError) := by
  rw [← QHash.contains_eq_false] at hns hnc
  simp [registerServer,hv,htype,hns,hnc]

theorem registerClient_accepted {clientUuid serverUuid : QUuid} {clientName : String}
    {server : ObjectId} (hv : s.m_proxyClients.value o = some o)
    (htype : (s.client o).m_type = .TypeNone)
    (hnc : s.m_tunnelProxyClientConnections.value clientUuid = none)
    (hns : s.m_tunnelProxyServerConnections.value clientUuid = none)
    (hfound : s.m_tunnelProxyServerConnections.value serverUuid = some server) :
    registerClient env s o clientUuid clientName serverUuid =
      (acceptClient env s o clientUuid clientName server,.NoError) := by
  rw [← QHash.contains_eq_false] at hnc hns
  simp [registerClient,hv,htype,hns,hnc,hfound]

theorem registerClient_cases (hnamed : ∀ x, s.m_proxyClients.value o = some x → x = o)
    (clientUuid : QUuid) (clientName : String) (serverUuid : QUuid) :
    TurnedDown s o (registerClient env s o clientUuid clientName serverUuid) ∨
      (s.m_proxyClients.value o = some o ∧ (s.client o).m_type = .TypeNone ∧
        s.m_tunnelProxyClientConnections.value clientUuid = none ∧
        s.m_tunnelProxyServerConnections.value clientUuid = none ∧
        ∃ server, s.m_tunnelProxyServerConnections.value serverUuid = some server ∧
          registerClient env s o clientUuid clientName serverUuid =
            (acceptClient env s o clientUuid clientName server,.NoError)) := by
  cases hv : s.m_proxyClients.value o with
  | none =>
    simp only [registerClient,hv]
    exact .inl ⟨by simp,.inl rfl⟩
  | some x =>
    obtain rfl := hnamed x hv
    simp only [registerClient,hv]
    split
    · exact .inl ⟨by simp,.inr ⟨_,rfl⟩⟩
    · next htype =>
      split
      · exact .inl ⟨by simp,.inr ⟨_,rfl⟩⟩
      · next hnc =>
        split
        · exact .inl ⟨by simp,.inr ⟨_,rfl⟩⟩
        · next hns =>
          simp only [Bool.not_eq_true,QHash.contains_eq_false] at hns hnc
          cases hfound : s.m_tunnelProxyServerConnections.value serverUuid with
          | none => exact .inl ⟨by simp,.inr ⟨_,rfl⟩⟩
          | some server => exact .inr ⟨trivial,not_not.mp htype,hnc,hns,server,rfl,rfl⟩

theorem disconnectClient_cases (hnamed : ∀ x, s.m_proxyClients.value o = some x → x = o)
    (socketAddress : UInt16) :
    ((disconnectClient env s o socketAddress).1 = s ∨
      ∃ reason, (disconnectClient env s o socketAddress).1 =
        killConnectionAfterResponse s o reason) ∨
      (s.m_proxyClients.value o = some o ∧ (s.client o).m_type = .TypeServer ∧
        ∃ server client reason,
          s.m_tunnelProxyServerConnections.value (s.client o).m_uuid = some server ∧
          (s.serverConnection server).getClientConnection socketAddress = some client ∧
          (disconnectClient env s o socketAddress).1 =
            killConnection env s (s.clientConnection client).m_transportClient reason) := by
  cases hv : s.m_proxyClients.value o with
  | none =>
    simp only [disconnectClient,hv]
    exact .inl (.inl trivial)
  | some x =>
    obtain rfl := hnamed x hv
    simp only [disconnectClient,hv]
    split
    · exact .inl (.inr ⟨_,rfl⟩)
    · next htype =>
      cases hserver : s.m_tunnelProxyServerConnections.value (s.client x).m_uuid with
      | none => exact .inl (.inr ⟨_,rfl⟩)
      | some server =>
        dsimp only
        cases hclient : (s.serverConnection server).getClientConnection socketAddress with
        | none => exact .inl (.inl rfl)
        | some client =>
          exact .inr ⟨trivial,not_not.mp htype,server,client,_,rfl,hclient,rfl⟩

theorem method_cases {targetNamespace method : String} {invoke : Handlers.Method}
    (hm : Handlers.method? env targetNamespace method = some invoke) :
    (∀ s params o, (invoke s params o).1 = s) ∨
      (targetNamespace = "TunnelProxy" ∧ method = "RegisterServer" ∧
        invoke = Handlers.RegisterServer env) ∨
      (targetNamespace = "TunnelProxy" ∧ method = "RegisterClient" ∧
        invoke = Handlers.RegisterClient env) ∨
      (targetNamespace = "TunnelProxy" ∧ method = "DisconnectClient" ∧
        invoke = Handlers.DisconnectClient env) := by
  obtain ⟨before,after,hlist,-⟩ := List.lookup_eq_some_iff.mp hm
  have hmem := hlist ▸ List.mem_append_right before (List.mem_cons_self (a := _) (l := after))
  simp only [List.mem_cons,Prod.mk.injEq,List.not_mem_nil,or_false] at hmem
  rcases hmem with ⟨-,rfl⟩ | ⟨-,rfl⟩ | ⟨⟨h1,h2⟩,rfl⟩ | ⟨⟨h1,h2⟩,rfl⟩ | ⟨-,rfl⟩ | ⟨⟨h1,h2⟩,rfl⟩
  · exact .inl fun _ _ _ => rfl
  · exact .inl fun _ _ _ => rfl
  · exact .inr (.inl ⟨h1,h2,rfl⟩)
  · exact .inr (.inr (.inr ⟨h1,h2,rfl⟩))
  · exact .inl fun _ _ _ => rfl
  · exact .inr (.inr (.inl ⟨h1,h2,rfl⟩))

end Methods

/-- What a chunk is taken apart into before any of it is handled. -/
inductive Item where
  | packet (data : QByteArray)
  | frame (frame : SlipDataProcessor.Frame)
  | payload (data : QByteArray)
  deriving DecidableEq

def handle (o : ObjectId) (s : TunnelProxyServer) : Item → TunnelProxyServer
  | .packet data => JsonRpcServer.processDataPacket env s o data
  | .frame frame => processFrame env s o frame
  | .payload data => tunnelToServer s o data

def received (s : TunnelProxyServer) (o : ObjectId) (data : QByteArray) : TunnelProxyServer :=
  s.setClient o ((s.client o).addRxDataCount s.now data.length)

def framed (s : TunnelProxyServer) (o : ObjectId) : Bool :=
  (s.client o).m_type = .TypeServer && (s.client o).m_slipEnabled

def overflows (s : TunnelProxyServer) (o : ObjectId) (data : QByteArray) : Bool :=
  ((s.client o).processData data).1.bufferSize > 1024 * 10

def buffered (s : TunnelProxyServer) (o : ObjectId) (data : QByteArray) : TunnelProxyServer :=
  if (s.client o).m_type = .TypeClient then s
  else if s.framed o then s.setClient o ((s.client o).processData data).1
  else if !s.m_clients.contains o then s
  else if s.overflows o data then
    killConnection env (s.setClient o ((s.client o).processData data).1) o
      "Data buffer size violation."
  else s.setClient o ((s.client o).processData data).1

def items (s : TunnelProxyServer) (o : ObjectId) (data : QByteArray) : List Item :=
  if (s.client o).m_type = .TypeClient then [.payload data]
  else if s.framed o then
    ((s.client o).processData data).2.map fun packet =>
      .frame (SlipDataProcessor.parseFrame packet)
  else if !s.m_clients.contains o || s.overflows o data then []
  else ((s.client o).processData data).2.map .packet

theorem processData_eq (s : TunnelProxyServer) (o : ObjectId) (data : QByteArray) :
    JsonRpcServer.processData env s o data =
      if !s.m_clients.contains o then s
      else if s.overflows o data then
        killConnection env (s.setClient o ((s.client o).processData data).1) o
          "Data buffer size violation."
      else (((s.client o).processData data).2.map Item.packet).foldl (handle env o)
        (s.setClient o ((s.client o).processData data).1) := by
  simp only [JsonRpcServer.processData,overflows,setClient_client,Function.update_self,
    decide_eq_true_eq,List.foldl_map,handle]

theorem processData_items {s : TunnelProxyServer} {o : ObjectId}
    (hclient : (s.client o).m_type ≠ .TypeClient) (hframed : s.framed o = false)
    (data : QByteArray) :
    JsonRpcServer.processData env s o data =
      (s.items o data).foldl (handle env o) (s.buffered env o data) := by
  rw [processData_eq]
  simp only [items,buffered,if_neg hclient,hframed]
  cases s.m_clients.contains o with
  | false => simp
  | true =>
    cases s.overflows o data with
    | true => simp
    | false => simp

theorem onClientDataAvailable_eq {s : TunnelProxyServer} {o : ObjectId}
    (hlive : s.m_proxyClients.value o = some o) (data : QByteArray) :
    onClientDataAvailable env s o data =
      ((s.received o data).items o data).foldl (handle env o)
        ((s.received o data).buffered env o data) := by
  simp only [onClientDataAvailable,hlive]
  rw [show s.setClient o ((s.client o).addRxDataCount s.now data.length) = s.received o data
    from rfl]
  generalize s.received o data = t
  cases htype : (t.client o).m_type with
  | TypeClient => simp [items,buffered,htype,handle]
  | TypeServer =>
    cases hslip : (t.client o).m_slipEnabled with
    | true =>
      simp [serverDataAvailable,items,buffered,framed,htype,hslip,List.foldl_map,handle]
    | false =>
      rw [← processData_items env (by simp [htype]) (by simp [framed,hslip])]
      simp [serverDataAvailable,hslip]
  | TypeNone => exact processData_items env (by simp [htype]) (by simp [framed,htype]) data

def Item.request : Item → Option Request
  | .packet data => JsonRpcServer.request env data
  | .frame f => if f.socketAddress = 0x0000 then JsonRpcServer.request env f.data else none
  | .payload _ => none

/-- The request is one to register `o` as a server under `uuid`, and nothing stands against it. -/
structure Request.RegistersServer (s : TunnelProxyServer) (o : ObjectId) (r : Request)
    (uuid : QUuid) : Prop where
  name : r.targetNamespace = "TunnelProxy" ∧ r.method = "RegisterServer"
  serverUuid : env.toUuid (r.params.value "serverUuid") = uuid
  valid : uuid.isNull = false
  known : s.m_proxyClients.value o = some o
  unregistered : (s.client o).m_type = .TypeNone
  notServer : s.m_tunnelProxyServerConnections.value uuid = none
  notClient : s.m_tunnelProxyClientConnections.value uuid = none

instance (s : TunnelProxyServer) (o : ObjectId) (r : Request) (uuid : QUuid) :
    Decidable (r.RegistersServer env s o uuid) :=
  decidable_of_iff ((r.targetNamespace = "TunnelProxy" ∧ r.method = "RegisterServer") ∧
      env.toUuid (r.params.value "serverUuid") = uuid ∧ uuid.isNull = false ∧
      s.m_proxyClients.value o = some o ∧ (s.client o).m_type = .TypeNone ∧
      s.m_tunnelProxyServerConnections.value uuid = none ∧
      s.m_tunnelProxyClientConnections.value uuid = none)
    ⟨fun ⟨h1,h2,h3,h4,h5,h6,h7⟩ => ⟨h1,h2,h3,h4,h5,h6,h7⟩,
      fun ⟨h1,h2,h3,h4,h5,h6,h7⟩ => ⟨h1,h2,h3,h4,h5,h6,h7⟩⟩

/-- The request is one to register `o` as a client of `server`, and nothing stands against it. -/
structure Request.RegistersClient (s : TunnelProxyServer) (o : ObjectId) (r : Request)
    (server : ObjectId) : Prop where
  name : r.targetNamespace = "TunnelProxy" ∧ r.method = "RegisterClient"
  serverValid : (env.toUuid (r.params.value "serverUuid")).isNull = false
  clientValid : (env.toUuid (r.params.value "clientUuid")).isNull = false
  known : s.m_proxyClients.value o = some o
  unregistered : (s.client o).m_type = .TypeNone
  notClient : s.m_tunnelProxyClientConnections.value (env.toUuid (r.params.value "clientUuid")) = none
  notServer : s.m_tunnelProxyServerConnections.value (env.toUuid (r.params.value "clientUuid")) = none
  found : s.m_tunnelProxyServerConnections.value (env.toUuid (r.params.value "serverUuid")) =
    some server

instance (s : TunnelProxyServer) (o : ObjectId) (r : Request) (server : ObjectId) :
    Decidable (r.RegistersClient env s o server) :=
  decidable_of_iff ((r.targetNamespace = "TunnelProxy" ∧ r.method = "RegisterClient") ∧
      (env.toUuid (r.params.value "serverUuid")).isNull = false ∧
      (env.toUuid (r.params.value "clientUuid")).isNull = false ∧
      s.m_proxyClients.value o = some o ∧ (s.client o).m_type = .TypeNone ∧
      s.m_tunnelProxyClientConnections.value (env.toUuid (r.params.value "clientUuid")) = none ∧
      s.m_tunnelProxyServerConnections.value (env.toUuid (r.params.value "clientUuid")) = none ∧
      s.m_tunnelProxyServerConnections.value (env.toUuid (r.params.value "serverUuid")) =
        some server)
    ⟨fun ⟨h1,h2,h3,h4,h5,h6,h7,h8⟩ => ⟨h1,h2,h3,h4,h5,h6,h7,h8⟩,
      fun ⟨h1,h2,h3,h4,h5,h6,h7,h8⟩ => ⟨h1,h2,h3,h4,h5,h6,h7,h8⟩⟩

def RegistersServer (s : TunnelProxyServer) (o : ObjectId) (item : Item) (uuid : QUuid) : Prop :=
  ∃ r, item.request env = some r ∧ r.RegistersServer env s o uuid

def RegistersClient (s : TunnelProxyServer) (o : ObjectId) (item : Item) (server : ObjectId) :
    Prop :=
  ∃ r, item.request env = some r ∧ r.RegistersClient env s o server

def During (s : TunnelProxyServer) (o : ObjectId) (data : QByteArray)
    (P : TunnelProxyServer → Item → Prop) : Prop :=
  ∃ before item after, (s.received o data).items o data = before ++ item :: after ∧
    P (before.foldl (handle env o) ((s.received o data).buffered env o data)) item

def Throughout (s : TunnelProxyServer) (o : ObjectId) (data : QByteArray)
    (P : TunnelProxyServer → Item → Prop) : Prop :=
  ∀ before item after, (s.received o data).items o data = before ++ item :: after →
    P (before.foldl (handle env o) ((s.received o data).buffered env o data)) item

/-- `P` holds of each chunk of the run that finds its connection still known. -/
def EveryChunk (P : TunnelProxyServer → ObjectId → QByteArray → Prop) :
    TunnelProxyServer → List Event → Prop
  | _, [] => True
  | s, .dataAvailable o data :: events =>
    (s.m_proxyClients.value o = some o → P s o data) ∧
      EveryChunk P (s.step env (.dataAvailable o data)) events
  | s, event :: events => EveryChunk P (s.step env event) events

def EveryItem (P : TunnelProxyServer → ObjectId → Item → Prop) :
    TunnelProxyServer → List Event → Prop :=
  EveryChunk env fun s o data => Throughout env s o data fun t item => P t o item

theorem everyChunk_cons {P : TunnelProxyServer → ObjectId → QByteArray → Prop}
    {s : TunnelProxyServer} {event : Event} {events : List Event} :
    EveryChunk env P s (event :: events) ↔
      (∀ o data, event = .dataAvailable o data → s.m_proxyClients.value o = some o → P s o data) ∧
        EveryChunk env P (s.step env event) events := by
  cases event with
  | dataAvailable o data =>
    refine and_congr_left fun _ => ⟨?_,fun h => h o data rfl⟩
    rintro h _ _ ⟨⟩
    exact h
  | clientConnected clientId address => simp [EveryChunk]
  | clientDisconnected clientId => simp [EveryChunk]
  | inactiveTimeout clientId => simp [EveryChunk]
  | elapse ms => simp [EveryChunk]

end RemoteProxy.TunnelProxyServer
