import Mathlib.Logic.Function.Basic
import Mathlib.Tactic.Simps.Basic
import RemoteProxy.Proxy.Client
import RemoteProxy.Proxy.JsonHandler
import RemoteProxy.Proxy.ServerConnection

namespace RemoteProxy

/-- `reportsAtOnce n` says whether the `n`-th kill makes the transport report the disconnect before
it returns; `order` is the order in which `QHash::values` lists its values. -/
structure Environment extends Qt where
  serverNameString : String
  serverVersionString : String
  apiVersionString : String
  serverName : String
  inactiveTimeout : Nat
  reportsAtOnce : Nat → Bool
  order : List ObjectId → List ObjectId
  order_perm : ∀ l, (order l).Perm l

/-- A frame of tunnel data is marked with the client whose bytes it carries. -/
inductive Message where
  | response (commandId : Int) (params : QVariantMap)
  | errorResponse (commandId : Int) (error : String)
  | notification (id : Int32) (nameSpace method : String) (params : QVariantMap)
  | tunnelData (clientUuid : QUuid) (socketAddress : UInt16) (data : QByteArray)
  | payload (data : QByteArray)

inductive Output where
  | sent (clientId : QUuid) (message : Message) (data : QByteArray)
  | killed (clientId : QUuid) (reason : String)
  | assertFailed (place what : String)

structure TunnelProxyServer where
  m_proxyClients : QHash QUuid ObjectId
  m_tunnelProxyServerConnections : QHash QUuid ObjectId
  m_tunnelProxyClientConnections : QHash QUuid ObjectId
  m_troughputCounter : Int32
  m_clients : List ObjectId
  m_notificationId : Int32
  client : ObjectId → TunnelProxyClient
  serverConnection : ObjectId → TunnelProxyServerConnection
  clientConnection : ObjectId → TunnelProxyClientConnection
  now : Nat
  clientIds : List QUuid
  killCount : Nat
  output : List Output

namespace TunnelProxyServer

def new : TunnelProxyServer where
  m_proxyClients := ∅
  m_tunnelProxyServerConnections := ∅
  m_tunnelProxyClientConnections := ∅
  m_troughputCounter := 0
  m_clients := []
  m_notificationId := 0
  client := fun _ => default
  serverConnection := fun _ => default
  clientConnection := fun _ => default
  now := 0
  clientIds := []
  killCount := 0
  output := []

@[simps] def setClient (s : TunnelProxyServer) (object : ObjectId) (c : TunnelProxyClient) :
    TunnelProxyServer :=
  { s with client := Function.update s.client object c }

@[simps] def setServerConnection (s : TunnelProxyServer) (object : ObjectId)
    (c : TunnelProxyServerConnection) : TunnelProxyServer :=
  { s with serverConnection := Function.update s.serverConnection object c }

@[simps] def setClientConnection (s : TunnelProxyServer) (object : ObjectId)
    (c : TunnelProxyClientConnection) : TunnelProxyServer :=
  { s with clientConnection := Function.update s.clientConnection object c }

@[simps] def emit (s : TunnelProxyServer) (o : Output) : TunnelProxyServer :=
  { s with output := s.output ++ [o] }

def assertX (s : TunnelProxyServer) (condition : Bool) (place what : String) : TunnelProxyServer :=
  if condition then s else s.emit (.assertFailed place what)

/-- `TransportClient::sendData`: what is sent is what the transport is asked to send. -/
def sendData (s : TunnelProxyServer) (object : ObjectId) (message : Message) (data : QByteArray) :
    TunnelProxyServer :=
  (s.setClient object ((s.client object).addTxDataCount data.length)).emit
    (.sent object message data)

variable (env : Environment)

namespace JsonRpcServer

def toVariant : Message → QVariantMap
  | .response commandId params =>
    [("id",.number commandId 0),("status",.string "success"),("params",.map params)]
  | .errorResponse commandId error =>
    [("id",.number commandId 0),("status",.string "error"),("error",.string error)]
  | .notification id nameSpace method params =>
    [("id",.number id.toInt 0),("notification",.string (nameSpace ++ "." ++ method)),
      ("params",.map params)]
  | .tunnelData _ _ _ => []
  | .payload _ => []

def jsonFrame (slipEnabled : Bool) (message : Message) : QByteArray :=
  let data := env.toJson (toVariant message) ++ [JsonPackets.newline]
  if slipEnabled then
    SlipDataProcessor.serializeData (SlipDataProcessor.buildFrame ⟨0x0000,data⟩)
  else data

def sendMessage (s : TunnelProxyServer) (client : ObjectId) (message : Message) :
    TunnelProxyServer :=
  s.sendData client message (jsonFrame env (s.client client).m_slipEnabled message)

def sendResponse (s : TunnelProxyServer) (client : ObjectId) (commandId : Int)
    (params : QVariantMap) : TunnelProxyServer :=
  sendMessage env s client (.response commandId params)

def sendErrorResponse (s : TunnelProxyServer) (client : ObjectId) (commandId : Int)
    (error : String) : TunnelProxyServer :=
  sendMessage env s client (.errorResponse commandId error)

def sendNotification (s : TunnelProxyServer) (nameSpace method : String) (params : QVariantMap)
    (transportClient : ObjectId) : TunnelProxyServer :=
  sendMessage env { s with m_notificationId := s.m_notificationId + 1 } transportClient
    (.notification s.m_notificationId nameSpace method params)

def registerClient (s : TunnelProxyServer) (transportClient : ObjectId) : TunnelProxyServer :=
  if s.m_clients.contains transportClient then s
  else { s with m_clients := s.m_clients ++ [transportClient] }

def unregisterClient (s : TunnelProxyServer) (transportClient : ObjectId) : TunnelProxyServer :=
  if !s.m_clients.contains transportClient then s
  else { s with m_clients := s.m_clients.filter (· != transportClient) }

end JsonRpcServer

open JsonRpcServer

section Disconnect

/-- `TransportClient::killConnection`, where `report` is what a transport that reports at once
calls. -/
def killConnectionWith (report : TunnelProxyServer → QUuid → TunnelProxyServer)
    (s : TunnelProxyServer) (object : ObjectId) (reason : String) : TunnelProxyServer :=
  let atOnce := env.reportsAtOnce s.killCount
  let s := { s.emit (.killed object reason) with killCount := s.killCount + 1 }
  if atOnce then report s object else s

def unregisterClientConnection (s : TunnelProxyServer) (server client : ObjectId) :
    TunnelProxyServer :=
  let r := (s.serverConnection server).unregisterClientConnection (s.clientConnection client)
  (s.setServerConnection server r.1).setClientConnection client r.2

def dropClient (report : TunnelProxyServer → QUuid → TunnelProxyServer) (s : TunnelProxyServer)
    (server client : ObjectId) : TunnelProxyServer :=
  let s := s.unregisterClientConnection server client
  killConnectionWith env report s (s.clientConnection client).m_transportClient
    "Server disconnected"

def serverDisconnected (report : TunnelProxyServer → QUuid → TunnelProxyServer)
    (s : TunnelProxyServer) (tunnelProxyClient : ObjectId) : TunnelProxyServer :=
  let uuid := (s.client tunnelProxyClient).m_uuid
  match s.m_tunnelProxyServerConnections.value uuid with
  | none => s
  | some server =>
    let s := { s with
      m_tunnelProxyServerConnections := s.m_tunnelProxyServerConnections.remove uuid }
    (env.order (s.serverConnection server).clientConnections).foldl
      (fun s client => dropClient env report s server client) s

def clientDisconnectedParams (s : TunnelProxyServer) (client : ObjectId) : QVariantMap :=
  [("socketAddress",.ofNat (s.clientConnection client).m_socketAddress.toNat)]

def detachClient (s : TunnelProxyServer) (server client : ObjectId) : TunnelProxyServer :=
  let params := clientDisconnectedParams s client
  let s := s.unregisterClientConnection server client
  sendNotification env s "TunnelProxy" "ClientDisconnected" params
    (s.serverConnection server).m_transportClient

def clientDisconnected (s : TunnelProxyServer) (tunnelProxyClient : ObjectId) :
    TunnelProxyServer :=
  let uuid := (s.client tunnelProxyClient).m_uuid
  match s.m_tunnelProxyClientConnections.value uuid with
  | none => s
  | some client =>
    let s := { s with
      m_tunnelProxyClientConnections := s.m_tunnelProxyClientConnections.remove uuid }
    match (s.clientConnection client).m_serverConnection with
    | none => s
    | some server => detachClient env s server client

def take (s : TunnelProxyServer) (clientId : QUuid) : TunnelProxyServer :=
  { s with m_proxyClients := s.m_proxyClients.remove clientId }

def disconnected (report : TunnelProxyServer → QUuid → TunnelProxyServer) (s : TunnelProxyServer)
    (tunnelProxyClient : ObjectId) : TunnelProxyServer :=
  let s := if (s.client tunnelProxyClient).m_type = .TypeServer then
      serverDisconnected env report s tunnelProxyClient
    else s
  let s := if (s.client tunnelProxyClient).m_type = .TypeClient then
      clientDisconnected env s tunnelProxyClient
    else s
  unregisterClient s tunnelProxyClient

/-- Each nested call takes an entry out of `m_proxyClients`, so their number bounds the nesting. -/
def onClientDisconnectedWithin :
    Nat → TunnelProxyServer → QUuid → TunnelProxyServer
  | 0, s, _ => s
  | fuel + 1, s, clientId =>
    match s.m_proxyClients.value clientId with
    | none => s
    | some tunnelProxyClient =>
      disconnected env (onClientDisconnectedWithin fuel) (s.take clientId) tunnelProxyClient

def onClientDisconnected (s : TunnelProxyServer) (clientId : QUuid) : TunnelProxyServer :=
  onClientDisconnectedWithin env s.m_proxyClients.entries.length s clientId

def killConnection (s : TunnelProxyServer) (object : ObjectId) (reason : String) :
    TunnelProxyServer :=
  killConnectionWith env (onClientDisconnected env) s object reason

end Disconnect

def killConnectionAfterResponse (s : TunnelProxyServer) (object : ObjectId) (reason : String) :
    TunnelProxyServer :=
  s.setClient object ((s.client object).killConnectionAfterResponse reason)

def activateClient (s : TunnelProxyServer) (object : ObjectId) : TunnelProxyServer :=
  (s.assertX ((s.client object).m_type ≠ .TypeNone) "TunnelProxyClient"
    ("Activate client called but the client type is not specified yet. Make sure you activate " ++
      "either a client or a server.")).setClient object ((s.client object).activateClient s.now)

def enterAs (s : TunnelProxyServer) (object : ObjectId) (type : ClientType) (uuid : QUuid)
    (name : String) : TunnelProxyServer :=
  activateClient (s.setClient object ((((s.client object).setType type).setUuid uuid).setName name))
    object

def acceptServer (s : TunnelProxyServer) (tunnelProxyClient : ObjectId) (serverUuid : QUuid)
    (serverName : String) : TunnelProxyServer :=
  let s := s.enterAs tunnelProxyClient .TypeServer serverUuid serverName
  let s := s.setClient tunnelProxyClient (s.client tunnelProxyClient).enableSlipAfterResponse
  let s := s.setServerConnection tunnelProxyClient
    (TunnelProxyServerConnection.new tunnelProxyClient serverUuid serverName)
  { s with m_tunnelProxyServerConnections :=
      s.m_tunnelProxyServerConnections.insert serverUuid tunnelProxyClient }

def registerServer (s : TunnelProxyServer) (clientId serverUuid : QUuid) (serverName : String) :
    TunnelProxyServer × TunnelProxyError :=
  match s.m_proxyClients.value clientId with
  | none => (s,.InternalServerError)
  | some tunnelProxyClient =>
    if (s.client tunnelProxyClient).m_type ≠ .TypeNone then
      (killConnectionAfterResponse s tunnelProxyClient "Already registered",.AlreadyRegistered)
    else if s.m_tunnelProxyServerConnections.contains serverUuid then
      (killConnectionAfterResponse s tunnelProxyClient "Already registered",.AlreadyRegistered)
    else if s.m_tunnelProxyClientConnections.contains serverUuid then
      (killConnectionAfterResponse s tunnelProxyClient "UUID cross registeration",
        .AlreadyRegistered)
    else (s.acceptServer tunnelProxyClient serverUuid serverName,.NoError)

/-- `TunnelProxyServerConnection::registerClientConnection` on the objects themselves. -/
def registerClientConnection (s : TunnelProxyServer) (server client : ObjectId) :
    TunnelProxyServer :=
  let s := s.assertX (s.serverConnection server).freeAddressAsserted "TunnelProxyServerConnection"
    "no free address but the maximum of connections has been reached."
  let r := (s.serverConnection server).registerClientConnection server client
    (s.clientConnection client)
  (s.setServerConnection server r.1).setClientConnection client r.2

def attachClient (s : TunnelProxyServer) (tunnelProxyClient : ObjectId) (clientUuid : QUuid)
    (clientName : String) (server : ObjectId) : TunnelProxyServer :=
  let s := s.enterAs tunnelProxyClient .TypeClient clientUuid clientName
  let s := s.setClientConnection tunnelProxyClient
    ((TunnelProxyClientConnection.new tunnelProxyClient clientUuid clientName).setServerConnection
      (some (server,(s.serverConnection server).m_serverUuid)))
  let s := { s with m_tunnelProxyClientConnections :=
    s.m_tunnelProxyClientConnections.insert clientUuid tunnelProxyClient }
  s.registerClientConnection server tunnelProxyClient

def clientConnectedParams (s : TunnelProxyServer) (tunnelProxyClient : ObjectId) : QVariantMap :=
  [("clientName",.string (s.client tunnelProxyClient).m_name),
    ("clientUuid",.string (env.uuidToString (s.client tunnelProxyClient).m_uuid)),
    ("clientPeerAddress",.string (s.client tunnelProxyClient).m_peerAddress),
    ("socketAddress",.ofNat (s.clientConnection tunnelProxyClient).m_socketAddress.toNat)]

def acceptClient (s : TunnelProxyServer) (tunnelProxyClient : ObjectId) (clientUuid : QUuid)
    (clientName : String) (server : ObjectId) : TunnelProxyServer :=
  let s := s.attachClient tunnelProxyClient clientUuid clientName server
  sendNotification env s "TunnelProxy" "ClientConnected"
    (clientConnectedParams env s tunnelProxyClient) (s.serverConnection server).m_transportClient

def registerClient (s : TunnelProxyServer) (clientId clientUuid : QUuid) (clientName : String)
    (serverUuid : QUuid) : TunnelProxyServer × TunnelProxyError :=
  match s.m_proxyClients.value clientId with
  | none => (s,.InternalServerError)
  | some tunnelProxyClient =>
    if (s.client tunnelProxyClient).m_type ≠ .TypeNone then
      (killConnectionAfterResponse s tunnelProxyClient "Already registered",.AlreadyRegistered)
    else if s.m_tunnelProxyClientConnections.contains clientUuid then
      (killConnectionAfterResponse s tunnelProxyClient "Already registered",.AlreadyRegistered)
    else if s.m_tunnelProxyServerConnections.contains clientUuid then
      (killConnectionAfterResponse s tunnelProxyClient "UUID cross registeration",
        .AlreadyRegistered)
    else
      match s.m_tunnelProxyServerConnections.value serverUuid with
      | none =>
        (killConnectionAfterResponse s tunnelProxyClient "Unknown server",.ServerNotFound)
      | some server =>
        (acceptClient env s tunnelProxyClient clientUuid clientName server,.NoError)

def disconnectClient (s : TunnelProxyServer) (clientId : QUuid) (socketAddress : UInt16) :
    TunnelProxyServer × TunnelProxyError :=
  match s.m_proxyClients.value clientId with
  | none => (s,.InternalServerError)
  | some tunnelProxyClient =>
    if (s.client tunnelProxyClient).m_type ≠ .TypeServer then
      (killConnectionAfterResponse s tunnelProxyClient "Already registered",.AlreadyRegistered)
    else
      match s.m_tunnelProxyServerConnections.value (s.client tunnelProxyClient).m_uuid with
      | none =>
        (killConnectionAfterResponse s tunnelProxyClient "Internal server error",
          .InternalServerError)
      | some server =>
        match (s.serverConnection server).getClientConnection socketAddress with
        | none => (s,.UnknownSocketAddress)
        | some client =>
          (killConnection env s (s.clientConnection client).m_transportClient
            "Server requested disconnect.",.NoError)

namespace Handlers

abbrev Method :=
  TunnelProxyServer → QVariantMap → ObjectId → TunnelProxyServer × QVariantMap

def errorResponse (error : TunnelProxyError) : QVariantMap :=
  [("tunnelProxyError",.string (JsonTypes.tunnelProxyErrorToString error))]

def Hello : Method := fun s _ _ =>
  (s,[("server",.string env.serverNameString),("name",.string env.serverName),
    ("version",.string env.serverVersionString),("apiVersion",.string env.apiVersionString)])

def Introspect : Method := fun s _ _ =>
  let collected (type : MethodType) : QVariant :=
    .map (m_handlers.flatMap fun handler => handler.2.introspect type)
  (s,[("types",.map JsonTypes.allTypes),("methods",collected .Method),
    ("notifications",collected .Signal)])

def RegisterServer : Method := fun s params transportClient =>
  let serverUuid := env.toUuid (params.value "serverUuid")
  let r := if serverUuid.isNull then (s,.InvalidUuid)
    else registerServer s transportClient serverUuid (env.toString (params.value "serverName"))
  (r.1,errorResponse r.2 ++ [("slipEnabled",.bool (r.2 = .NoError))])

def DisconnectClient : Method := fun s params transportClient =>
  let socketAddress := UInt16.ofNat (env.toUInt (params.value "socketAddress"))
  let r := disconnectClient env s transportClient socketAddress
  (r.1,errorResponse r.2)

def Ping : Method := fun s params _ => (s,[("timestamp",params.value "timestamp")])

def RegisterClient : Method := fun s params transportClient =>
  let clientName := env.toString (params.value "clientName")
  let clientUuid := env.toUuid (params.value "clientUuid")
  let serverUuid := env.toUuid (params.value "serverUuid")
  let r := if serverUuid.isNull then (s,.InvalidUuid)
    else if clientUuid.isNull then (s,.InvalidUuid)
    else registerClient env s transportClient clientUuid clientName serverUuid
  (r.1,errorResponse r.2)

def method? (targetNamespace method : String) : Option Method :=
  List.lookup (targetNamespace,method)
    [(("RemoteProxy","Hello"),Hello env),(("RemoteProxy","Introspect"),Introspect),
      (("TunnelProxy","RegisterServer"),RegisterServer env),
      (("TunnelProxy","DisconnectClient"),DisconnectClient env),
      (("TunnelProxy","Ping"),Ping),
      (("TunnelProxy","RegisterClient"),RegisterClient env)]

end Handlers

namespace JsonRpcServer

def formatAssertion (targetNamespace method : String) (handler : JsonHandler)
    (data : QVariantMap) : String :=
  env.arg (env.arg (env.arg "\nMethod: %1\nTemplate: %2\nValue: %3"
    (targetNamespace ++ "." ++ method))
    (env.toJsonIndented
      ((handler.introspect .Method).value (targetNamespace ++ "." ++ method)).toMap))
    (env.toJsonIndented data)

def refuse (s : TunnelProxyServer) (transportClient : ObjectId) (commandId : Int)
    (error reason : String) : TunnelProxyServer :=
  killConnection env (sendErrorResponse env s transportClient commandId error) transportClient
    reason

/-- What follows the reply of a method: the response, and then the kill or the switch to SLIP that
the method asked for. -/
def finishCall (s : TunnelProxyServer) (transportClient : ObjectId) (commandId : Int)
    (data : QVariantMap) : TunnelProxyServer :=
  let s := sendResponse env s transportClient commandId data
  if (s.client transportClient).m_killConnectionRequested then
    killConnection env s transportClient (s.client transportClient).m_killConnectionReason
  else if (s.client transportClient).m_slipAfterResponseEnabled then
    s.setClient transportClient ((s.client transportClient).setSlipEnabled true)
  else s

def invokeMethod (s : TunnelProxyServer) (transportClient : ObjectId) (commandId : Int)
    (targetNamespace method : String) (handler : JsonHandler) (params : QVariantMap) :
    TunnelProxyServer :=
  match Handlers.method? env targetNamespace method with
  | none => s
  | some invoke =>
    let r := invoke s params transportClient
    let s := r.1.assertX
      ((targetNamespace = "RemoteProxy" && method = "Introspect") ||
        (handler.validateReturns env.toQt method r.2).1)
      "validating return value" (formatAssertion env targetNamespace method handler r.2)
    finishCall env s transportClient commandId r.2

def processDataPacket (s : TunnelProxyServer) (transportClient : ObjectId) (data : QByteArray) :
    TunnelProxyServer :=
  match env.fromJson data with
  | .error errorString =>
    refuse env s transportClient (-1) (env.arg "Failed to parse JSON data: %1" errorString)
      "Invalid JSON data received."
  | .ok jsonDoc =>
    let message := jsonDoc.toMap
    match env.toInt (message.value "id") with
    | none =>
      refuse env s transportClient (-1) "Error parsing command. Missing 'id'"
        "The id property is missing in the request."
    | some commandId =>
      match QString.split '.' (env.toString (message.value "method")) with
      | [targetNamespace,method] =>
        match m_handlers.lookup targetNamespace with
        | none =>
          refuse env s transportClient commandId "No such namespace" "No such namespace."
        | some handler =>
          if !handler.hasMethod method then
            refuse env s transportClient commandId "No such method" "No such method."
          else
            let params := (message.value "params").toMap
            let validationResult := handler.validateParams env.toQt method params
            if !validationResult.1 then
              refuse env s transportClient commandId ("Invalid params: " ++ validationResult.2)
                "Invalid params passed."
            else
              invokeMethod env s transportClient commandId targetNamespace method handler params
      | _ =>
        refuse env s transportClient commandId
          (env.arg "Error parsing method. Got: '%1'', Expected: 'Namespace.method'"
            (env.toString (message.value "method")))
          "Invalid method passed."

def processData (s : TunnelProxyServer) (transportClient : ObjectId) (data : QByteArray) :
    TunnelProxyServer :=
  if !s.m_clients.contains transportClient then s
  else
    let r := (s.client transportClient).processData data
    let s := s.setClient transportClient r.1
    if (s.client transportClient).bufferSize > 1024 * 10 then
      killConnection env s transportClient "Data buffer size violation."
    else r.2.foldl (fun s packet => processDataPacket env s transportClient packet) s

end JsonRpcServer

def onClientConnected (s : TunnelProxyServer) (clientId : QUuid) (address : String) :
    TunnelProxyServer :=
  let s := { s with clientIds := clientId :: s.clientIds }
  if s.m_proxyClients.contains clientId then
    killConnection env s clientId "Internal server error"
  else
    let s := s.setClient clientId (TunnelProxyClient.new address env.inactiveTimeout s.now)
    let s := { s with m_proxyClients := s.m_proxyClients.insert clientId clientId }
    JsonRpcServer.registerClient s clientId

def tunnelToServer (s : TunnelProxyServer) (tunnelProxyClient : ObjectId) (data : QByteArray) :
    TunnelProxyServer :=
  match s.m_tunnelProxyClientConnections.value (s.client tunnelProxyClient).m_uuid with
  | none => s
  | some client =>
    match (s.clientConnection client).m_serverConnection with
    | none =>
      s.assertX false "TunnelProxyServer"
        "The client has not been registered to a server connection"
    | some server =>
      let frame : SlipDataProcessor.Frame := ⟨(s.clientConnection client).m_socketAddress,data⟩
      let rawData := SlipDataProcessor.serializeData (SlipDataProcessor.buildFrame frame)
      let s := s.sendData (s.serverConnection server).m_transportClient
        (.tunnelData (s.client tunnelProxyClient).m_uuid frame.socketAddress data) rawData
      { s with m_troughputCounter := s.m_troughputCounter + .ofNat data.length }

def processFrame (s : TunnelProxyServer) (tunnelProxyClient : ObjectId)
    (frame : SlipDataProcessor.Frame) : TunnelProxyServer :=
  if frame.socketAddress = 0x0000 then
    JsonRpcServer.processDataPacket env s tunnelProxyClient frame.data
  else
    match s.m_tunnelProxyServerConnections.value (s.client tunnelProxyClient).m_uuid with
    | none => s
    | some server =>
      match (s.serverConnection server).getClientConnection frame.socketAddress with
      | none => s
      | some client =>
        let s := s.sendData (s.clientConnection client).m_transportClient (.payload frame.data)
          frame.data
        { s with m_troughputCounter := s.m_troughputCounter + .ofNat frame.data.length }

def serverDataAvailable (s : TunnelProxyServer) (tunnelProxyClient : ObjectId)
    (data : QByteArray) : TunnelProxyServer :=
  if (s.client tunnelProxyClient).m_slipEnabled then
    let r := (s.client tunnelProxyClient).processData data
    r.2.foldl
      (fun s frameData =>
        processFrame env s tunnelProxyClient (SlipDataProcessor.parseFrame frameData))
      (s.setClient tunnelProxyClient r.1)
  else JsonRpcServer.processData env s tunnelProxyClient data

def onClientDataAvailable (s : TunnelProxyServer) (clientId : QUuid) (data : QByteArray) :
    TunnelProxyServer :=
  match s.m_proxyClients.value clientId with
  | none => s
  | some tunnelProxyClient =>
    let s := s.setClient tunnelProxyClient
      ((s.client tunnelProxyClient).addRxDataCount s.now data.length)
    match (s.client tunnelProxyClient).m_type with
    | .TypeClient => tunnelToServer s tunnelProxyClient data
    | .TypeServer => serverDataAvailable env s tunnelProxyClient data
    | .TypeNone => JsonRpcServer.processData env s tunnelProxyClient data

def inactiveTimeout (s : TunnelProxyServer) (clientId : QUuid) : TunnelProxyServer :=
  match s.m_proxyClients.value clientId with
  | none => s
  | some tunnelProxyClient =>
    let c := s.client tunnelProxyClient
    if c.m_inactiveTimer.due s.now then
      killConnection env
        (s.setClient tunnelProxyClient
          { c with m_inactiveTimer := c.m_inactiveTimer.timeout s.now }) tunnelProxyClient
        "Tunnelproxy client timeout occurred. The socket was inactive."
    else s

inductive Event where
  | clientConnected (clientId : QUuid) (address : String)
  | clientDisconnected (clientId : QUuid)
  | dataAvailable (clientId : QUuid) (data : QByteArray)
  | inactiveTimeout (clientId : QUuid)
  | elapse (ms : Nat)

def step (s : TunnelProxyServer) : Event → TunnelProxyServer
  | .clientConnected clientId address => onClientConnected env s clientId address
  | .clientDisconnected clientId => onClientDisconnected env s clientId
  | .dataAvailable clientId data => onClientDataAvailable env s clientId data
  | .inactiveTimeout clientId => inactiveTimeout env s clientId
  | .elapse ms => { s with now := s.now + ms }

def Fresh (s : TunnelProxyServer) : Event → Prop
  | .clientConnected clientId _ => clientId ∉ s.clientIds
  | _ => True

instance decidableFresh (s : TunnelProxyServer) : (event : Event) → Decidable (s.Fresh event)
  | .clientConnected clientId _ => inferInstanceAs (Decidable (clientId ∉ s.clientIds))
  | .clientDisconnected _ => inferInstanceAs (Decidable True)
  | .dataAvailable _ _ => inferInstanceAs (Decidable True)
  | .inactiveTimeout _ => inferInstanceAs (Decidable True)
  | .elapse _ => inferInstanceAs (Decidable True)

def FreshRun : TunnelProxyServer → List Event → Prop
  | _, [] => True
  | s, event :: events => s.Fresh event ∧ FreshRun (s.step env event) events

instance decidableFreshRun : (s : TunnelProxyServer) → (events : List Event) →
    Decidable (FreshRun env s events)
  | _, [] => inferInstanceAs (Decidable True)
  | s, event :: events =>
    have := decidableFreshRun (s.step env event) events
    inferInstanceAs (Decidable (_ ∧ _))

def run (s : TunnelProxyServer) (events : List Event) : TunnelProxyServer :=
  events.foldl (step env) s

inductive Reachable : TunnelProxyServer → Prop where
  | new : Reachable new
  | step {s : TunnelProxyServer} {event : Event} :
      Reachable s → s.Fresh event → Reachable (s.step env event)

theorem Reachable.run {env : Environment} {s : TunnelProxyServer} {events : List Event}
    (h : Reachable env s) (hfresh : FreshRun env s events) :
    Reachable env (s.run env events) := by
  induction events generalizing s with
  | nil => exact h
  | cons event events ih => exact ih (h.step hfresh.1) hfresh.2

end TunnelProxyServer

end RemoteProxy
