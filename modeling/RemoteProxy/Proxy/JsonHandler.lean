import RemoteProxy.Proxy.JsonTypes

namespace RemoteProxy

inductive MethodType where
  | Method | Signal
  deriving DecidableEq, Repr

structure JsonHandler where
  name : String
  methods : List (String × MethodType)
  m_descriptions : List (String × String)
  m_params : List (String × QVariantMap)
  m_returns : List (String × QVariantMap)

namespace JsonHandler

variable (q : Qt) (handler : JsonHandler)

def basic (t : BasicType) : QVariant := .string (JsonTypes.basicTypeToString t)

def hasMethod (methodName : String) : Bool :=
  (handler.m_descriptions.lookup methodName).isSome &&
    (handler.m_params.lookup methodName).isSome && (handler.m_returns.lookup methodName).isSome

def validateParams (methodName : String) (params : QVariantMap) : Bool × String :=
  JsonTypes.validateMap q ((handler.m_params.lookup methodName).getD []) params

def validateReturns (methodName : String) (returns : QVariantMap) : Bool × String :=
  JsonTypes.validateMap q ((handler.m_returns.lookup methodName).getD []) returns

def introspectMethod (methodName : String) : MethodType → Option QVariantMap
  | .Method => do
    let description ← handler.m_descriptions.lookup methodName
    let params ← handler.m_params.lookup methodName
    let returns ← handler.m_returns.lookup methodName
    pure [("description",.string description),("params",.map params),("returns",.map returns)]
  | .Signal => do
    let description ← handler.m_descriptions.lookup methodName
    let params ← handler.m_params.lookup methodName
    if (methodName.toList.head?.map Char.isUpper).getD false then
      pure [("description",.string description),("params",.map params)]
    else none

def introspect (type : MethodType) : QVariantMap :=
  (handler.methods.filter (·.2 = type)).filterMap fun method =>
    (handler.introspectMethod method.1 method.2).map fun methodData =>
      (handler.name ++ "." ++ method.1,.map methodData)

end JsonHandler

open JsonHandler

def jsonRpcServerHandler : JsonHandler where
  name := "RemoteProxy"
  methods := [("TunnelEstablished",.Signal),("Hello",.Method),("Introspect",.Method)]
  m_descriptions :=
    [("Hello","Once connected to this server, a client can get information about the server by " ++
        "saying Hello. The response informs the client about this proxy server."),
      ("Introspect","Introspect this API."),
      ("TunnelEstablished","Emitted whenever the tunnel has been established successfully. " ++
        "This is the last message from the remote proxy server! Any following data will be from " ++
        "the other tunnel client until the connection will be closed. The parameter contain some " ++
        "information about the other tunnel client.")]
  m_params :=
    [("Hello",[]),("Introspect",[]),
      ("TunnelEstablished",[("uuid",basic .String),("name",basic .String)])]
  m_returns :=
    [("Hello",[("server",basic .String),("name",basic .String),("version",basic .String),
        ("apiVersion",basic .String)]),
      ("Introspect",[("methods",basic .Object),("types",basic .Object),
        ("notifications",basic .Object)])]

def tunnelProxyHandler : JsonHandler where
  name := "TunnelProxy"
  methods :=
    [("ClientConnected",.Signal),("ClientDisconnected",.Signal),("RegisterServer",.Method),
      ("DisconnectClient",.Method),("Ping",.Method),("RegisterClient",.Method)]
  m_descriptions :=
    [("RegisterServer","Register a new TunnelProxy server on this instance. Multiple TunnelProxy " ++
        "clients can be connected to the registered server on success."),
      ("DisconnectClient","A registered server can ask the remote proxy connection to disconnect a " ++
        "client for whatever reason."),
      ("Ping","In order to keep a connection alive when no client is connected, this Ping method " ++
        "can be used. The sent timestamp will be returned as sent in the response for speed " ++
        "measuements on the client side."),
      ("RegisterClient","Register a new TunnelProxy client on TunnelProxy server with the given " ++
        "serverUuid. On success, the remote connection has been accepted and any further data will " ++
        "come from the connected server."),
      ("ClientConnected","Emitted whenever a new client has been connected to a registered server. " ++
        "Only tunnel proxy clients registered as server will receive this notification. The socket " ++
        "address will be used for framing."),
      ("ClientDisconnected","Emitted whenever a new client has been connected to a registered " ++
        "server. Only tunnel proxy clients registered as server will receive this notification.")]
  m_params :=
    [("RegisterServer",[("serverName",basic .String),("serverUuid",basic .Uuid)]),
      ("DisconnectClient",[("socketAddress",basic .UInt)]),
      ("Ping",[("timestamp",basic .UInt)]),
      ("RegisterClient",[("clientName",basic .String),("clientUuid",basic .Uuid),
        ("serverUuid",basic .Uuid)]),
      ("ClientConnected",[("clientName",basic .String),("clientUuid",basic .String),
        ("clientPeerAddress",basic .String),("socketAddress",basic .UInt)]),
      ("ClientDisconnected",[("socketAddress",basic .UInt)])]
  m_returns :=
    [("RegisterServer",[("tunnelProxyError",.string JsonTypes.tunnelProxyErrorRef),
        ("slipEnabled",basic .Bool)]),
      ("DisconnectClient",[("tunnelProxyError",.string JsonTypes.tunnelProxyErrorRef)]),
      ("Ping",[("timestamp",basic .UInt)]),
      ("RegisterClient",[("tunnelProxyError",.string JsonTypes.tunnelProxyErrorRef)])]

def m_handlers : List (String × JsonHandler) :=
  [jsonRpcServerHandler,tunnelProxyHandler].map fun handler => (handler.name,handler)

end RemoteProxy
