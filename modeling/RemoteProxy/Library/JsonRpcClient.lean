import Mathlib.Logic.Function.Basic
import RemoteProxy.Common.JsonPackets
import RemoteProxy.Common.SlipDataProcessor

namespace RemoteProxy

structure JsonReply where
  m_commandId : Int
  m_nameSpace : String
  m_method : String
  m_params : QVariantMap
  m_response : QVariantMap

namespace JsonReply

def new (commandId : Int) (nameSpace method : String) (params : QVariantMap) : JsonReply where
  m_commandId := commandId
  m_nameSpace := nameSpace
  m_method := method
  m_params := params
  m_response := []

instance : Inhabited JsonReply := ⟨new 0 "" "" []⟩

def requestMap (reply : JsonReply) : QVariantMap × JsonReply :=
  let request : QVariantMap := [("id",.number reply.m_commandId 0),
    ("method",.string (reply.m_nameSpace ++ "." ++ reply.m_method))]
  let request := if reply.m_params.isEmpty then request
    else request ++ [("params",.map reply.m_params)]
  (request,{ reply with m_commandId := reply.m_commandId + 1 })

def setResponse (reply : JsonReply) (response : QVariantMap) : JsonReply :=
  { reply with m_response := response }

end JsonReply

/-- `reply` holds the reply objects, of which `created` have been made. -/
structure JsonRpcClient where
  m_commandId : Int
  m_dataBuffer : QByteArray
  m_replies : QHash Int Nat
  reply : Nat → JsonReply
  created : Nat

namespace JsonRpcClient

inductive Signal where
  | finished (reply : Nat)
  | tunnelEstablished (clientName clientUuid : String)
  | tunnelProxyClientConnected (clientName : String) (clientUuid : QUuid)
      (clientPeerAddress : String) (socketAddress : UInt16)
  | tunnelProxyClientDisonnected (socketAddress : UInt16)
  deriving DecidableEq, Repr

def new : JsonRpcClient where
  m_commandId := 0
  m_dataBuffer := []
  m_replies := ∅
  reply := default
  created := 0

def setReply (c : JsonRpcClient) (object : Nat) (reply : JsonReply) : JsonRpcClient :=
  { c with reply := Function.update c.reply object reply }

variable (env : Qt)

section Calls

/-- A call returns the reply object and the bytes handed to the connection. -/
structure Called where
  client : JsonRpcClient
  reply : Nat
  data : QByteArray

def sendRequest (request : QVariantMap) (slipEnabled : Bool) : QByteArray :=
  let data := env.toJson request ++ [JsonPackets.newline]
  if slipEnabled then
    SlipDataProcessor.serializeData (SlipDataProcessor.buildFrame ⟨0x0000,data⟩)
  else data

def call (nameSpace method : String) (params : QVariantMap) (slipEnabled : Bool)
    (c : JsonRpcClient) : Called :=
  let object := c.created
  let r := (JsonReply.new c.m_commandId nameSpace method params).requestMap
  { client :=
      { c.setReply object r.2 with
        created := c.created + 1
        m_replies := c.m_replies.insert c.m_commandId object }
    reply := object
    data := sendRequest env r.1 slipEnabled }

def callHello : JsonRpcClient → Called := call env "RemoteProxy" "Hello" [] false

def callRegisterServer (serverUuid : QUuid) (serverName : String) : JsonRpcClient → Called :=
  call env "TunnelProxy" "RegisterServer"
    [("serverName",.string serverName),("serverUuid",.string (env.uuidToString serverUuid))] false

def callRegisterClient (clientUuid : QUuid) (clientName : String) (serverUuid : QUuid) :
    JsonRpcClient → Called :=
  call env "TunnelProxy" "RegisterClient"
    [("clientName",.string clientName),("clientUuid",.uuid clientUuid),
      ("serverUuid",.string (env.uuidToString serverUuid))] false

def callDisconnectClient (socketAddress : UInt16) : JsonRpcClient → Called :=
  call env "TunnelProxy" "DisconnectClient" [("socketAddress",.ofNat socketAddress.toNat)] true

def callPing (timestamp : Nat) : JsonRpcClient → Called :=
  call env "TunnelProxy" "Ping" [("timestamp",.ofNat timestamp)] true

end Calls

def commandIdOf (dataMap : QVariantMap) : Int := (env.toInt (dataMap.value "id")).getD 0

def notificationSignal (dataMap : QVariantMap) : Option Signal :=
  if dataMap.contains "notification" then
    let notification := QString.split '.' (env.toString (dataMap.value "notification"))
    let nameSpace := notification.head?.getD ""
    let notificationName := notification.getLast?.getD ""
    let notificationParams := (dataMap.value "params").toMap
    if nameSpace = "RemoteProxy" ∧ notificationName = "TunnelEstablished" then
      some (.tunnelEstablished (env.toString (notificationParams.value "name"))
        (env.toString (notificationParams.value "uuid")))
    else if nameSpace = "TunnelProxy" ∧ notificationName = "ClientConnected" then
      some (.tunnelProxyClientConnected (env.toString (notificationParams.value "clientName"))
        (env.toUuid (notificationParams.value "clientUuid"))
        (env.toString (notificationParams.value "clientPeerAddress"))
        (UInt16.ofNat (env.toUInt (notificationParams.value "socketAddress"))))
    else if nameSpace = "TunnelProxy" ∧ notificationName = "ClientDisconnected" then
      some (.tunnelProxyClientDisonnected
        (UInt16.ofNat (env.toUInt (notificationParams.value "socketAddress"))))
    else none
  else none

def finishReply (c : JsonRpcClient) (reply : Nat) (dataMap : QVariantMap) (commandId : Int) :
    JsonRpcClient :=
  { c.setReply reply ((c.reply reply).setResponse dataMap) with
    m_replies := c.m_replies.remove commandId }

def forget (c : JsonRpcClient) (commandId : Int) : JsonRpcClient :=
  { c with m_replies := c.m_replies.remove commandId }

def processDataPacket (c : JsonRpcClient) (data : QByteArray) : JsonRpcClient × Option Signal :=
  match env.fromJson data with
  | .error _ => (c,none)
  | .ok jsonDoc =>
    let dataMap := jsonDoc.toMap
    let commandId := commandIdOf env dataMap
    match c.m_replies.value commandId with
    | some reply => (c.finishReply reply dataMap commandId,some (.finished reply))
    | none => (c.forget commandId,notificationSignal env dataMap)

/-- The object that holds a client and is connected to its signals. -/
structure Owner (S : Type) where
  client : S → JsonRpcClient
  setClient : S → JsonRpcClient → S
  slot : Signal → S → S

variable {S : Type} (owner : Owner S)

def handle (data : QByteArray) (s : S) : S :=
  let r := processDataPacket env (owner.client s) data
  match r.2 with
  | none => owner.setClient s r.1
  | some signal => owner.slot signal (owner.setClient s r.1)

def processDataWith (processDataPacket : QByteArray → S → S) (s : S) (data : QByteArray) : S :=
  let r := JsonPackets.processData processDataPacket (owner.client s).m_dataBuffer data s
  owner.setClient r.2 { owner.client r.2 with m_dataBuffer := r.1 }

def processData : S → QByteArray → S := processDataWith owner (handle env owner)

section Packet

variable {env}

theorem processDataPacket_cases (env : Qt) (c : JsonRpcClient) (data : QByteArray) :
    processDataPacket env c data = (c,none) ∨
    ∃ jsonDoc, env.fromJson data = .ok jsonDoc ∧
      ((∃ reply, c.m_replies.value (commandIdOf env jsonDoc.toMap) = some reply ∧
        processDataPacket env c data =
          (c.finishReply reply jsonDoc.toMap (commandIdOf env jsonDoc.toMap),
            some (.finished reply))) ∨
      (c.m_replies.value (commandIdOf env jsonDoc.toMap) = none ∧
        processDataPacket env c data =
          (c.forget (commandIdOf env jsonDoc.toMap),notificationSignal env jsonDoc.toMap))) := by
  rw [processDataPacket]
  cases hj : env.fromJson data with
  | error e => exact .inl rfl
  | ok jsonDoc =>
    refine .inr ⟨jsonDoc,rfl,?_⟩
    simp only
    cases hr : c.m_replies.value (commandIdOf env jsonDoc.toMap) with
    | some reply => exact .inl ⟨reply,rfl,rfl⟩
    | none => exact .inr ⟨rfl,rfl⟩

theorem notificationSignal_ne_finished (dataMap : QVariantMap) (reply : Nat) :
    notificationSignal env dataMap ≠ some (.finished reply) := by
  dsimp only [notificationSignal]
  split_ifs <;> simp

end Packet

section Owner

variable {env owner}

theorem handle_cases (env : Qt) (owner : Owner S) (s : S) (packet : QByteArray) :
    handle env owner packet s = owner.setClient s (owner.client s) ∨
    ∃ jsonDoc, env.fromJson packet = .ok jsonDoc ∧
      ((∃ reply, (owner.client s).m_replies.value (commandIdOf env jsonDoc.toMap) = some reply ∧
        handle env owner packet s = owner.slot (.finished reply) (owner.setClient s
          ((owner.client s).finishReply reply jsonDoc.toMap (commandIdOf env jsonDoc.toMap)))) ∨
      ((owner.client s).m_replies.value (commandIdOf env jsonDoc.toMap) = none ∧
        ∃ t, t = owner.setClient s ((owner.client s).forget (commandIdOf env jsonDoc.toMap)) ∧
          (handle env owner packet s = t ∨
            ∃ signal, notificationSignal env jsonDoc.toMap = some signal ∧
              handle env owner packet s = owner.slot signal t))) := by
  rcases processDataPacket_cases env (owner.client s) packet with
    h | ⟨jsonDoc,hj,⟨reply,hr,h⟩ | ⟨hr,h⟩⟩
  · refine .inl ?_
    rw [handle,h]
  · refine .inr ⟨jsonDoc,hj,.inl ⟨reply,hr,?_⟩⟩
    rw [handle,h]
  · refine .inr ⟨jsonDoc,hj,.inr ⟨hr,_,rfl,?_⟩⟩
    rw [handle,h]
    cases hn : notificationSignal env jsonDoc.toMap with
    | none => exact .inl rfl
    | some signal => exact .inr ⟨signal,rfl,rfl⟩

theorem processData_eq (s : S) (data : QByteArray) :
    processData env owner s data =
      let r := JsonPackets.processData JsonPackets.record (owner.client s).m_dataBuffer data []
      let s := r.2.foldl (fun s packet => handle env owner packet s) s
      owner.setClient s { owner.client s with m_dataBuffer := r.1 } := by
  rw [processData,processDataWith,JsonPackets.processData_record]

theorem processData_preserves {P : S → Prop}
    (hhandle : ∀ packet s, P s → P (handle env owner packet s))
    (hbuffer : ∀ s b, P s → P (owner.setClient s { owner.client s with m_dataBuffer := b }))
    {s : S} (h : P s) (data : QByteArray) : P (processData env owner s data) := by
  have hall : ∀ (packets : List QByteArray) (s : S), P s →
      P (packets.foldl (fun s packet => handle env owner packet s) s) := by
    intro packets
    induction packets with
    | nil => exact fun s h => h
    | cons p packets ih => exact fun s h => ih _ (hhandle p s h)
  rw [processData_eq]
  exact hbuffer _ _ (hall _ _ h)

end Owner

end JsonRpcClient

end RemoteProxy
