import RemoteProxy.Common.FrameCodec
import RemoteProxy.Common.JsonPackets

namespace RemoteProxy

inductive ClientType where
  | TypeNone | TypeServer | TypeClient
  deriving DecidableEq, Repr

structure TunnelProxyClient where
  m_peerAddress : String
  m_name : String
  m_uuid : QUuid
  m_dataBuffer : QByteArray
  m_killConnectionRequested : Bool
  m_killConnectionReason : String
  m_slipAfterResponseEnabled : Bool
  m_slipEnabled : Bool
  m_rxDataCount : UInt64
  m_txDataCount : UInt64
  m_inactiveTimer : QTimer
  rxDataCountConnected : Bool
  m_type : ClientType

namespace TunnelProxyClient

def new (address : String) (inactiveTimeout now : Nat) : TunnelProxyClient where
  m_peerAddress := address
  m_name := ""
  m_uuid := QUuid.null
  m_dataBuffer := []
  m_killConnectionRequested := false
  m_killConnectionReason := ""
  m_slipAfterResponseEnabled := false
  m_slipEnabled := false
  m_rxDataCount := 0
  m_txDataCount := 0
  m_inactiveTimer := QTimer.start ⟨inactiveTimeout,true,none⟩ now
  rxDataCountConnected := false
  m_type := .TypeNone

instance : Inhabited TunnelProxyClient := ⟨new "" 0 0⟩

def killConnectionAfterResponse (c : TunnelProxyClient) (killConnectionReason : String) :
    TunnelProxyClient :=
  { c with m_killConnectionRequested := true, m_killConnectionReason := killConnectionReason }

def enableSlipAfterResponse (c : TunnelProxyClient) : TunnelProxyClient :=
  { c with m_slipAfterResponseEnabled := true }

def setSlipEnabled (c : TunnelProxyClient) (slipEnabled : Bool) : TunnelProxyClient :=
  { c with m_slipEnabled := slipEnabled }

def setUuid (c : TunnelProxyClient) (uuid : QUuid) : TunnelProxyClient := { c with m_uuid := uuid }

def setName (c : TunnelProxyClient) (name : String) : TunnelProxyClient := { c with m_name := name }

def setType (c : TunnelProxyClient) (type : ClientType) : TunnelProxyClient :=
  { c with m_type := type }

def addRxDataCount (c : TunnelProxyClient) (now dataCount : Nat) : TunnelProxyClient :=
  let c := { c with m_rxDataCount := c.m_rxDataCount + .ofNat dataCount }
  if dataCount > 0 ∧ c.rxDataCountConnected then
    { c with m_inactiveTimer := c.m_inactiveTimer.start now }
  else c

def addTxDataCount (c : TunnelProxyClient) (dataCount : Nat) : TunnelProxyClient :=
  { c with m_txDataCount := c.m_txDataCount + .ofNat dataCount }

def bufferSize (c : TunnelProxyClient) : Nat := c.m_dataBuffer.length

def activateClient (c : TunnelProxyClient) (now : Nat) : TunnelProxyClient :=
  let c := { c with m_inactiveTimer := c.m_inactiveTimer.stop }
  if c.m_type ≠ .TypeServer then c
  else
    { c with
      rxDataCountConnected := true
      m_inactiveTimer := QTimer.start ⟨60000,false,none⟩ now }

/-- At an END byte. The rejected buffer is kept; a packet is the buffer as it was received. -/
def closeFrame (m_dataBuffer : QByteArray) (packets : List QByteArray) :
    QByteArray × List QByteArray :=
  let frame := SlipDataProcessor.deserializeData m_dataBuffer
  if QByteArray.isNull frame then (m_dataBuffer,packets) else ([],packets ++ [m_dataBuffer])

def processSlip (m_dataBuffer data : QByteArray) : QByteArray × List QByteArray :=
  Delimited.run SlipDataProcessor.ProtocolByteEnd closeFrame (m_dataBuffer,[]) data

def processJson (m_dataBuffer data : QByteArray) : QByteArray × List QByteArray :=
  JsonPackets.processData JsonPackets.record m_dataBuffer data []

def processData (c : TunnelProxyClient) (data : QByteArray) :
    TunnelProxyClient × List QByteArray :=
  let r := if c.m_slipEnabled then processSlip c.m_dataBuffer data
    else processJson c.m_dataBuffer data
  ({ c with m_dataBuffer := r.1 },r.2)

def packets (c : TunnelProxyClient) (chunks : List QByteArray) :
    TunnelProxyClient × List QByteArray :=
  chunks.foldl
    (fun r chunk => ((r.1.processData chunk).1,r.2 ++ (r.1.processData chunk).2)) (c,[])

theorem processSlip_accumulate (buf : QByteArray) (packets : List QByteArray) (data : QByteArray) :
    Delimited.run SlipDataProcessor.ProtocolByteEnd closeFrame (buf,packets) data =
      ((processSlip buf data).1,
        packets ++ (processSlip buf data).2) := by
  refine Delimited.run_accumulate SlipDataProcessor.ProtocolByteEnd ?_ buf packets data
  intro buf packets
  simp only [closeFrame]
  split
  · simp
  · simp

theorem processSlip_append (buf data data' : QByteArray) :
    processSlip buf (data ++ data') =
      ((processSlip (processSlip buf data).1 data').1,
        (processSlip buf data).2 ++
          (processSlip (processSlip buf data).1 data').2) := by
  rw [← processSlip_accumulate,processSlip,Delimited.run_append]
  rfl

theorem processSlip_body (body : QByteArray) (h : SlipDataProcessor.ProtocolByteEnd ∉ body) :
    processSlip [] body = (body,[]) :=
  Delimited.run_body SlipDataProcessor.ProtocolByteEnd closeFrame body h [] []

theorem length_processSlip_le (buf data : QByteArray) :
    (processSlip buf data).2.length ≤ data.count SlipDataProcessor.ProtocolByteEnd := by
  have hclose : ∀ (buf : QByteArray) (packets : List QByteArray),
      (closeFrame buf packets).2.length ≤ packets.length + 1 := by
    intro buf packets
    simp only [closeFrame]
    split
    · exact Nat.le_succ _
    · simp
  have hrun := Delimited.run_length_le SlipDataProcessor.ProtocolByteEnd hclose (buf,[]) data
  rw [List.length_nil,Nat.zero_add] at hrun
  exact hrun

open SlipDataProcessor in
theorem processSlip_encode (frames : List Frame) :
    processSlip [] (encode frames) = ([],frames.map fun frame => escape (buildFrame frame)) := by
  have hclose : ∀ (frame : Frame) (packets : List QByteArray),
      closeFrame (escape (buildFrame frame)) packets =
        ([],packets ++ [escape (buildFrame frame)]) := by
    intro frame packets
    simp [closeFrame,QByteArray.isNull,buildFrame]
  rw [processSlip,encode_eq,Delimited.run_terminate]
  · rw [List.foldl_map]
    simp only [hclose]
    have hfold : ∀ packets : List QByteArray,
        (frames.foldl (fun packets frame => packets ++ [escape (buildFrame frame)]) packets) =
          packets ++ frames.map fun frame => escape (buildFrame frame) := by
      induction frames with
      | nil => simp
      | cons frame frames ih =>
        intro packets
        rw [List.foldl_cons,ih]
        simp
    exact congrArg _ (hfold [])
  · intro body hb
    obtain ⟨frame,-,rfl⟩ := List.mem_map.mp hb
    exact ⟨escape_buildFrame_ne_nil _,end_not_mem_escape _⟩
  · intro body hb packets
    obtain ⟨frame,-,rfl⟩ := List.mem_map.mp hb
    rw [hclose]

open SlipDataProcessor in
theorem processSlip_first {buf v rest : QByteArray} (hv : ProtocolByteEnd ∉ v)
    (hlen : (processSlip buf (v ++ ProtocolByteEnd :: rest)).2.length =
      rest.count ProtocolByteEnd + 1) :
    (processSlip buf (v ++ ProtocolByteEnd :: rest)).2 =
      (buf ++ v) :: (processSlip [] rest).2 := by
  have hsplit : processSlip buf (v ++ ProtocolByteEnd :: rest) =
      Delimited.run ProtocolByteEnd closeFrame
        (Delimited.run ProtocolByteEnd closeFrame (buf ++ v,[]) [ProtocolByteEnd]) rest := by
    rw [processSlip,Delimited.run_append,Delimited.run_body _ _ v hv,← Delimited.run_append]
    rfl
  rw [Delimited.run_stop] at hsplit
  have hfew : ∀ buf', processSlip buf (v ++ ProtocolByteEnd :: rest) = processSlip buf' rest →
      False := by
    intro buf' he
    rw [he] at hlen
    have := length_processSlip_le buf' rest
    omega
  split at hsplit
  · exact (hfew _ hsplit).elim
  · simp only [closeFrame] at hsplit
    split at hsplit
    · exact (hfew _ hsplit).elim
    · rw [hsplit,processSlip_accumulate]
      rfl

end TunnelProxyClient

end RemoteProxy
