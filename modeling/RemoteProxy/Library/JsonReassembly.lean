import RemoteProxy.Common.JsonObjects
import RemoteProxy.Library.JsonRpcClient
import RemoteProxy.Proxy.Client
import RemoteProxy.Qt.Json

namespace RemoteProxy

open JsonPackets

/-- The packets that `processData` of the library's client hands to `processDataPacket`. -/
def JsonRpcClient.packets (c : JsonRpcClient) (chunks : List QByteArray) :
    JsonRpcClient × List QByteArray :=
  chunks.foldl
    (JsonRpcClient.processDataWith ⟨Prod.fst,fun r c => (c,r.2),fun _ r => r⟩
      fun packet r => (r.1,record packet r.2))
    (c,[])

namespace JsonReassembly

def Uncut (objects : List CompactObject) (chunks : List QByteArray) : Prop :=
  ∀ pre, pre ≠ [] → pre <+: chunks → ¬InnerCut objects pre.flatten

theorem feed_cons (buf : QByteArray) (packets : List QByteArray) (chunk : QByteArray)
    (chunks : List QByteArray) :
    feed (buf,packets) (chunk :: chunks) =
      feed ((processData record buf chunk []).1,packets ++ (processData record buf chunk []).2)
        chunks := by
  rw [feed,List.foldl_cons,record_append buf chunk packets]
  rfl

theorem tunnelProxyClient_packets {c : TunnelProxyClient} (hslip : c.m_slipEnabled = false)
    (chunks : List QByteArray) :
    (c.packets chunks).2 = (feed (c.m_dataBuffer,[]) chunks).2 := by
  have hall : ∀ packets : List QByteArray,
      (chunks.foldl (fun r chunk => ((r.1.processData chunk).1,r.2 ++ (r.1.processData chunk).2))
        (c,packets)).2 = (feed (c.m_dataBuffer,packets) chunks).2 := by
    induction chunks generalizing c with
    | nil => exact fun packets => rfl
    | cons chunk chunks ih =>
      intro packets
      have hstep : c.processData chunk =
          ({ c with m_dataBuffer := (processData record c.m_dataBuffer chunk []).1 },
            (processData record c.m_dataBuffer chunk []).2) := by
        simp only [TunnelProxyClient.processData,hslip,TunnelProxyClient.processJson]
        rfl
      rw [List.foldl_cons,hstep,feed_cons]
      exact ih (c := { c with m_dataBuffer := (processData record c.m_dataBuffer chunk []).1 })
        hslip (packets ++ (processData record c.m_dataBuffer chunk []).2)
  exact hall []

theorem jsonRpcClient_packets (c : JsonRpcClient) (chunks : List QByteArray) :
    (c.packets chunks).2 = (feed (c.m_dataBuffer,[]) chunks).2 := by
  have hall : ∀ packets : List QByteArray,
      (chunks.foldl (JsonRpcClient.processDataWith ⟨Prod.fst,fun r c => (c,r.2),fun _ r => r⟩
        fun packet r => (r.1,record packet r.2)) (c,packets)).2 =
          (feed (c.m_dataBuffer,packets) chunks).2 := by
    induction chunks generalizing c with
    | nil => exact fun packets => rfl
    | cons chunk chunks ih =>
      intro packets
      have hfold : ∀ new packets : List QByteArray,
          new.foldl (fun r packet => (r.1,record packet r.2)) (c,packets) =
            (c,packets ++ new) := by
        intro new
        induction new with
        | nil => simp
        | cons p new ih =>
          intro packets
          rw [List.foldl_cons,ih]
          simp [record]
      have hstep : JsonRpcClient.processDataWith ⟨Prod.fst,fun r c => (c,r.2),fun _ r => r⟩
          (fun packet r => (r.1,record packet r.2)) (c,packets) chunk =
            ({ c with m_dataBuffer := (processData record c.m_dataBuffer chunk []).1 },
              packets ++ (processData record c.m_dataBuffer chunk []).2) := by
        rw [JsonRpcClient.processDataWith,processData_record]
        simp only [hfold]
      rw [List.foldl_cons,hstep,feed_cons]
      exact ih { c with m_dataBuffer := (processData record c.m_dataBuffer chunk []).1 }
        (packets ++ (processData record c.m_dataBuffer chunk []).2)
  exact hall []

theorem feed_stream_iff {objects : List CompactObject} {chunks : List QByteArray}
    (hs : chunks.flatten = stream objects) :
    List.Forall₂ PacketOf (feed ([],[]) chunks).2 objects ↔ Uncut objects chunks := by
  have hstart : Caught objects (stream [] ++ []) [] (List.replicate 0 newline ++ []) :=
    .inside 0 rfl (.inl rfl) (by simp) .nil
  exact feed_iff (p := []) (r := ([],[])) hstart chunks hs

/-- Both reassemblers hand on the objects one by one exactly when no chunk ends behind a closing
brace inside an object. -/
theorem reassembly_iff {objects : List CompactObject} {chunks : List QByteArray}
    (hs : chunks.flatten = stream objects) :
    (∀ c : TunnelProxyClient, c.m_slipEnabled = false → c.m_dataBuffer = [] →
      (List.Forall₂ PacketOf (c.packets chunks).2 objects ↔ Uncut objects chunks)) ∧
    ∀ c : JsonRpcClient, c.m_dataBuffer = [] →
      (List.Forall₂ PacketOf (c.packets chunks).2 objects ↔ Uncut objects chunks) := by
  refine ⟨fun c hslip hbuf => ?_,fun c hbuf => ?_⟩
  · rw [tunnelProxyClient_packets hslip,hbuf]
    exact feed_stream_iff hs
  · rw [jsonRpcClient_packets,hbuf]
    exact feed_stream_iff hs

section Run

/-- The text of a request with parameters, cut behind the inner closing brace. -/
def nestedParts : QByteArray × QByteArray :=
  (ascii "\x7b\"id\":1,\"params\":\x7b\"timestamp\":7\x7d",ascii ",\"method\":\"TunnelProxy.Ping\"\x7d")

def nested : CompactObject where
  text := nestedParts.1 ++ nestedParts.2
  opens := ⟨(nestedParts.1 ++ nestedParts.2).tail,by decide +kernel⟩
  closes := ⟨(nestedParts.1 ++ nestedParts.2).dropLast,by decide +kernel⟩
  newline_not_mem := by decide +kernel

theorem reassembly_iff_whole :
    (∀ c : TunnelProxyClient, c.m_slipEnabled = false → c.m_dataBuffer = [] →
      (List.Forall₂ PacketOf (c.packets [stream [nested,nested]]).2 [nested,nested] ↔
        Uncut [nested,nested] [stream [nested,nested]])) ∧
    ∀ c : JsonRpcClient, c.m_dataBuffer = [] →
      (List.Forall₂ PacketOf (c.packets [stream [nested,nested]]).2 [nested,nested] ↔
        Uncut [nested,nested] [stream [nested,nested]]) :=
  reassembly_iff (by simp)

theorem nested_split :
    [nestedParts.1,nestedParts.2 ++ [newline]].flatten = stream [nested] ∧
    ¬List.Forall₂ PacketOf ((TunnelProxyClient.new "" 0 0).packets
      [nestedParts.1,nestedParts.2 ++ [newline]]).2 [nested] ∧
    ¬List.Forall₂ PacketOf (JsonRpcClient.new.packets
      [nestedParts.1,nestedParts.2 ++ [newline]]).2 [nested] := by
  refine ⟨by decide +kernel,?_,?_⟩
  · exact fun h => absurd h.length_eq (by decide +kernel)
  · exact fun h => absurd h.length_eq (by decide +kernel)

end Run

end JsonReassembly

end RemoteProxy
