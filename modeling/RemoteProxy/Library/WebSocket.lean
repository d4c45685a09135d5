import RemoteProxy.Common.SlipDataProcessor
import RemoteProxy.Foundation.Utf8

namespace RemoteProxy

namespace QString

def fromUtf8 (data : QByteArray) : List Char := Utf8.decode data

def toUtf8 (s : List Char) : QByteArray := Utf8.encode s

end QString

namespace QHash

variable {K V : Type} [DecidableEq V] [Inhabited K]

def key (h : QHash K V) (v : V) : K :=
  ((h.entries.find? fun e => e.2 = v).map Sigma.fst).getD default

theorem key_eq [DecidableEq K] {h : QHash K V} {k : K} {v : V} (hv : h.value k = some v)
    (hunique : ∀ k', h.value k' = some v → k' = k) : h.key v = k := by
  have hmem : (⟨k,v⟩ : Sigma fun _ : K => V) ∈ h.entries := AList.mem_lookup_iff.mp hv
  rw [key]
  cases hf : h.entries.find? fun e => e.2 = v with
  | none =>
    exact absurd (decide_eq_true rfl) (List.find?_eq_none.mp hf _ hmem)
  | some e =>
    have he : e.2 = v := by simpa using List.find?_some hf
    have hlookup : h.value e.1 = some e.2 :=
      AList.mem_lookup_iff.mpr (List.mem_of_find?_eq_some hf)
    exact hunique e.1 (hlookup.trans (congrArg some he))

end QHash

namespace WebSocketConnection

def sendData (data : QByteArray) : List Char := QString.fromUtf8 data

def onTextMessageReceived (message : List Char) : QByteArray := QString.toUtf8 message

end WebSocketConnection

structure WebSocketServer where
  m_clientList : QHash QUuid Nat

namespace WebSocketServer

def sendData (s : WebSocketServer) (clientId : QUuid) (data : QByteArray) :
    List (Nat × List Char) :=
  match s.m_clientList.value clientId with
  | some client => [(client,QString.fromUtf8 data)]
  | none => []

def onTextMessageReceived (s : WebSocketServer) (client : Nat) (message : List Char) :
    QUuid × QByteArray :=
  (s.m_clientList.key client,QString.toUtf8 message)

structure Connected (s : WebSocketServer) (clientId : QUuid) (client : Nat) : Prop where
  value : s.m_clientList.value clientId = some client
  unique : ∀ id, s.m_clientList.value id = some client → id = clientId

def Uploads (s : WebSocketServer) (clientId : QUuid) (client : Nat) (data : QByteArray) : Prop :=
  s.onTextMessageReceived client (WebSocketConnection.sendData data) = (clientId,data)

def Downloads (s : WebSocketServer) (clientId : QUuid) (client : Nat) (data : QByteArray) : Prop :=
  (s.sendData clientId data).map
    (fun m => (m.1,WebSocketConnection.onTextMessageReceived m.2)) = [(client,data)]

variable {s : WebSocketServer} {clientId : QUuid} {client : Nat}

/-- Data passes the web socket unchanged, in either direction, exactly when it is UTF-8. -/
theorem transparent_iff (h : Connected s clientId client) (data : QByteArray) :
    (Uploads s clientId client data ↔ ∃ text, data = QString.toUtf8 text) ∧
      (Downloads s clientId client data ↔ ∃ text, data = QString.toUtf8 text) := by
  have hround := Utf8.encode_decode_iff data
  constructor
  · refine Iff.trans ?_ hround
    rw [Uploads,onTextMessageReceived,QHash.key_eq h.value h.unique,Prod.mk.injEq]
    exact and_iff_right rfl
  · refine Iff.trans ?_ hround
    rw [Downloads,sendData,h.value,List.map_singleton,List.singleton_inj,Prod.mk.injEq]
    exact and_iff_right rfl

theorem not_transparent_serializeData (h : Connected s clientId client) (data : QByteArray) :
    ¬Uploads s clientId client (SlipDataProcessor.serializeData data) ∧
      ¬Downloads s clientId client (SlipDataProcessor.serializeData data) := by
  obtain ⟨hup,hdown⟩ := transparent_iff h (SlipDataProcessor.serializeData data)
  have hnot : ¬∃ text, SlipDataProcessor.serializeData data = QString.toUtf8 text := by
    rintro ⟨text,he⟩
    apply Utf8.c0_not_mem_encode text
    change SlipDataProcessor.ProtocolByteEnd ∈ QString.toUtf8 text
    rw [← he,SlipDataProcessor.serializeData_eq]
    simp
  exact ⟨fun h => hnot (hup.mp h),fun h => hnot (hdown.mp h)⟩

section Run

def oneClient : WebSocketServer where
  m_clientList := AList.insert ⟨1⟩ 7 ∅

theorem oneClient_connected : Connected oneClient ⟨1⟩ 7 := by
  refine ⟨(QHash.value_insert ∅ _ _ _).trans (if_pos rfl),fun id hid => ?_⟩
  by_contra hne
  have hvalue := (QHash.value_insert ∅ ⟨1⟩ id 7).trans (if_neg hne)
  rw [QHash.value_empty] at hvalue
  exact absurd (hid.symm.trans hvalue) (by simp)

theorem transparent_iff_text :
    (Uploads oneClient ⟨1⟩ 7 [0x41] ↔ ∃ text, [0x41] = QString.toUtf8 text) ∧
      (Downloads oneClient ⟨1⟩ 7 [0x41] ↔ ∃ text, [0x41] = QString.toUtf8 text) :=
  transparent_iff oneClient_connected [0x41]

theorem frame_garbled :
    oneClient.onTextMessageReceived 7 (WebSocketConnection.sendData
        (SlipDataProcessor.serializeData (SlipDataProcessor.buildFrame ⟨1,[0x41]⟩))) =
      (⟨1⟩,[0x00,0x01,0x41,0xEF,0xBF,0xBD]) ∧
    ¬Uploads oneClient ⟨1⟩ 7
      (SlipDataProcessor.serializeData (SlipDataProcessor.buildFrame ⟨1,[0x41]⟩)) ∧
    ¬Downloads oneClient ⟨1⟩ 7
      (SlipDataProcessor.serializeData (SlipDataProcessor.buildFrame ⟨1,[0x41]⟩)) := by
  refine ⟨by decide +kernel,?_,?_⟩
  · rw [Uploads]
    decide +kernel
  · rw [Downloads]
    decide +kernel

end Run

end WebSocketServer

end RemoteProxy
