import RemoteProxy.Library.Handshake
import RemoteProxy.Library.JsonRpcClient
import RemoteProxy.Qt.Json

namespace RemoteProxy

open JsonPackets JsonRpcClient

namespace Handshake

variable {S : Type}

/-- The laws of a session for single packets, where `Alike` leaves out what no packet depends on. -/
structure Talks (x : Receiver S) (handle : QByteArray → S → S) (Alike : S → S → Prop)
    (hello register : CompactObject) (Greeting Registering Sound : S → Prop) : Prop where
  buffer : ∀ s chunk, x.buffer (x.json s chunk) = (processData record (x.buffer s) chunk []).1
  json : ∀ s chunk, ∃ t, Alike s t ∧
    Alike ((packets (x.buffer s) chunk).foldl (fun s p => handle p s) t) (x.json s chunk)
  ready_alike : ∀ s t, Alike s t → x.ready t = x.ready s
  requested_alike : ∀ s t, Alike s t → (x.requested t ↔ x.requested s)
  greeting_alike : ∀ s t, Alike s t → Greeting s → Greeting t
  registering_alike : ∀ s t, Alike s t → Registering s → Registering t
  sound_alike : ∀ s t, Alike s t → Sound s → Sound t
  greeting : ∀ s, Greeting s → x.ready s = false ∧ ¬x.requested s
  registering : ∀ s, Registering s → x.ready s = false
  hello_taken : ∀ s p, Greeting s → PacketOf p hello → Registering (handle p s)
  register_taken : ∀ s p, Registering s → PacketOf p register → x.ready (handle p s) = true
  fragment : ∀ s p, Fragment hello p ∨ Fragment register p →
    x.ready (handle p s) = x.ready s ∧ (x.requested (handle p s) → x.requested s)
  sound : ∀ s p, Sound s → Sound (handle p s)
  sound_direct : ∀ s chunk, Sound s → Sound (x.direct s chunk)
  stays : ∀ s chunk, Sound s → x.ready s = true → x.ready (x.direct s chunk) = true

theorem Talks.lawful {x : Receiver S} {handle : QByteArray → S → S} {Alike : S → S → Prop}
    {hello register : CompactObject} {Greeting Registering Sound : S → Prop}
    (h : Talks x handle Alike hello register Greeting Registering Sound) :
    Lawful x hello register Greeting Registering Sound where
  buffer := h.buffer
  greeting := h.greeting
  registering := h.registering
  sound_direct := h.sound_direct
  stays := h.stays
  greeting_idle := by
    intro s chunk hs hp
    obtain ⟨t,hst,ht⟩ := h.json s chunk
    rw [hp] at ht
    exact h.greeting_alike _ _ ht (h.greeting_alike _ _ hst hs)
  registering_idle := by
    intro s chunk hs hp
    obtain ⟨t,hst,ht⟩ := h.json s chunk
    rw [hp] at ht
    exact h.registering_alike _ _ ht (h.registering_alike _ _ hst hs)
  hello_taken := by
    intro s chunk p hs hp hpacket
    obtain ⟨t,hst,ht⟩ := h.json s chunk
    rw [hp] at ht
    exact h.registering_alike _ _ ht
      (h.hello_taken t p (h.greeting_alike _ _ hst hs) hpacket)
  register_taken := by
    intro s chunk p hs hp hpacket
    obtain ⟨t,hst,ht⟩ := h.json s chunk
    rw [hp] at ht
    rw [h.ready_alike _ _ ht]
    exact h.register_taken t p (h.registering_alike _ _ hst hs) hpacket
  fragments := by
    intro s chunk hall
    obtain ⟨t,hst,ht⟩ := h.json s chunk
    have hfold : ∀ (ps : List QByteArray) (t : S),
        (∀ p ∈ ps, Fragment hello p ∨ Fragment register p) →
        x.ready (ps.foldl (fun s p => handle p s) t) = x.ready t ∧
          (x.requested (ps.foldl (fun s p => handle p s) t) → x.requested t) := by
      intro ps
      induction ps with
      | nil => exact fun t _ => ⟨rfl,id⟩
      | cons p ps ih =>
        intro t hall
        obtain ⟨h1,h2⟩ := h.fragment t p (hall p (List.mem_cons_self ..))
        obtain ⟨h3,h4⟩ := ih (handle p t) fun q hq => hall q (List.mem_cons_of_mem _ hq)
        exact ⟨h3.trans h1,fun hr => h2 (h4 hr)⟩
    obtain ⟨h1,h2⟩ := hfold _ t hall
    refine ⟨?_,fun hr => ?_⟩
    · rw [h.ready_alike _ _ ht,h1,h.ready_alike _ _ hst]
    · exact (h.requested_alike _ _ hst).mp (h2 ((h.requested_alike _ _ ht).mp hr))
  sound_json := by
    intro s chunk hs
    obtain ⟨t,hst,ht⟩ := h.json s chunk
    have hfold : ∀ (ps : List QByteArray) (t : S), Sound t →
        Sound (ps.foldl (fun s p => handle p s) t) := by
      intro ps
      induction ps with
      | nil => exact fun t ht => ht
      | cons p ps ih => exact fun t ht => ih _ (h.sound t p ht)
    exact h.sound_alike _ _ ht (hfold _ t (h.sound_alike _ _ hst hs))

end Handshake

open Handshake

/-- A response to a call with id 0 that reports success, and what Qt makes of its text: it reads the
whole object, with any line breaks around it, and does not take a part of it for such a response. -/
structure Response (env : Qt) where
  object : CompactObject
  dataMap : QVariantMap
  fromJson : ∀ p, PacketOf p object → env.fromJson p = .ok (.map dataMap)
  echoed : env.toInt (dataMap.value "id") = some 0
  success : env.toString (dataMap.value "status") = "success"
  fragment : ∀ p, Fragment object p → ∀ jsonDoc, env.fromJson p = .ok jsonDoc →
    env.toString (jsonDoc.toMap.value "status") ≠ "success"

theorem Response.commandIdOf {env : Qt} (response : Response env) :
    commandIdOf env response.dataMap = 0 := by
  rw [JsonRpcClient.commandIdOf,response.echoed,Option.getD_some]

def Response.onDocuments {documents : List QVariantMap} (object : CompactObject)
    (dataMap : QVariantMap)
    (hfind : documents.find? (fun m => QJsonDocument.toJson (.map m) == object.text) = some dataMap)
    (hparts : ∀ m ∈ documents, QJsonDocument.toJson (.map m) <:+: object.text →
      QJsonDocument.toJson (.map m) = object.text)
    (hid : (Qt.onDocuments documents).toInt (dataMap.value "id") = some 0)
    (hstatus : (Qt.onDocuments documents).toString (dataMap.value "status") = "success") :
    Response (Qt.onDocuments documents) :=
  have hfilter (w : QByteArray) (i j : Nat) (hw : newline ∉ w) :
      (List.replicate i newline ++ w ++ List.replicate j newline).filter (· != newline) = w := by
    have hall : w.filter (fun x => x != newline) = w :=
      List.filter_eq_self.mpr fun x hx => bne_iff_ne.mpr fun he => hw (he ▸ hx)
    have hreplicate (n : Nat) : (List.replicate n newline).filter (fun x => x != newline) = [] := by
      rw [List.filter_replicate]
      rfl
    rw [List.filter_append,List.filter_append,hreplicate,hreplicate,hall]
    simp
  have hread (w : QByteArray) (i j : Nat) (hw : newline ∉ w) :
      (Qt.onDocuments documents).fromJson
          (List.replicate i newline ++ w ++ List.replicate j newline) =
        match documents.find? fun m => QJsonDocument.toJson (.map m) == w with
        | some m => .ok (.map m)
        | none => .error "illegal value" := by
    have hw' : (List.replicate i newline ++ w ++ List.replicate j newline).filter (· != 0x0A) = w :=
      hfilter w i j hw
    simp only [Qt.onDocuments]
    rewrite [hw']
    rfl
  { object := object
    dataMap := dataMap
    fromJson := by
      rintro p ⟨i,j,rfl⟩
      rw [hread _ i j object.newline_not_mem,hfind]
    echoed := hid
    success := hstatus
    fragment := by
      rintro p ⟨i,j,w,rfl,hin,hne⟩ jsonDoc hj
      rw [hread w i j fun hm => object.newline_not_mem (hin.subset hm)] at hj
      cases hf : documents.find? fun m => QJsonDocument.toJson (.map m) == w with
      | none =>
        rw [hf] at hj
        exact absurd hj (by simp)
      | some m =>
        have he : QJsonDocument.toJson (.map m) = w := by simpa using List.find?_some hf
        have htext := hparts m (List.mem_of_find?_eq_some hf) (he ▸ hin)
        exact absurd (he.symm.trans htext) hne }

namespace JsonRpcClient

variable {env : Qt} {c : JsonRpcClient} {method : String}

def Sent (method : String) (c : JsonRpcClient) : Prop :=
  ∃ reply < c.created, (c.reply reply).m_method = method

instance : DecidablePred (Sent method) := fun c =>
  inferInstanceAs (Decidable (∃ reply < c.created, (c.reply reply).m_method = method))

structure OnlyZero (c : JsonRpcClient) : Prop where
  commandId : c.m_commandId = 0
  others : ∀ k ≠ 0, c.m_replies.value k = none

theorem setReply_m_method (c : JsonRpcClient) (reply other : Nat) (dataMap : QVariantMap) :
    ((c.setReply reply ((c.reply reply).setResponse dataMap)).reply other).m_method =
      (c.reply other).m_method := by
  simp only [setReply]
  by_cases h : other = reply
  · rw [h,Function.update_self]
    rfl
  · rw [Function.update_of_ne h]

theorem sent_finishReply {reply : Nat} {dataMap : QVariantMap}
    {commandId : Int} :
    Sent method (c.finishReply reply dataMap commandId) ↔ Sent method c := by
  have hmethod (other : Nat) :
      ((c.finishReply reply dataMap commandId).reply other).m_method =
        (c.reply other).m_method := setReply_m_method c reply other dataMap
  exact exists_congr fun other => and_congr_right fun _ => by rw [hmethod]

theorem finishReply_m_response (c : JsonRpcClient) (reply : Nat) (dataMap : QVariantMap)
    (commandId : Int) :
    ((c.finishReply reply dataMap commandId).reply reply).m_response = dataMap := by
  change (Function.update c.reply reply ((c.reply reply).setResponse dataMap)
    reply).m_response = dataMap
  rw [Function.update_self]
  rfl

theorem handle_response {S : Type} (owner : Owner S) (response : Response env) {p : QByteArray}
    (hp : PacketOf p response.object) {s : S} {reply : Nat}
    (hr : (owner.client s).m_replies.value 0 = some reply) :
    handle env owner p s = owner.slot (.finished reply)
      (owner.setClient s ((owner.client s).finishReply reply response.dataMap 0)) := by
  have hpacket : processDataPacket env (owner.client s) p =
      ((owner.client s).finishReply reply response.dataMap 0,some (.finished reply)) := by
    rw [processDataPacket,response.fromJson p hp]
    simp only [QVariant.toMap,response.commandIdOf,hr]
  rw [handle,hpacket]

theorem OnlyZero.remove (h : OnlyZero c) (commandId : Int) :
    ∀ k ≠ 0, (c.m_replies.remove commandId).value k = none := by
  intro k hk
  rw [QHash.value_remove]
  split
  · rfl
  · exact h.others k hk

theorem OnlyZero.finishReply (h : OnlyZero c) (reply : Nat) (dataMap : QVariantMap)
    (commandId : Int) : OnlyZero (c.finishReply reply dataMap commandId) :=
  ⟨h.commandId,h.remove commandId⟩

theorem OnlyZero.processDataPacket (env : Qt) (h : OnlyZero c) (data : QByteArray) :
    OnlyZero (processDataPacket env c data).1 := by
  rcases processDataPacket_cases env c data with he | ⟨jsonDoc,-,⟨reply,-,he⟩ | ⟨-,he⟩⟩
  · rw [he]
    exact h
  · rw [he]
    exact h.finishReply _ _ _
  · rw [he]
    exact ⟨h.commandId,h.remove _⟩

theorem OnlyZero.awaited (h : OnlyZero c) {commandId : Int} {reply : Nat}
    (hr : c.m_replies.value commandId = some reply) : commandId = 0 := by
  by_contra hne
  rw [h.others commandId hne] at hr
  exact absurd hr (by simp)

theorem OnlyZero.call (env : Qt) (h : OnlyZero c) (nameSpace method : String) (params : QVariantMap)
    (slipEnabled : Bool) :
    OnlyZero (JsonRpcClient.call env nameSpace method params slipEnabled c).client ∧
      (JsonRpcClient.call env nameSpace method params slipEnabled c).client.m_replies.value 0 =
        some c.created := by
  have hinsert (k : Int) :
      (JsonRpcClient.call env nameSpace method params slipEnabled c).client.m_replies.value k =
        if k = c.m_commandId then some c.created else c.m_replies.value k :=
    QHash.value_insert _ _ _ _
  refine ⟨⟨h.commandId,fun k hk => ?_⟩,?_⟩
  · rw [hinsert,h.commandId,if_neg hk]
    exact h.others k hk
  · rw [hinsert,h.commandId,if_pos rfl]

end JsonRpcClient

def helloResponse : QVariantMap :=
  [("id",.number 0 0),("params",.map [("apiVersion",.string "0.3"),("name",.string "proxy"),
    ("server",.string "nymea-remoteproxy"),("version",.string "1.0")]),("status",.string "success")]

theorem helloResponse_compact :
    (QJsonDocument.toJson (.map helloResponse)).head? = some opening ∧
      (QJsonDocument.toJson (.map helloResponse)).getLast? = some closing ∧
      newline ∉ QJsonDocument.toJson (.map helloResponse) := by
  decide +kernel

end RemoteProxy
