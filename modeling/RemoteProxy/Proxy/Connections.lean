import RemoteProxy.Proxy.Transports

namespace RemoteProxy

/-- Each socket of the table has one id, and it is not the null one. -/
structure Sound (h : QHash QUuid Socket) : Prop where
  notNull : h.value QUuid.null = none
  distinct : ∀ id id' socket, h.value id = some socket → h.value id' = some socket → id = id'

/-- What an event of a transport does to its table, and what it emits. -/
inductive Change (createUuid : QUuid) (h : QHash QUuid Socket) :
    QHash QUuid Socket → List Signal → Prop where
  | silent : Change createUuid h h []
  | connected {socket : Socket} {address : String} : (∀ id, h.value id ≠ some socket) →
      Change createUuid h (h.insert createUuid socket) [.clientConnected createUuid address]
  | disconnected {id : QUuid} {socket : Socket} : h.value id = some socket →
      Change createUuid h (h.remove id) [.clientDisconnected id]
  | data {id : QUuid} {data : QByteArray} : Change createUuid h h [.dataAvailable id data]

variable {h : QHash QUuid Socket} {id createUuid : QUuid} {socket : Socket}

theorem Sound.insert (hs : Sound h) (hnull : createUuid.isNull = false)
    (hnew : ∀ id, h.value id ≠ some socket) : Sound (h.insert createUuid socket) := by
  constructor
  · rw [QHash.value_insert,if_neg]
    · exact hs.notNull
    · rintro rfl
      simp [QUuid.isNull] at hnull
  · intro a b x ha hb
    rw [QHash.value_insert] at ha hb
    split at ha
    · next ea =>
      split at hb
      · next eb => rw [ea,eb]
      · cases ha
        exact absurd hb (hnew b)
    · split at hb
      · cases hb
        exact absurd ha (hnew a)
      · exact hs.distinct a b x ha hb

theorem Sound.remove (hs : Sound h) (id : QUuid) : Sound (h.remove id) := by
  constructor
  · rw [QHash.value_remove]
    split
    · rfl
    · exact hs.notNull
  · intro a b x ha hb
    rw [QHash.value_remove] at ha hb
    split at ha
    · cases ha
    · split at hb
      · cases hb
      · exact hs.distinct a b x ha hb

theorem Sound.key (hs : Sound h) (hv : h.value id = some socket) : h.key socket = id :=
  QHash.key_eq hv fun _ hv' => hs.distinct _ _ _ hv' hv

theorem Sound.value_notNull (hs : Sound h) (hv : h.value id = some socket) :
    id.isNull = false := by
  rw [QUuid.isNull,decide_eq_false_iff_not]
  rintro rfl
  rw [hs.notNull] at hv
  cases hv

theorem unlisted (hs : socket ∉ h.values) (id : QUuid) : h.value id ≠ some socket :=
  fun hv => hs ((QHash.mem_values _ _).mpr ⟨id,hv⟩)

theorem key_unknown (hnone : ∀ id, h.value id ≠ some socket) : h.key socket = QUuid.null := by
  rw [QHash.key]
  cases hf : h.entries.find? fun e => e.2 = socket with
  | none => rfl
  | some e =>
    have he : e.2 = socket := by simpa using List.find?_some hf
    have hv : h.value e.1 = some e.2 := AList.mem_lookup_iff.mpr (List.mem_of_find?_eq_some hf)
    exact absurd (he ▸ hv) (hnone e.1)

theorem remove_absent (hv : h.value id = none) : h.remove id = h :=
  AList.ext (List.kerase_of_notMem_keys (AList.lookup_eq_none.mp hv))

def Killed (atOnce : Bool) (id : QUuid) (h h' : QHash QUuid Socket) : Prop :=
  ∀ x, h'.value x = if atOnce = true ∧ x = id then none else h.value x

theorem Killed.unknown {atOnce : Bool} (hv : h.value id = none) : Killed atOnce id h h := by
  intro x
  split
  · next hx => rw [hx.2,hv]
  · rfl

theorem Killed.removed : Killed true id h (h.remove id) := by
  intro x
  simp only [QHash.value_remove,true_and]

theorem Sound.kill (hs : Sound h) (atOnce : Bool) (id : QUuid) {h' : QHash QUuid Socket}
    (hnone : h.value id = none → h' = h)
    (hsome : ∀ socket, h.value id = some socket →
      h' = if atOnce then h.remove (h.key socket) else h) :
    Sound h' ∧ Killed atOnce id h h' := by
  cases hv : h.value id with
  | none =>
    rw [hnone hv]
    exact ⟨hs,.unknown hv⟩
  | some socket =>
    rw [hsome socket hv,hs.key hv]
    cases atOnce with
    | false => exact ⟨hs,fun _ => rfl⟩
    | true => exact ⟨hs.remove id,.removed⟩

namespace TcpSocketServer

variable {s : TcpSocketServer} {qt6 : Bool} {now : Nat}

/-- Who has an id is still open, and encrypted where that is asked for. -/
structure Gated (s : TcpSocketServer) : Prop where
  sound : Sound s.m_clientList
  open_ : ∀ id socket, s.m_clientList.value id = some socket → socket ∈ s.m_server.m_clients
  encrypted : s.m_server.m_sslEnabled = true → ∀ id socket, s.m_clientList.value id = some socket →
    (s.m_server.socket socket).isEncrypted = true

theorem onSocketDisconnected_change (hs : Sound s.m_clientList) (createUuid : QUuid)
    (socket : Socket) : Change createUuid s.m_clientList
      (s.onSocketDisconnected socket).1.m_clientList (s.onSocketDisconnected socket).2 := by
  by_cases hknown : ∃ id, s.m_clientList.value id = some socket
  · obtain ⟨id,hv⟩ := hknown
    simp only [onSocketDisconnected,hs.key hv,hs.value_notNull hv,Bool.false_eq_true,if_false]
    exact .disconnected hv
  · have hkey := key_unknown (not_exists.mp hknown)
    simp only [onSocketDisconnected,hkey,QUuid.isNull,decide_true,if_true]
    exact .silent

theorem Gated.setSocket (h : Gated s) (socket : Socket) {c : SslClient}
    (hc : (s.m_server.socket socket).isEncrypted = true → c.isEncrypted = true) :
    Gated { s with m_server := s.m_server.setSocket socket c } := by
  refine ⟨h.sound,h.open_,fun hssl id x hv => ?_⟩
  have hx := h.encrypted hssl id x hv
  simp only [SslServer.setSocket,Function.update_apply]
  split
  · next e => exact hc (e ▸ hx)
  · exact hx

theorem Gated.insert (h : Gated s) (hnull : createUuid.isNull = false)
    (hnew : ∀ id, s.m_clientList.value id ≠ some socket) (hopen : socket ∈ s.m_server.m_clients)
    (hencrypted : s.m_server.m_sslEnabled = true → (s.m_server.socket socket).isEncrypted = true) :
    Gated (s.onSocketConnected createUuid socket).1 := by
  refine ⟨h.sound.insert hnull hnew,fun id x hv => ?_,fun hssl id x hv => ?_⟩
  · simp only [onSocketConnected,QHash.value_insert] at hv
    split at hv
    · cases hv
      exact hopen
    · exact h.open_ id x hv
  · simp only [onSocketConnected,QHash.value_insert] at hv
    split at hv
    · cases hv
      exact hencrypted hssl
    · exact h.encrypted hssl id x hv

theorem Gated.incoming (h : Gated s) (now : Nat) (hnew : socket ∉ s.m_server.m_clients) (address : String) :
    Gated { s with m_server := s.m_server.incomingConnection now socket address } := by
  refine ⟨h.sound,fun id x hv => List.mem_append_left _ (h.open_ id x hv),fun hssl id x hv => ?_⟩
  have hne : x ≠ socket := by
    rintro rfl
    exact hnew (h.open_ id x hv)
  simp only [SslServer.incomingConnection,SslServer.setSocket,Function.update_of_ne hne]
  exact h.encrypted hssl id x hv

theorem Gated.tells (h : Gated s) (hv : s.m_clientList.value id = some socket) (qt6 : Bool) :
    s.m_server.tellsDisconnected qt6 socket = true := by
  rw [SslServer.tellsDisconnected]
  split
  · next hssl => rw [h.encrypted hssl id socket hv,Bool.or_true]
  · rfl

theorem Gated.hears (h : Gated s) (hv : s.m_clientList.value id = some socket) :
    s.m_server.tellsData socket = true := by
  rw [SslServer.tellsData]
  cases hssl : s.m_server.m_sslEnabled with
  | false => rfl
  | true => rw [h.encrypted hssl id socket hv]; rfl

theorem Gated.disconnected_value (h : Gated s) (qt6 : Bool) (socket : Socket) (x : QUuid) :
    (s.disconnected qt6 socket).1.m_clientList.value x =
      if s.m_clientList.value x = some socket then none else s.m_clientList.value x := by
  by_cases hknown : ∃ id, s.m_clientList.value id = some socket
  · obtain ⟨id,hv⟩ := hknown
    simp only [TcpSocketServer.disconnected,h.tells hv,if_true,onSocketDisconnected,h.sound.key hv,
      h.sound.value_notNull hv,Bool.false_eq_true,if_false,QHash.value_remove]
    rcases eq_or_ne x id with rfl | hne
    · rw [if_pos rfl,if_pos hv]
    · rw [if_neg hne,if_neg fun hx => hne (h.sound.distinct _ _ _ hx hv)]
  · have hnone := not_exists.mp hknown
    have hsame : (s.onSocketDisconnected socket).1 = s := by
      simp [onSocketDisconnected,key_unknown hnone,QUuid.isNull]
    rw [if_neg (hnone x)]
    simp only [TcpSocketServer.disconnected]
    split
    · rw [hsame]
    · rfl

theorem disconnected_server (qt6 : Bool) (s : TcpSocketServer) (socket : Socket) :
    (s.disconnected qt6 socket).1.m_server = s.m_server.removeAll socket := by
  have hsame : (s.onSocketDisconnected socket).1.m_server = s.m_server := by
    simp only [onSocketDisconnected]
    split
    · rfl
    · rfl
  simp only [TcpSocketServer.disconnected]
  split
  · rw [hsame]
  · rfl

theorem Gated.disconnected (h : Gated s) (qt6 : Bool) (socket : Socket) :
    Gated (s.disconnected qt6 socket).1 := by
  have hold : ∀ {x y}, (s.disconnected qt6 socket).1.m_clientList.value x = some y →
      s.m_clientList.value x = some y ∧ y ≠ socket := by
    intro x y hv
    rw [h.disconnected_value] at hv
    split at hv
    · cases hv
    · next hne =>
      refine ⟨hv,?_⟩
      rintro rfl
      exact hne hv
  refine ⟨⟨?_,fun a b x ha hb => h.sound.distinct a b x (hold ha).1 (hold hb).1⟩,?_,?_⟩
  · rw [h.disconnected_value,h.sound.notNull]
    simp
  · intro x y hv
    rw [disconnected_server]
    exact List.mem_filter.mpr ⟨h.open_ x y (hold hv).1,by simpa using (hold hv).2⟩
  · intro hssl x y hv
    rw [disconnected_server] at hssl ⊢
    exact h.encrypted hssl x y (hold hv).1

theorem Gated.disconnected_change (h : Gated s) (qt6 : Bool) (createUuid : QUuid)
    (socket : Socket) : Change createUuid s.m_clientList
      (s.disconnected qt6 socket).1.m_clientList (s.disconnected qt6 socket).2 := by
  simp only [TcpSocketServer.disconnected]
  split
  · exact onSocketDisconnected_change h.sound createUuid socket
  · exact .silent

theorem onDataAvailable_change (s : TcpSocketServer) (createUuid : QUuid) (socket : Socket)
    (data : QByteArray) :
    Change createUuid s.m_clientList s.m_clientList (s.onDataAvailable socket data) := by
  simp only [onDataAvailable]
  split
  · exact .silent
  · exact .data

theorem step_gated (qt6 : Bool) (now : Nat) (h : Gated s) (hnull : createUuid.isNull = false) {event : Event}
    (hp : s.Possible event) : Gated (s.step qt6 now createUuid event).1 ∧
      Change createUuid s.m_clientList (s.step qt6 now createUuid event).1.m_clientList
        (s.step qt6 now createUuid event).2 := by
  cases event with
  | incomingConnection socket address =>
    have hnone : ∀ id, s.m_clientList.value id ≠ some socket :=
      fun id hv => hp (h.open_ id socket hv)
    have hincoming := h.incoming now hp address
    simp only [step]
    split
    · exact ⟨hincoming,.silent⟩
    · next hplain =>
      refine ⟨hincoming.insert hnull hnone (List.mem_append_right _ (List.mem_singleton_self _))
        fun hssl => absurd hssl hplain,.connected hnone⟩
  | encrypted socket =>
    obtain ⟨hopen,hssl,hnot⟩ := hp
    have hnone : ∀ id, s.m_clientList.value id ≠ some socket := by
      intro id hv
      rw [h.encrypted hssl id socket hv] at hnot
      cases hnot
    have hset := h.setSocket socket (c := (s.m_server.socket socket).encrypted) fun _ => rfl
    refine ⟨hset.insert hnull hnone hopen fun _ => ?_,.connected hnone⟩
    simp only [SslServer.setSocket,Function.update_self]
    rfl
  | readyRead socket data =>
    simp only [step]
    refine ⟨h,?_⟩
    split
    · exact onDataAvailable_change s createUuid socket data
    · exact .silent
  | disconnected socket =>
    exact ⟨h.disconnected qt6 socket,h.disconnected_change qt6 createUuid socket⟩
  | timeout socket =>
    refine ⟨h.setSocket socket fun he => ?_,.silent⟩
    simp only [SslClient.timeout]
    split
    · exact he
    · exact he
  | errorOccurred socket => exact ⟨h.setSocket socket fun he => he,.silent⟩

def kill (qt6 atOnce : Bool) (s : TcpSocketServer) (clientId : QUuid) : TcpSocketServer :=
  match s.killClientConnection clientId with
  | (s,none) => s
  | (s,some client) => if atOnce then (s.disconnected qt6 client).1 else s

theorem Gated.kill (h : Gated s) (qt6 atOnce : Bool) (id : QUuid) :
    Gated (s.kill qt6 atOnce id) ∧
      Killed atOnce id s.m_clientList (s.kill qt6 atOnce id).m_clientList := by
  cases hv : s.m_clientList.value id with
  | none =>
    simp only [TcpSocketServer.kill,killClientConnection,hv]
    exact ⟨h,.unknown hv⟩
  | some client =>
    simp only [TcpSocketServer.kill,killClientConnection,hv]
    have hset := h.setSocket client (c := (s.m_server.socket client).close) fun he => he
    cases atOnce with
    | false => exact ⟨hset,fun _ => rfl⟩
    | true =>
      refine ⟨hset.disconnected qt6 client,fun x => ?_⟩
      rw [if_pos rfl,hset.disconnected_value]
      rcases eq_or_ne x id with rfl | hne
      · rw [if_pos hv,if_pos ⟨rfl,rfl⟩]
      · rw [if_neg fun hx => hne (h.sound.distinct _ _ _ hx hv),if_neg fun hx => hne hx.2]

end TcpSocketServer

namespace WebSocketServer

variable {s : WebSocketServer}

theorem step_sound (hs : Sound s.m_clientList) (hnull : createUuid.isNull = false) {event : Event}
    (hp : s.Possible event) : Sound (s.step createUuid event).1.m_clientList ∧
      Change createUuid s.m_clientList (s.step createUuid event).1.m_clientList
        (s.step createUuid event).2 := by
  cases event with
  | newConnection client =>
    simp only [step,onClientConnected]
    split
    · exact ⟨hs,.silent⟩
    · next socket version address =>
      split
      · exact ⟨hs,.silent⟩
      · exact ⟨hs.insert hnull (unlisted hp),.connected (unlisted hp)⟩
  | textMessageReceived client message => exact ⟨hs,.data⟩
  | binaryMessageReceived client data => exact ⟨hs,.silent⟩
  | disconnected client =>
    obtain ⟨id,hv⟩ := (QHash.mem_values _ _).mp hp
    simp only [step,onClientDisconnected,hs.key hv]
    exact ⟨hs.remove id,.disconnected hv⟩
  | error client => exact ⟨hs,.silent⟩

def kill (atOnce : Bool) (s : WebSocketServer) (clientId : QUuid) : WebSocketServer :=
  match s.killClientConnection clientId with
  | none => s
  | some client => if atOnce then (s.onClientDisconnected client).1 else s

theorem kill_sound (hs : Sound s.m_clientList) (atOnce : Bool) (id : QUuid) :
    Sound (s.kill atOnce id).m_clientList ∧
      Killed atOnce id s.m_clientList (s.kill atOnce id).m_clientList := by
  refine hs.kill atOnce id (fun hv => ?_) fun socket hv => ?_
  · simp only [kill,killClientConnection,hv]
  · simp only [kill,killClientConnection,hv]
    split
    · rfl
    · rfl

end WebSocketServer

namespace UnixSocketServer

variable {s : UnixSocketServer}

theorem step_sound (hs : Sound s.m_clientList) (hnull : createUuid.isNull = false) {event : Event}
    (hp : s.Possible event) : Sound (s.step createUuid event).1.m_clientList ∧
      Change createUuid s.m_clientList (s.step createUuid event).1.m_clientList
        (s.step createUuid event).2 := by
  cases event with
  | newConnection client =>
    exact ⟨hs.insert hnull (unlisted hp),.connected (unlisted hp)⟩
  | readyRead client data => exact ⟨hs,.data⟩
  | disconnected client =>
    by_cases hknown : ∃ id, s.m_clientList.value id = some client
    · obtain ⟨id,hv⟩ := hknown
      simp only [step,UnixSocketServer.disconnected,hs.key hv,QHash.contains,hv,Option.isSome_some,
        if_true]
      exact ⟨hs.remove id,.disconnected hv⟩
    · have hkey := key_unknown (not_exists.mp hknown)
      simp only [step,UnixSocketServer.disconnected,hkey,QHash.contains,hs.notNull,
        Option.isSome_none,Bool.false_eq_true,if_false,remove_absent hs.notNull]
      exact ⟨hs,.silent⟩

def kill (atOnce : Bool) (s : UnixSocketServer) (clientId : QUuid) : UnixSocketServer :=
  match s.killClientConnection clientId with
  | none => s
  | some client => if atOnce then (s.disconnected client).1 else s

theorem kill_sound (hs : Sound s.m_clientList) (atOnce : Bool) (id : QUuid) :
    Sound (s.kill atOnce id).m_clientList ∧
      Killed atOnce id s.m_clientList (s.kill atOnce id).m_clientList := by
  refine hs.kill atOnce id (fun hv => ?_) fun socket hv => ?_
  · simp only [kill,killClientConnection,hv]
  · simp only [kill,killClientConnection,hv]
    split
    · rfl
    · rfl

end UnixSocketServer

end RemoteProxy
