import RemoteProxy.Foundation.Sessions
import RemoteProxy.Proxy.Registry

namespace RemoteProxy.TunnelProxyServer

open Relation Sessions

variable {env : Environment} {dying : List ObjectId} {s s' : TunnelProxyServer}

abbrev ClientMark := UInt16 × Mark String QUuid

def addressIn (params : QVariantMap) : UInt16 :=
  match params.value "socketAddress" with
  | .number mantissa _ => UInt16.ofNat mantissa.toNat
  | _ => 0

def uuidIn (params : QVariantMap) : String :=
  match params.value "clientUuid" with
  | .string u => u
  | _ => ""

def markOf : Message → Option ClientMark
  | .notification _ nameSpace method params =>
    if nameSpace = "TunnelProxy" ∧ method = "ClientConnected" then
      some (addressIn params,.opened (uuidIn params))
    else if nameSpace = "TunnelProxy" ∧ method = "ClientDisconnected" then
      some (addressIn params,.closed)
    else none
  | .tunnelData clientUuid socketAddress _ => some (socketAddress,.used clientUuid)
  | _ => none

def messageTo (o : ObjectId) : Output → Option Message
  | .sent clientId message _ => if clientId = o then some message else none
  | _ => none

def messagesTo (s : TunnelProxyServer) (o : ObjectId) : List Message :=
  s.output.filterMap (messageTo o)

def marksIn (output : List Output) (o : ObjectId) : List ClientMark :=
  (output.filterMap (messageTo o)).filterMap markOf

def marksTo (s : TunnelProxyServer) (o : ObjectId) : List ClientMark := marksIn s.output o

theorem addressIn_ofNat (params : QVariantMap) (a : UInt16)
    (h : params.value "socketAddress" = .ofNat a.toNat) : addressIn params = a := by
  simp [addressIn,h,QVariant.ofNat]

theorem marksIn_append (output new : List Output) (o : ObjectId) :
    marksIn (output ++ new) o = marksIn output o ++ marksIn new o := by
  simp [marksIn]

theorem marksIn_sent (clientId o : ObjectId) (message : Message) (data : QByteArray) :
    marksIn [.sent clientId message data] o =
      if clientId = o then (markOf message).toList else [] := by
  by_cases h : clientId = o
  · cases hm : markOf message with
    | none => simp [marksIn,messageTo,h,hm]
    | some mark => simp [marksIn,messageTo,h,hm]
  · simp [marksIn,messageTo,h]

theorem marksIn_quiet {new : List Output} (h : ∀ x ∈ new, Output.quiet x) (o : ObjectId) :
    marksIn new o = [] := by
  induction new with
  | nil => rfl
  | cons x new ih =>
    have hnew := ih fun y hy => h y (List.mem_cons_of_mem x hy)
    have hx := h x (List.mem_cons_self ..)
    rw [← List.singleton_append,marksIn_append,hnew,List.append_nil]
    cases x with
    | sent clientId message data =>
      rw [marksIn_sent]
      cases message with
      | notification => exact absurd hx id
      | tunnelData => exact absurd hx id
      | response => exact ite_self []
      | errorResponse => exact ite_self []
      | payload => exact ite_self []
    | killed => rfl
    | assertFailed => rfl

/-- What the servers have been told, `marks`, against the tables: a client is shown to its server
under its address for as long as it is attached. -/
structure Streams (env : Environment) (dying : List ObjectId) (s : TunnelProxyServer)
    (marks : ObjectId → List ClientMark) : Prop where
  wellBracketed : ∀ o, WellBracketed env.uuidToString (marks o)
  silent : ∀ o, o ∉ s.clientIds ∨ ¬s.isServer o → marks o = []
  shown : ∀ server a c, serves dying s server →
    (s.serverConnection server).getClientConnection a = some c →
      table (marks server) a = some (env.uuidToString (s.client c).m_uuid)
  exact : ∀ server a u, s.live server → s.isServer server → table (marks server) a = some u →
    ∃ c, (s.serverConnection server).getClientConnection a = some c
  addressed : ∀ c server, (s.clientConnection c).m_serverConnection = some server →
    (s.serverConnection server).getClientConnection (s.clientConnection c).m_socketAddress = some c

section Steps

variable {marks : ObjectId → List ClientMark}

theorem Streams.congr (hs : SameRegistry s s') (h : Streams env dying s marks) :
    Streams env dying s' marks := by
  refine ⟨h.wellBracketed,?_,?_,?_,?_⟩
  · simpa only [hs.clientIds,hs.isServer_iff] using h.silent
  · simpa only [hs.serves_iff,hs.serverConnection,hs.uuid] using h.shown
  · simpa only [hs.live_iff,hs.isServer_iff,hs.serverConnection] using h.exact
  · simpa only [hs.clientConnection,hs.serverConnection] using h.addressed

theorem Streams.leave (h : Streams env dying s marks) {o : ObjectId} (hlive : s.live o)
    (serverConnections clientConnections : QHash QUuid ObjectId) :
    Streams env (o :: dying)
      { s.take o with
        m_tunnelProxyServerConnections := serverConnections
        m_tunnelProxyClientConnections := clientConnections } marks := by
  refine ⟨h.wellBracketed,h.silent,?_,?_,h.addressed⟩
  · intro server a c hserves hc
    refine h.shown server a c ⟨hserves.1,?_⟩ hc
    rcases hserves.2 with hl | hm
    · exact .inl ((live_take s server o).mp hl).2
    · rcases List.mem_cons.mp hm with rfl | hm
      · exact .inl hlive
      · exact .inr hm
  · intro server a u hl hserver ht
    exact h.exact server a u ((live_take s server o).mp hl).2 hserver ht

theorem Streams.finish {o : ObjectId} (h : Streams env (o :: dying) s marks) :
    Streams env dying (JsonRpcServer.unregisterClient s o) marks := by
  have heq : JsonRpcServer.unregisterClient s o =
      { s with m_clients := (JsonRpcServer.unregisterClient s o).m_clients } := by
    unfold JsonRpcServer.unregisterClient
    split
    · rfl
    · rfl
  rw [heq]
  refine ⟨h.wellBracketed,h.silent,?_,h.exact,h.addressed⟩
  intro server a c hserves hc
  exact h.shown server a c ⟨hserves.1,hserves.2.imp_right (List.mem_cons_of_mem o)⟩ hc

theorem Streams.connected (h : Streams env dying s marks) (hc : Consistent dying s) {id : QUuid}
    (hid : id ∉ s.clientIds) (address : String) :
    Streams env dying (onClientConnected env s id address) marks := by
  have hfresh : ∀ x, s.live x ∨ x ∈ dying → x ≠ id := by
    rintro x hx rfl
    exact hid (hc.announced x hx)
  rw [onClientConnected_eq env hc hid]
  generalize hs' : ({ s with
        clientIds := id :: s.clientIds
        client := Function.update s.client id
          (TunnelProxyClient.new address env.inactiveTimeout s.now)
        m_proxyClients := s.m_proxyClients.insert id id
        m_clients := s.m_clients ++ [id] } : TunnelProxyServer) = s'
  have hold : ∀ {x}, x ≠ id → s'.client x = s.client x := by
    subst hs'
    intro x hx
    simp [hx]
  have hne : ∀ {x}, s'.isServer x → x ≠ id := by
    rintro x hx rfl
    subst hs'
    simp [isServer,TunnelProxyClient.new] at hx
  have hserver : ∀ {x}, s'.isServer x → s.isServer x := by
    intro x hx
    have := hx
    rwa [isServer,hold (hne hx)] at this
  have hl : ∀ {x}, s'.live x → x ≠ id → s.live x := by
    subst hs'
    intro x hx hxid
    simpa [live,QHash.value_insert,hxid] using hx
  have hserves : ∀ {x}, serves dying s' x → serves dying s x :=
    fun hx => ⟨hserver hx.1,hx.2.imp_left fun hlx => hl hlx (hne hx.1)⟩
  have hsc : s'.serverConnection = s.serverConnection := by subst hs'; rfl
  have hcc : s'.clientConnection = s.clientConnection := by subst hs'; rfl
  have hids : s'.clientIds = id :: s.clientIds := by subst hs'; rfl
  refine ⟨h.wellBracketed,?_,?_,?_,?_⟩
  · intro o ho
    rcases eq_or_ne o id with rfl | hoid
    · exact h.silent o (.inl hid)
    · apply h.silent o
      rw [hids,List.mem_cons,not_or,isServer,hold hoid] at ho
      exact ho.imp_left And.right
  · intro server a c hs hv
    rw [hsc] at hv
    obtain ⟨hcl,-⟩ := hc.addressed server a c (hserves hs) hv
    rw [hold (hfresh c (.inl hcl))]
    exact h.shown server a c (hserves hs) hv
  · intro server a u hls hs ht
    rw [hsc]
    exact h.exact server a u (hl hls (hne hs)) (hserver hs) ht
  · rw [hsc,hcc]
    exact h.addressed

theorem Streams.serverAccepted (h : Streams env dying s marks) (hc : Consistent dying s)
    {o : ObjectId} (htype : (s.client o).m_type = .TypeNone) (uuid : QUuid) (name : String) :
    Streams env dying (s.acceptServer o uuid name) marks := by
  have he := acceptServer_entered s o uuid name
  have hsc := acceptServer_serverConnection s o uuid name
  have hcc := acceptServer_clientConnection s o uuid name
  generalize s.acceptServer o uuid name = s' at *
  have hmaps : ∀ a, (s'.serverConnection o).getClientConnection a = none := by
    intro a
    rw [hsc,Function.update_self]
    exact QHash.value_empty a
  have hmarks : marks o = [] := h.silent o (.inr (by simp [isServer,htype]))
  have hserver : ∀ {x}, s'.isServer x → x ≠ o → s.isServer x := by
    intro x hx hne
    have := hx
    rwa [isServer,he.others x hne] at this
  have hserves : ∀ {x}, serves dying s' x → x ≠ o → serves dying s x := by
    intro x hx hne
    exact ⟨hserver hx.1 hne,hx.2.imp_left (he.live_iff x).mp⟩
  refine ⟨h.wellBracketed,?_,?_,?_,?_⟩
  · intro x hx
    rw [he.clientIds] at hx
    rcases eq_or_ne x o with rfl | hne
    · exact hmarks
    · apply h.silent x
      rwa [isServer,he.others x hne] at hx
  · intro server a c hs hv
    rcases eq_or_ne server o with rfl | hne
    · rw [hmaps] at hv
      simp at hv
    · rw [hsc,Function.update_of_ne hne] at hv
      obtain ⟨-,hcl,-⟩ := hc.addressed server a c (hserves hs hne) hv
      rw [he.uuid_eq htype (.inr hcl)]
      exact h.shown server a c (hserves hs hne) hv
  · intro server a u hl hs ht
    rcases eq_or_ne server o with rfl | hne
    · rw [hmarks] at ht
      simp [table] at ht
    · rw [hsc,Function.update_of_ne hne]
      exact h.exact server a u ((he.live_iff server).mp hl) (hserver hs hne) ht
  · intro c server hto
    rw [hcc] at hto ⊢
    have hne : server ≠ o := by
      rintro rfl
      have := (hc.attached c server hto).2.2.1.1
      simp [isServer,htype] at this
    rw [hsc,Function.update_of_ne hne]
    exact h.addressed c server hto

theorem Streams.clientAccepted (h : Streams env dying s marks) (hc : Consistent dying s)
    {o : ObjectId} (htype : (s.client o).m_type = .TypeNone) (uuid : QUuid) (name : String)
    {server : ObjectId} (hslive : s.live server) (hsserver : s.isServer server)
    (hfree : (s.serverConnection server).getClientConnection
      (s.serverConnection server).getFreeAddress.2 = none) :
    Streams env dying (s.attachClient o uuid name server)
      (Function.update marks server (marks server ++
        [((s.serverConnection server).getFreeAddress.2,.opened (env.uuidToString uuid))])) := by
  have he := attachClient_entered (s := s) o uuid name server
  have hsc := attachClient_serverConnection (s := s) o uuid name server
  have hcc := attachClient_clientConnection (s := s) o uuid name server
  generalize s.attachClient o uuid name server = s' at *
  have hserver : ∀ x, s'.isServer x ↔ s.isServer x := by
    intro x
    simpa [isServer] using he.type_iff htype (by decide : ClientType.TypeServer ≠ .TypeNone) x
  have hserves : ∀ x, serves dying s' x ↔ serves dying s x := by
    intro x
    simp only [serves,he.live_iff,hserver]
  have hmap : ∀ a, (s'.serverConnection server).getClientConnection a =
      if a = (s.serverConnection server).getFreeAddress.2 then some o
      else (s.serverConnection server).getClientConnection a := by
    intro a
    rw [hsc,Function.update_self]
    exact TunnelProxyServerConnection.getClientConnection_register _ _ _ _ a
  have hother : ∀ {x}, x ≠ server → s'.serverConnection x = s.serverConnection x := by
    intro x hx
    rw [hsc,Function.update_of_ne hx]
  have hnone : table (marks server) (s.serverConnection server).getFreeAddress.2 = none := by
    refine Option.eq_none_iff_forall_ne_some.mpr fun u hu => ?_
    obtain ⟨c,hv⟩ := h.exact server _ u hslive hsserver hu
    rw [hfree] at hv
    simp at hv
  refine ⟨?_,?_,?_,?_,?_⟩
  · intro x
    rcases eq_or_ne x server with rfl | hx
    · rw [Function.update_self]
      exact (h.wellBracketed x).opened hnone _
    · rw [Function.update_of_ne hx]
      exact h.wellBracketed x
  · intro x hx
    rw [he.clientIds,hserver] at hx
    rw [Function.update_of_ne]
    · exact h.silent x hx
    · rintro rfl
      exact hx.elim (fun hx => hx (hc.announced x (.inl hslive))) (fun hx => hx hsserver)
  · intro x a c hs hv
    rcases eq_or_ne x server with rfl | hx
    · rw [Function.update_self,table_append]
      rw [hmap] at hv
      split at hv
      · next ha =>
        obtain rfl := Option.some.inj hv
        rw [if_pos ha,he.uuid]
        rfl
      · next ha =>
        rw [if_neg ha]
        obtain ⟨-,hcl,-⟩ := hc.addressed x a c ((hserves x).mp hs) hv
        rw [he.uuid_eq htype (.inr hcl)]
        exact h.shown x a c ((hserves x).mp hs) hv
    · rw [hother hx] at hv
      obtain ⟨-,hcl,-⟩ := hc.addressed x a c ((hserves x).mp hs) hv
      rw [Function.update_of_ne hx,he.uuid_eq htype (.inr hcl)]
      exact h.shown x a c ((hserves x).mp hs) hv
  · intro x a u hl hs ht
    rcases eq_or_ne x server with rfl | hx
    · rw [hmap]
      split
      · exact ⟨o,rfl⟩
      · next ha =>
        rw [Function.update_self,table_append,if_neg ha] at ht
        exact h.exact x a u hslive hsserver ht
    · rw [Function.update_of_ne hx] at ht
      rw [hother hx]
      exact h.exact x a u ((he.live_iff x).mp hl) ((hserver x).mp hs) ht
  · intro c x hto
    rw [hcc] at hto ⊢
    rcases eq_or_ne c o with rfl | hco
    · rw [Function.update_self] at hto ⊢
      have : x = server := (Option.some.inj hto).symm
      subst this
      rw [hmap]
      exact if_pos rfl
    · rw [Function.update_of_ne hco] at hto ⊢
      have hold := h.addressed c x hto
      rcases eq_or_ne x server with rfl | hx
      · rw [hmap,if_neg]
        · exact hold
        · intro ha
          rw [ha,hfree] at hold
          simp at hold
      · rw [hother hx]
        exact hold

theorem Streams.unregister (h : Streams env dying s marks) (hc : Consistent dying s)
    {server client : ObjectId} (hto : (s.clientConnection client).m_serverConnection = some server)
    {new : List ClientMark}
    (hnew : new = [] ∧ ¬s.live server ∨
      new = [((s.clientConnection client).m_socketAddress,.closed)]) :
    Streams env dying (s.unregisterClientConnection server client)
      (Function.update marks server (marks server ++ new)) := by
  obtain ⟨hcl,hcc,hserves,-⟩ := hc.attached client server hto
  have hmap : ∀ a, ((s.unregisterClientConnection server client).serverConnection
      server).getClientConnection a = if a = (s.clientConnection client).m_socketAddress then none
        else (s.serverConnection server).getClientConnection a := by
    intro a
    simp only [unregisterClientConnection,setClientConnection_serverConnection,
      setServerConnection_serverConnection,Function.update_self]
    exact TunnelProxyServerConnection.getClientConnection_unregister _ _ a
  have hother : ∀ {x}, x ≠ server →
      (s.unregisterClientConnection server client).serverConnection x = s.serverConnection x := by
    intro x hx
    simp [unregisterClientConnection,hx]
  have hconn : ∀ {x}, x ≠ client →
      (s.unregisterClientConnection server client).clientConnection x = s.clientConnection x := by
    intro x hx
    simp [unregisterClientConnection,hx]
  have hat := h.addressed client server hto
  have htable : ∀ {a}, a ≠ (s.clientConnection client).m_socketAddress →
      table (marks server ++ new) a = table (marks server) a := by
    intro a ha
    rcases hnew with ⟨rfl,-⟩ | rfl
    · rw [List.append_nil]
    · rw [table_append,if_neg ha]
  refine ⟨?_,?_,?_,?_,?_⟩
  · intro x
    rcases eq_or_ne x server with rfl | hx
    · rw [Function.update_self]
      rcases hnew with ⟨rfl,-⟩ | rfl
      · rw [List.append_nil]
        exact h.wellBracketed x
      · exact (h.wellBracketed x).closed (h.shown x _ client hserves hat)
    · rw [Function.update_of_ne hx]
      exact h.wellBracketed x
  · intro x hx
    rw [Function.update_of_ne]
    · exact h.silent x hx
    · rintro rfl
      exact hx.elim (fun hx => hx (hc.announced x hserves.2)) (fun hx => hx hserves.1)
  · intro x a c hs hv
    rcases eq_or_ne x server with rfl | hx
    · rw [hmap] at hv
      split at hv
      · simp at hv
      · next ha =>
        rw [Function.update_self,htable ha]
        exact h.shown x a c hs hv
    · rw [hother hx] at hv
      rw [Function.update_of_ne hx]
      exact h.shown x a c hs hv
  · intro x a u hl hs ht
    rcases eq_or_ne x server with rfl | hx
    · rw [Function.update_self] at ht
      rw [hmap]
      split
      · next ha =>
        rcases hnew with ⟨-,hn⟩ | rfl
        · exact absurd hl hn
        · rw [table_append,if_pos ha] at ht
          simp [after] at ht
      · next ha =>
        rw [htable ha] at ht
        exact h.exact x a u hl hs ht
    · rw [Function.update_of_ne hx] at ht
      rw [hother hx]
      exact h.exact x a u hl hs ht
  · intro c x hcx
    rcases eq_or_ne c client with rfl | hne
    · simp [unregisterClientConnection] at hcx
    · rw [hconn hne] at hcx ⊢
      have hold := h.addressed c x hcx
      rcases eq_or_ne x server with rfl | hx
      · rw [hmap,if_neg]
        · exact hold
        · intro ha
          rw [ha,hat] at hold
          exact hne (Option.some.inj hold).symm
      · rw [hother hx]
        exact hold

theorem Streams.tunnelled (h : Streams env dying s marks) (hc : Consistent dying s)
    {server client : ObjectId}
    (hto : (s.clientConnection client).m_serverConnection = some server) :
    Streams env dying s (Function.update marks server (marks server ++
      [((s.clientConnection client).m_socketAddress,.used (s.client client).m_uuid)])) := by
  obtain ⟨-,-,hserves,-⟩ := hc.attached client server hto
  have hat := h.shown server _ client hserves (h.addressed client server hto)
  have htable : ∀ a, table (marks server ++
      [((s.clientConnection client).m_socketAddress,.used (s.client client).m_uuid)]) a =
        table (marks server) a := by
    intro a
    rw [table_append]
    split
    · next ha => rw [ha]; rfl
    · rfl
  refine ⟨?_,?_,?_,?_,h.addressed⟩
  · intro x
    rcases eq_or_ne x server with rfl | hx
    · rw [Function.update_self]
      exact (h.wellBracketed x).used hat
    · rw [Function.update_of_ne hx]
      exact h.wellBracketed x
  · intro x hx
    rw [Function.update_of_ne]
    · exact h.silent x hx
    · rintro rfl
      exact hx.elim (fun hx => hx (hc.announced x hserves.2)) (fun hx => hx hserves.1)
  · intro x a c hs hv
    rcases eq_or_ne x server with rfl | hx
    · rw [Function.update_self,htable]
      exact h.shown x a c hs hv
    · rw [Function.update_of_ne hx]
      exact h.shown x a c hs hv
  · intro x a u hl hs ht
    rcases eq_or_ne x server with rfl | hx
    · rw [Function.update_self,htable] at ht
      exact h.exact x a u hl hs ht
    · rw [Function.update_of_ne hx] at ht
      exact h.exact x a u hl hs ht

end Steps

section Messages

theorem marksTo_sent {x : ObjectId} {message : Message} {data : QByteArray} {mark : ClientMark}
    (hout : s'.output = s.output ++ [.sent x message data]) (hm : markOf message = some mark) :
    marksTo s' = Function.update (marksTo s) x (marksTo s x ++ [mark]) := by
  funext o
  rw [marksTo,hout,marksIn_append,marksIn_sent,hm]
  rcases eq_or_ne o x with rfl | ho
  · rw [Function.update_self,if_pos rfl]
    rfl
  · rw [Function.update_of_ne ho,if_neg (Ne.symm ho),List.append_nil]
    rfl

theorem marksTo_quiet (h : Quiet s s') : marksTo s' = marksTo s := by
  funext o
  obtain ⟨new,hnew,hq⟩ := h.output
  rw [marksTo,hnew,marksIn_append,marksIn_quiet hq,List.append_nil]
  rfl

theorem marksTo_congr (h : s'.output = s.output) : marksTo s' = marksTo s := by
  funext o
  rw [marksTo,h]
  rfl

theorem markOf_connected (env : Environment) (s : TunnelProxyServer) (o : ObjectId) (id : Int32) :
    markOf (.notification id "TunnelProxy" "ClientConnected" (clientConnectedParams env s o)) =
      some ((s.clientConnection o).m_socketAddress,
        .opened (env.uuidToString (s.client o).m_uuid)) := by
  have ha : addressIn (clientConnectedParams env s o) = (s.clientConnection o).m_socketAddress :=
    addressIn_ofNat _ _ rfl
  have hu : uuidIn (clientConnectedParams env s o) = env.uuidToString (s.client o).m_uuid := rfl
  simp [markOf,ha,hu]

theorem markOf_disconnected (s : TunnelProxyServer) (o : ObjectId) (id : Int32) :
    markOf (.notification id "TunnelProxy" "ClientDisconnected" (clientDisconnectedParams s o)) =
      some ((s.clientConnection o).m_socketAddress,.closed) := by
  have ha : addressIn (clientDisconnectedParams s o) = (s.clientConnection o).m_socketAddress :=
    addressIn_ofNat _ _ rfl
  simp [markOf,ha]

end Messages

def freeAddress : Output → Bool
  | .assertFailed place _ => place != "TunnelProxyServerConnection"
  | _ => true

def FreeAddresses (s : TunnelProxyServer) : Prop := ∀ x ∈ s.output, freeAddress x = true

instance : DecidablePred FreeAddresses :=
  fun s => inferInstanceAs (Decidable (∀ x ∈ s.output, freeAddress x = true))

theorem micro_output {c c' : Config} (h : Consistent c.1 c.2) (hm : Micro env c c') :
    ∃ new, c'.2.output = c.2.output ++ new := by
  have hnone : ∀ {s s' : TunnelProxyServer}, s'.output = s.output →
      ∃ new, s'.output = s.output ++ new := fun hs => ⟨[],by rw [hs,List.append_nil]⟩
  cases hm with
  | quiet hq => exact ⟨_,hq.output.choose_spec.1⟩
  | connected hid => exact hnone (by rw [onClientConnected_eq env h hid])
  | serverAccepted =>
    apply hnone
    rw [acceptServer,enterAs_eq _ _ (by decide)]
    rfl
  | @clientAccepted _ s o server uuid _ name =>
    have hsent : ∃ x, (acceptClient env s o uuid name server).output =
        (s.attachClient o uuid name server).output ++ [x] := ⟨_,rfl⟩
    obtain ⟨x,hx⟩ := hsent
    exact ⟨_,by rw [hx,attachClient_output,List.append_assoc]⟩
  | tunnelled hlive hclient =>
    rcases tunnelToServer_eq h hlive hclient _ with ⟨-,hq⟩ | ⟨server,-,hout⟩
    · exact ⟨_,hq.output.choose_spec.1⟩
    · exact ⟨_,hout⟩
  | taken => exact hnone rfl
  | serverTaken => exact hnone rfl
  | clientTaken => exact hnone rfl
  | clientDetached => exact ⟨_,rfl⟩
  | dropped => exact hnone rfl
  | finished =>
    apply hnone
    simp only [JsonRpcServer.unregisterClient]
    split
    · rfl
    · rfl

theorem micro_streams {c c' : Config} (hc : Consistent c.1 c.2)
    (h : Streams env c.1 c.2 (marksTo c.2)) (hm : Micro env c c') (hfree : FreeAddresses c'.2) :
    Streams env c'.1 c'.2 (marksTo c'.2) := by
  cases hm with
  | quiet hq =>
    rw [marksTo_quiet hq]
    exact h.congr hq.same
  | connected hid =>
    rw [marksTo_congr (by rw [onClientConnected_eq env hc hid])]
    exact h.connected hc hid _
  | serverAccepted hlive htype =>
    rw [marksTo_congr (by rw [acceptServer,enterAs_eq _ _ (by decide)])]
    exact h.serverAccepted hc htype _ _
  | @clientAccepted _ s o server uuid _ name hlive htype hs hcl hfound =>
    obtain ⟨hslive,hsserver,-⟩ := (hc.server_iff _ server).mp hfound
    have hentered := attachClient_entered (s := s) o uuid name server
    have hmaps := attachClient_serverConnection (s := s) o uuid name server
    have hconn := attachClient_clientConnection (s := s) o uuid name server
    have hout := attachClient_output s o uuid name server
    have hattached := h.clientAccepted hc htype uuid name hslive hsserver
    have hasserted : (s.serverConnection server).freeAddressAsserted = true := by
      by_contra hn
      rw [if_neg hn] at hout
      have hmem : Output.assertFailed "TunnelProxyServerConnection"
          "no free address but the maximum of connections has been reached." ∈
            (acceptClient env s o uuid name server).output := by
        change _ ∈ (s.attachClient o uuid name server).output ++ [_]
        rw [hout]
        exact List.mem_append_left _ (List.mem_append_right _ (List.mem_singleton.mpr rfl))
      exact absurd (hfree _ hmem) (by decide)
    rw [if_pos hasserted,List.append_nil] at hout
    have hnone : (s.serverConnection server).getClientConnection
        (s.serverConnection server).getFreeAddress.2 = none := by
      simpa [TunnelProxyServerConnection.freeAddressAsserted,QHash.contains_eq_false,
        TunnelProxyServerConnection.getClientConnection] using hasserted
    have hstreams := hattached hnone
    simp only [acceptClient]
    generalize s.attachClient o uuid name server = t at *
    have htransport : (t.serverConnection server).m_transportClient = server := by
      rw [hmaps,Function.update_self]
      exact hc.serverTransport server ⟨hsserver,.inl hslive⟩
    have haddress : (t.clientConnection o).m_socketAddress =
        (s.serverConnection server).getFreeAddress.2 := by
      rw [hconn,Function.update_self]
      rfl
    have hmark := markOf_connected env t o t.m_notificationId
    rw [haddress,hentered.uuid] at hmark
    rw [htransport,marksTo_sent (s := t) rfl hmark,marksTo_congr hout]
    exact hstreams.congr (SameRegistry.sendNotification env _ _ _ _ _)
  | @tunnelled _ s o data hlive hclient =>
    rcases tunnelToServer_eq hc hlive hclient data with ⟨-,hq⟩ | ⟨server,hto,hout⟩
    · rw [marksTo_quiet hq.quiet]
      exact h.congr (SameRegistry.tunnelToServer _ _ _)
    · rw [marksTo_sent hout rfl]
      exact (h.tunnelled hc hto).congr (SameRegistry.tunnelToServer _ _ _)
  | taken hlive => exact h.leave hlive _ _
  | serverTaken hlive => exact h.leave hlive _ _
  | clientTaken hlive => exact h.leave hlive _ _
  | @clientDetached _ s o server hlive hclient hto =>
    have hserves := (hc.attached o server hto).2.2.1
    have hun := h.unregister hc hto (.inr rfl)
    have htransport : (((s.takeClient o).unregisterClientConnection server o).serverConnection
        server).m_transportClient = server := by
      simp only [unregisterClientConnection,setClientConnection_serverConnection,
        setServerConnection_serverConnection,Function.update_self]
      exact hc.serverTransport server hserves
    have hmark := markOf_disconnected (s.takeClient o) o s.m_notificationId
    have hmarks : marksTo (detachClient env (s.takeClient o) server o) =
        Function.update (marksTo s) server (marksTo s server ++
          [((s.clientConnection o).m_socketAddress,.closed)]) := by
      simp only [detachClient]
      rw [htransport]
      exact marksTo_sent (s := s) rfl hmark
    rw [hmarks]
    exact (hun.leave hlive _ _).congr (SameRegistry.sendNotification env _ _ _ _ _)
  | @dropped _ s o server hdying hlive hclient hto =>
    have hun := h.unregister hc hto (.inl ⟨rfl,hc.gone server hdying⟩)
    rw [List.append_nil,Function.update_eq_self] at hun
    exact hun
  | @finished _ s o hdone =>
    have hout : (JsonRpcServer.unregisterClient s o).output = s.output := by
      simp only [JsonRpcServer.unregisterClient]
      split
      · rfl
      · rfl
    rw [marksTo_congr hout]
    exact h.finish

theorem new_streams : Streams env [] new (marksTo new) := by
  have hd : (default : TunnelProxyClientConnection).m_serverConnection = none := rfl
  refine ⟨fun _ => WellBracketed.nil,fun _ _ => rfl,?_,?_,?_⟩
  · intro server a c hs
    simp [serves,new,live] at hs
  · intro server a u hl
    simp [new,live] at hl
  · intro c server hto
    simp [new,hd] at hto

theorem steps_streams {c : Config} (h : ReflTransGen (Micro env) ([],new) c)
    (hfree : FreeAddresses c.2) : Streams env c.1 c.2 (marksTo c.2) := by
  induction h with
  | refl => exact new_streams
  | @tail b c hb hm ih =>
    have hc : Consistent b.1 b.2 := steps_consistent env new_consistent hb
    obtain ⟨new,hnew⟩ := micro_output hc hm
    refine micro_streams hc (ih ?_) hm hfree
    intro x hmem
    apply hfree x
    rw [hnew]
    exact List.mem_append_left _ hmem

theorem marksTo_attached
    (h : Reachable env s) (hfree : FreeAddresses s) {u : QUuid} {server : ObjectId}
    (hserver : s.m_tunnelProxyServerConnections.value u = some server) (a : UInt16)
    (clientUuid : String) : table (marksTo s server) a = some clientUuid ↔
      ∃ c, (s.clientConnection c).m_serverConnection = some server ∧
        (s.clientConnection c).m_socketAddress = a ∧
        env.uuidToString (s.clientConnection c).m_clientUuid = clientUuid := by
  have hc := reachable_consistent h
  have hs : Streams env [] s (marksTo s) := steps_streams (reachable_steps h) hfree
  obtain ⟨hlive,hserv,-⟩ := (hc.server_iff u server).mp hserver
  constructor
  · intro ht
    obtain ⟨c,hv⟩ := hs.exact server a clientUuid hlive hserv ht
    obtain ⟨hl,hcl,hto,ha⟩ := hc.addressed server a c ⟨hserv,.inl hlive⟩ hv
    have hshown := hs.shown server a c ⟨hserv,.inl hlive⟩ hv
    rw [← (hc.clientTransport c hl hcl).2] at hshown
    exact ⟨c,hto,ha,Option.some.inj (hshown.symm.trans ht)⟩
  · rintro ⟨c,hto,rfl,rfl⟩
    obtain ⟨hl,hcl,hserves,-⟩ := hc.attached c server hto
    rw [(hc.clientTransport c hl hcl).2]
    exact hs.shown server _ c hserves (hs.addressed c server hto)

end RemoteProxy.TunnelProxyServer
