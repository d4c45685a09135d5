import Mathlib.Algebra.GroupWithZero.Nat
import RemoteProxy.Proxy.Effects

namespace RemoteProxy.TunnelProxyServer

open Relation

variable {env : Environment} {up : Prop} {X : ObjectId} {server : QUuid → Prop}
  {client : ObjectId → Prop} {s s' t : TunnelProxyServer} {o : ObjectId}

section Heard

def Heard (s : TunnelProxyServer) : Prop :=
  ∀ x ∈ s.output, ∀ o ∈ Output.client x, o ∈ s.clientIds

theorem Act.known {c c' : Config} (hc : Consistent c.1 c.2) (h : Act env X server client c c') :
    Act env X server (fun o => o ∈ c.2.clientIds) c c' := by
  cases h with
  | own h => exact .own h
  | connected hid => exact .connected hid
  | serverAccepted h1 h2 h3 h4 h5 => exact .serverAccepted h1 h2 h3 h4 h5
  | clientAccepted h1 h2 h3 h4 h5 h6 =>
    exact .clientAccepted (hc.announced _ (.inl ((hc.server_iff _ _).mp h6).1)) h2 h3 h4 h5 h6
  | tunnelled h1 h2 => exact .tunnelled h1 h2
  | forwarded h => exact .forwarded h
  | taken h1 h2 h3 => exact .taken h1 h2 h3
  | serverTaken h1 h2 => exact .serverTaken h1 h2
  | clientTaken h1 h2 h3 => exact .clientTaken h1 h2 h3
  | clientDetached h1 h2 h3 => exact .clientDetached h1 h2 h3
  | finished h => exact .finished h
  | expelled h => exact .expelled h
  | expelledAtOnce h => exact .expelledAtOnce h
  | dropped h1 h2 => exact .dropped h1 h2
  | droppedAtOnce h1 h2 => exact .droppedAtOnce h1 h2

theorem act_ids {c c' : Config} (hc : Consistent c.1 c.2) (h : Act env X server client c c') :
    ∀ o ∈ c.2.clientIds, o ∈ c'.2.clientIds := by
  intro o ho
  rcases h.cases with hown | ⟨hid,address,rfl⟩ | ⟨uuid,name,-,-,-,rfl⟩ | ⟨uuid,name,x,-,-,-,rfl⟩ | hk
  · rw [hown.same.clientIds]
    exact ho
  · rw [onClientConnected_eq env hc hid]
    exact List.mem_cons_of_mem _ ho
  · rw [(acceptServer_entered _ _ _ _).clientIds]
    exact ho
  · rw [acceptClient]
    dsimp only
    rw [(SameRegistry.sendNotification env _ _ _ _ _).clientIds,
      (attachClient_entered _ _ _ _ _).clientIds]
    exact ho
  · rw [hk.clientIds]
    exact ho

theorem act_heard {c c' : Config} (hc : Consistent c.1 c.2) (hX : X ∈ c.2.clientIds)
    (h : Act env X server client c c') (hs : Heard c.2) : Heard c'.2 := by
  have hpeer : ∀ o, (c.2.clientConnection X).m_serverConnection = some o → o ∈ c.2.clientIds :=
    fun o ho => hc.announced o (hc.attached X o ho).2.2.1.2
  obtain ⟨new,hout,htold,-⟩ := act_spares hc hpeer (h.known hc)
  intro x hx o ho
  apply act_ids hc h
  rw [hout] at hx
  rcases List.mem_append.mp hx with hx | hx
  · exact hs x hx o ho
  · rcases htold x hx o ho with rfl | hto | hid
    · exact hX
    · exact hc.announced o (.inl (hc.attached o X hto).1)
    · exact hid

theorem acts_heard {c c' : Config} (hc : Consistent c.1 c.2) (hX : X ∈ c.2.clientIds)
    (h : ReflTransGen (Act env X server client) c c') (hs : Heard c.2) : Heard c'.2 := by
  have hall : X ∈ c'.2.clientIds ∧ Heard c'.2 := by
    induction h with
    | refl => exact ⟨hX,hs⟩
    | tail hacts hact ih =>
      have hc' := acts_consistent hc hacts
      exact ⟨act_ids hc' hact X ih.1,act_heard hc' ih.1 hact ih.2⟩
  exact hall.2

theorem value_unknown (hc : Consistent [] s) (hid : o ∉ s.clientIds) :
    s.m_proxyClients.value o = none := by
  cases hv : s.m_proxyClients.value o with
  | none => rfl
  | some x =>
    obtain rfl := hc.named o x hv
    exact absurd (hc.announced x (.inl hv)) hid

theorem onClientDisconnected_unknown (env : Environment) (h : s.m_proxyClients.value o = none) :
    onClientDisconnected env s o = s := by
  rw [onClientDisconnected]
  cases s.m_proxyClients.entries.length with
  | zero => rfl
  | succ n => rw [onClientDisconnectedWithin,h]

theorem step_heard (hc : Consistent [] s) {event : Event} (hfresh : s.Fresh event)
    (hs : Heard s) : Heard (s.step env event) := by
  by_cases hX : event.actor ∈ s.clientIds
  · exact acts_heard (c := ([],s)) hc hX (step_does s event hfresh hc) hs
  · have hv := value_unknown hc hX
    cases event with
    | clientConnected id address =>
      rw [step,onClientConnected_eq env hc hfresh]
      exact fun x hx o ho => List.mem_cons_of_mem _ (hs x hx o ho)
    | clientDisconnected id =>
      rw [step,onClientDisconnected_unknown env (o := id) hv]
      exact hs
    | dataAvailable id data =>
      have heq : onClientDataAvailable env s id data = s := by
        have hv' : s.m_proxyClients.value id = none := hv
        simp only [onClientDataAvailable,hv']
      rw [step,heq]
      exact hs
    | inactiveTimeout id =>
      have heq : inactiveTimeout env s id = s := by
        have hv' : s.m_proxyClients.value id = none := hv
        simp only [inactiveTimeout,hv']
      rw [step,heq]
      exact hs
    | elapse ms => exact hs

theorem reachable_heard (h : Reachable env s) : Heard s := by
  induction h with
  | new => exact fun x hx => by simp [new] at hx
  | step h hfresh ih => exact step_heard (reachable_consistent h) hfresh ih

end Heard

section Books

def Output.dataTo (o : ObjectId) : Output → QByteArray
  | .sent x _ data => if x = o then data else []
  | .killed _ _ => []
  | .assertFailed _ _ => []

def Output.notificationId? : Output → Option Int32
  | .sent _ (.notification id _ _ _) _ => some id
  | _ => none

def Output.carried : Output → QByteArray
  | .sent _ (.tunnelData _ _ data) _ => data
  | .sent _ (.payload data) _ => data
  | _ => []

/-- What an `int` counts from `id` on in `n` steps. -/
def numbersFrom (id : Int32) (n : Nat) : List Int32 :=
  (List.range n).map fun k => id + .ofNat k

@[simp] theorem length_numbersFrom (id : Int32) (n : Nat) : (numbersFrom id n).length = n := by
  rw [numbersFrom,List.length_map,List.length_range]

theorem numbersFrom_add (id : Int32) (m n : Nat) :
    numbersFrom id (m + n) = numbersFrom id m ++ numbersFrom (id + .ofNat m) n := by
  rw [numbersFrom,numbersFrom,numbersFrom,List.range_add,List.map_append,List.map_map]
  refine congrArg _ (List.map_congr_left fun k _ => ?_)
  rw [Function.comp_apply,Int32.ofNat_add,Int32.add_assoc]

/-- Every count goes up by what it counts among `new`, the output in between. -/
structure Booked (s s' : TunnelProxyServer) (new : List Output) : Prop where
  output : s'.output = s.output ++ new
  txDataCount : ∀ o, (s'.client o).m_txDataCount =
    (s.client o).m_txDataCount + .ofNat (new.flatMap (Output.dataTo o)).length
  rxDataCount : ∀ o, (s'.client o).m_rxDataCount = (s.client o).m_rxDataCount
  troughputCounter : s'.m_troughputCounter =
    s.m_troughputCounter + .ofNat (new.flatMap Output.carried).length
  notificationId : ∃ n, s'.m_notificationId = s.m_notificationId + .ofNat n ∧
    new.filterMap Output.notificationId? = numbersFrom s.m_notificationId n

theorem Booked.trans {new new' : List Output} (h : Booked s s' new) (h' : Booked s' t new') :
    Booked s t (new ++ new') := by
  obtain ⟨n,hn,hids⟩ := h.notificationId
  obtain ⟨n',hn',hids'⟩ := h'.notificationId
  refine ⟨?_,fun o => ?_,fun o => (h'.rxDataCount o).trans (h.rxDataCount o),?_,n + n',?_,?_⟩
  · rw [h'.output,h.output,List.append_assoc]
  · rw [h'.txDataCount,h.txDataCount,List.flatMap_append,List.length_append,UInt64.ofNat_add,
      UInt64.add_assoc]
  · rw [h'.troughputCounter,h.troughputCounter,List.flatMap_append,List.length_append,
      Int32.ofNat_add,Int32.add_assoc]
  · rw [hn',hn,Int32.ofNat_add,Int32.add_assoc]
  · rw [List.filterMap_append,hids,hids',hn,numbersFrom_add]

theorem Booked.of_same (hc : s'.client = s.client) (hout : s'.output = s.output)
    (ht : s'.m_troughputCounter = s.m_troughputCounter)
    (hn : s'.m_notificationId = s.m_notificationId) : Booked s s' [] :=
  ⟨by rw [hout,List.append_nil],fun o => by rw [hc]; exact (UInt64.add_zero _).symm,
    fun o => by rw [hc],ht.trans (Int32.add_zero _).symm,0,
    hn.trans (Int32.add_zero _).symm,rfl⟩

theorem Booked.refl (s : TunnelProxyServer) : Booked s s [] := Booked.of_same rfl rfl rfl rfl

theorem Booked.setClient (s : TunnelProxyServer) (x : ObjectId) {c : TunnelProxyClient}
    (htx : c.m_txDataCount = (s.client x).m_txDataCount)
    (hrx : c.m_rxDataCount = (s.client x).m_rxDataCount) : Booked s (s.setClient x c) [] := by
  refine ⟨(List.append_nil _).symm,fun o => ?_,fun o => ?_,(Int32.add_zero _).symm,0,
    (Int32.add_zero _).symm,rfl⟩
  · rw [setClient_client]
    rcases eq_or_ne o x with rfl | hne
    · rw [Function.update_self]
      exact htx.trans (UInt64.add_zero _).symm
    · rw [Function.update_of_ne hne]
      exact (UInt64.add_zero _).symm
  · rw [setClient_client]
    rcases eq_or_ne o x with rfl | hne
    · rw [Function.update_self]
      exact hrx
    · rw [Function.update_of_ne hne]

theorem Booked.asserted (s : TunnelProxyServer) (place what : String) :
    Booked s (s.emit (.assertFailed place what)) [.assertFailed place what] :=
  ⟨rfl,fun _ => (UInt64.add_zero _).symm,fun _ => rfl,(Int32.add_zero _).symm,0,
    (Int32.add_zero _).symm,rfl⟩

theorem Booked.requestKill (s : TunnelProxyServer) (x : ObjectId) (reason : String) :
    Booked s (s.requestKill x reason) [.killed x reason] :=
  ⟨rfl,fun _ => (UInt64.add_zero _).symm,fun _ => rfl,(Int32.add_zero _).symm,0,
    (Int32.add_zero _).symm,rfl⟩

theorem Booked.killed (h : Booked s t []) (x : ObjectId) (reason : String) :
    Booked s (t.requestKill x reason) [.killed x reason] :=
  h.trans (Booked.requestKill t x reason)

theorem client_sendData (s : TunnelProxyServer) (x o : ObjectId) (m : Message)
    (data : QByteArray) : (s.sendData x m data).client o =
      if o = x then (s.client x).addTxDataCount data.length else s.client o := by
  simp only [TunnelProxyServer.sendData,emit_client,setClient_client,Function.update_apply]

theorem sendData_counts (s : TunnelProxyServer) (x : ObjectId) (m : Message)
    (data : QByteArray) (o : ObjectId) :
    ((s.sendData x m data).client o).m_txDataCount =
        (s.client o).m_txDataCount + .ofNat (Output.dataTo o (.sent x m data)).length ∧
      ((s.sendData x m data).client o).m_rxDataCount = (s.client o).m_rxDataCount := by
  rw [client_sendData,Output.dataTo]
  rcases eq_or_ne o x with rfl | hne
  · rw [if_pos rfl,if_pos rfl]
    exact ⟨rfl,rfl⟩
  · rw [if_neg hne,if_neg hne.symm]
    exact ⟨(UInt64.add_zero _).symm,rfl⟩

theorem Booked.sendData (s : TunnelProxyServer) (x : ObjectId) {m : Message} (data : QByteArray)
    {count : Int32} {id : Int32} (hcount : count = s.m_troughputCounter +
      .ofNat (Output.carried (.sent x m data)).length)
    (hid : ∃ n, id = s.m_notificationId + .ofNat n ∧
      (Output.notificationId? (.sent x m data)).toList = numbersFrom s.m_notificationId n) :
    Booked s { s.sendData x m data with m_troughputCounter := count, m_notificationId := id }
      [.sent x m data] := by
  obtain ⟨n,hn,hids⟩ := hid
  refine ⟨rfl,fun o => ?_,fun o => (sendData_counts s x m data o).2,?_,n,hn,?_⟩
  · rw [List.flatMap_singleton]
    exact (sendData_counts s x m data o).1
  · rw [List.flatMap_singleton]
    exact hcount
  · rw [← hids]
    cases hx : Output.notificationId? (.sent x m data) <;> simp [hx]

theorem Booked.answered (env : Environment) (s : TunnelProxyServer) (x : ObjectId) {m : Message}
    (hm : (Message.answer? m).isSome = true) :
    ∃ new, Booked s (JsonRpcServer.sendMessage env s x m) new := by
  refine ⟨_,Booked.sendData s x _ ?_ ⟨0,(Int32.add_zero _).symm,?_⟩⟩
  · cases m <;> simp [Message.answer?,Output.carried] at hm ⊢
  · cases m <;> simp [Message.answer?,Output.notificationId?,numbersFrom] at hm ⊢

theorem effect_booked (hw : Effect env up s s') : ∃ new, Booked s s' new := by
  cases hw with
  | tables hs => exact ⟨[],.of_same hs.client hs.output hs.troughputCounter hs.notificationId⟩
  | processed _ => exact ⟨[],Booked.setClient s _ rfl rfl⟩
  | overflowed =>
    refine ⟨_,Booked.killed ?_ _ _⟩
    exact Booked.setClient s _ rfl rfl
  | doomed => exact ⟨[],Booked.setClient s _ rfl rfl⟩
  | registered _ _ =>
    exact ⟨[],Booked.setClient s _ (by rw [activateClient_eq]; rfl) (by rw [activateClient_eq]; rfl)⟩
  | slipRequested => exact ⟨[],Booked.setClient s _ rfl rfl⟩
  | slipEnabled => exact ⟨[],Booked.setClient s _ rfl rfl⟩
  | timedOut =>
    refine ⟨_,Booked.killed ?_ _ _⟩
    exact Booked.setClient s _ rfl rfl
  | answered hm => exact Booked.answered env s _ hm.isSome
  | @notified nameSpace method params o =>
    exact ⟨_,Booked.sendData s o _ (Int32.add_zero _).symm
      ⟨1,rfl,congrArg ([·]) (Int32.add_zero _).symm⟩⟩
  | passedUp => exact ⟨_,Booked.sendData s _ _ rfl ⟨0,(Int32.add_zero _).symm,rfl⟩⟩
  | passedDown => exact ⟨_,Booked.sendData s _ _ rfl ⟨0,(Int32.add_zero _).symm,rfl⟩⟩
  | asserted _ => exact ⟨_,Booked.asserted s _ _⟩
  | killRequested => exact ⟨_,Booked.requestKill s _ _⟩

theorem effects_booked (hw : Effects env up s s') : ∃ new, Booked s s' new := by
  induction hw with
  | refl => exact ⟨[],Booked.refl s⟩
  | tail _ hw ih =>
    obtain ⟨new,h⟩ := ih
    obtain ⟨new',h'⟩ := effect_booked hw
    exact ⟨_,h.trans h'⟩

theorem admitted_counts (env : Environment) (s : TunnelProxyServer) (id : QUuid)
    (address : String) (o : ObjectId) :
    (o = id ∧ ((admitted env s id address).client o).m_txDataCount = 0 ∧
        ((admitted env s id address).client o).m_rxDataCount = 0) ∨
      o ≠ id ∧ (admitted env s id address).client o = s.client o := by
  rcases eq_or_ne o id with rfl | hne
  · refine .inl ⟨rfl,?_⟩
    simp [admitted,TunnelProxyClient.new]
  · exact .inr ⟨hne,Function.update_of_ne hne _ _⟩

theorem received_counts (s : TunnelProxyServer) (x : ObjectId) (data : QByteArray)
    (o : ObjectId) : ((s.received x data).client o).m_txDataCount = (s.client o).m_txDataCount ∧
      ((s.received x data).client o).m_rxDataCount =
        (s.client o).m_rxDataCount + .ofNat (if x = o then data.length else 0) := by
  rw [TunnelProxyServer.received,setClient_client]
  rcases eq_or_ne o x with rfl | hne
  · rw [Function.update_self,if_pos rfl,TunnelProxyClient.addRxDataCount]
    split
    · exact ⟨rfl,rfl⟩
    · exact ⟨rfl,rfl⟩
  · rw [Function.update_of_ne hne,if_neg hne.symm]
    exact ⟨rfl,(UInt64.add_zero _).symm⟩

end Books

section Balanced

def sentTo (s : TunnelProxyServer) (o : ObjectId) : QByteArray :=
  s.output.flatMap (Output.dataTo o)

def notificationIds (s : TunnelProxyServer) : List Int32 :=
  s.output.filterMap Output.notificationId?

def carried (s : TunnelProxyServer) : QByteArray := s.output.flatMap Output.carried

structure Balanced (s : TunnelProxyServer) : Prop where
  txDataCount : ∀ o, (s.client o).m_txDataCount = .ofNat (s.sentTo o).length
  troughputCounter : s.m_troughputCounter = .ofNat s.carried.length
  notificationId : s.m_notificationId = .ofNat s.notificationIds.length
  notificationIds : s.notificationIds = numbersFrom 0 s.notificationIds.length

theorem Balanced.booked (h : Balanced s) {new : List Output} (hb : Booked s s' new) :
    Balanced s' := by
  obtain ⟨n,hn,hids⟩ := hb.notificationId
  have hall : s'.notificationIds = s.notificationIds ++ numbersFrom s.m_notificationId n := by
    rw [← hids,TunnelProxyServer.notificationIds,hb.output,List.filterMap_append]
    rfl
  have hlength : s'.notificationIds.length = s.notificationIds.length + n := by
    rw [hall,List.length_append,length_numbersFrom]
  refine ⟨fun o => ?_,?_,?_,?_⟩
  · rw [hb.txDataCount,h.txDataCount,sentTo,sentTo,hb.output,List.flatMap_append,
      List.length_append,UInt64.ofNat_add]
  · rw [hb.troughputCounter,h.troughputCounter,carried,carried,hb.output,List.flatMap_append,
      List.length_append,Int32.ofNat_add]
  · rw [hn,hlength,Int32.ofNat_add,h.notificationId]
  · rw [hlength,numbersFrom_add,Int32.zero_add,← h.notificationIds,← h.notificationId,hall]

theorem sentTo_unheard (h : Heard s) (hid : o ∉ s.clientIds) : s.sentTo o = [] := by
  rw [sentTo,List.flatMap_eq_nil_iff]
  intro x hx
  cases x with
  | sent y m data =>
    have hne : y ≠ o := by
      rintro rfl
      exact hid (h _ hx y rfl)
    exact if_neg hne
  | killed => rfl
  | assertFailed => rfl

theorem counters_balanced (h : Reachable env s) : Balanced s := by
  refine reachable_of_effects ⟨fun _ => rfl,rfl,rfl,rfl⟩ ?_ ?_ ?_ ?_ h
  · intro s id address hs hid h
    refine ⟨fun o => ?_,h.troughputCounter,h.notificationId,h.notificationIds⟩
    rcases admitted_counts env s id address o with ⟨rfl,htx,-⟩ | ⟨-,hc⟩
    · have hnone : s.sentTo o = [] := sentTo_unheard (reachable_heard hs) hid
      rw [htx]
      exact congrArg (UInt64.ofNat ·.length) hnone.symm
    · rw [hc]
      exact h.txDataCount o
  · intro s x data h
    refine ⟨fun o => ?_,h.troughputCounter,h.notificationId,h.notificationIds⟩
    rw [(received_counts s x data o).1]
    exact h.txDataCount o
  · intro s ms h
    exact ⟨h.txDataCount,h.troughputCounter,h.notificationId,h.notificationIds⟩
  · intro up s s' h hw
    obtain ⟨new,hb⟩ := effect_booked hw
    exact h.booked hb

theorem notificationIds_toInt (h : Reachable env s) (hlt : s.notificationIds.length < 2 ^ 31) :
    s.notificationIds.map Int32.toInt =
      (List.range s.notificationIds.length).map Nat.cast := by
  have hids := (counters_balanced h).notificationIds
  generalize s.notificationIds.length = n at hids hlt
  rw [hids,numbersFrom,List.map_map]
  refine List.map_congr_left fun k hk => ?_
  have hk : k < n := List.mem_range.mp hk
  rw [Function.comp_apply,Int32.zero_add]
  exact Int32.toInt_ofNat_of_lt (hk.trans hlt)

def Counted (count : Nat) (s : TunnelProxyServer) : Prop :=
  ∃ n, s.carried.length = count + n ∧ s.m_troughputCounter = .ofNat n

theorem effects_carried (hw : Effects env up s s') {count : Nat} (h : Counted count s) :
    Counted count s' := by
  obtain ⟨new,hb⟩ := effects_booked hw
  obtain ⟨n,hcarried,hcounter⟩ := h
  refine ⟨n + (new.flatMap Output.carried).length,?_,?_⟩
  · rw [carried,hb.output,List.flatMap_append,List.length_append,← Nat.add_assoc,← hcarried]
    rfl
  · rw [hb.troughputCounter,hcounter,Int32.ofNat_add]

theorem step_carried (hc : Consistent [] s) {event : Event} (hfresh : s.Fresh event) {count : Nat}
    (h : Counted count s) : Counted count (s.step env event) := by
  have hstep := stepped env hc hfresh
  generalize s.step env event = t at hstep
  cases hstep with
  | admitted _ => exact h
  | @received x data t _ hw => exact effects_carried (s := s.received x data) hw h
  | ignored _ => exact h
  | left hw => exact effects_carried hw h
  | timedOut hw => exact effects_carried hw h
  | elapsed => exact h

end Balanced

section Received

theorem effect_ids (hw : Effect env up s s') : s'.clientIds = s.clientIds := by
  cases hw with
  | tables hs => exact hs.clientIds
  | _ => rfl

theorem effects_ids (hw : Effects env up s s') : s'.clientIds = s.clientIds := by
  induction hw with
  | refl => rfl
  | tail _ hw ih => exact (effect_ids hw).trans ih

theorem effects_rxDataCount (hw : Effects env up s s') (o : ObjectId) :
    (s'.client o).m_rxDataCount = (s.client o).m_rxDataCount := by
  obtain ⟨new,h⟩ := effects_booked hw
  exact h.rxDataCount o

def Event.dataFrom (s : TunnelProxyServer) (o : ObjectId) : Event → QByteArray
  | .dataAvailable id data => if id = o ∧ s.m_proxyClients.contains id then data else []
  | _ => []

def receivedFrom (env : Environment) (o : ObjectId) :
    TunnelProxyServer → List Event → QByteArray
  | _, [] => []
  | s, event :: events => event.dataFrom s o ++ receivedFrom env o (s.step env event) events

theorem step_rxDataCount (env : Environment) (hc : Consistent [] s) {event : Event} (hfresh : s.Fresh event)
    (o : ObjectId) (h : o ∉ s.clientIds → (s.client o).m_rxDataCount = 0) :
    ((s.step env event).client o).m_rxDataCount =
        (s.client o).m_rxDataCount + .ofNat (event.dataFrom s o).length ∧
      (o ∉ (s.step env event).clientIds → ((s.step env event).client o).m_rxDataCount = 0) := by
  have hstep := stepped env hc hfresh
  generalize s.step env event = t at hstep
  cases hstep with
  | @admitted id address hid =>
    rcases admitted_counts env s id address o with ⟨rfl,-,hrx⟩ | ⟨hne,heq⟩
    · rw [hrx,h hid]
      exact ⟨rfl,fun _ => rfl⟩
    · rw [heq]
      exact ⟨(UInt64.add_zero _).symm,fun hno => h fun ho => hno (List.mem_cons_of_mem _ ho)⟩
  | @received x data t hlive hw =>
    have hknown : s.m_proxyClients.contains x = true := by
      rw [QHash.contains,show s.m_proxyClients.value x = some x from hlive]
      rfl
    have hcount : (t.client o).m_rxDataCount = (s.client o).m_rxDataCount +
        .ofNat (Event.dataFrom s o (.dataAvailable x data)).length := by
      rw [effects_rxDataCount hw o,(received_counts s x data o).2,Event.dataFrom]
      rcases eq_or_ne x o with rfl | hne
      · rw [if_pos rfl,if_pos ⟨rfl,hknown⟩]
      · rw [if_neg hne,if_neg fun hx => hne hx.1]
        rfl
    refine ⟨hcount,fun hno => ?_⟩
    rw [effects_ids hw] at hno
    have hne : x ≠ o := by
      rintro rfl
      exact hno (hc.announced x (.inl hlive))
    rw [hcount,h hno,Event.dataFrom,if_neg fun hx => hne hx.1]
    rfl
  | @ignored x data hlive =>
    have hnone : Event.dataFrom s o (.dataAvailable x data) = [] := by
      refine if_neg ?_
      rintro ⟨rfl,hknown⟩
      obtain ⟨y,hy⟩ := Option.isSome_iff_exists.mp hknown
      obtain rfl := hc.named x y hy
      exact hlive hy
    rw [hnone]
    exact ⟨(UInt64.add_zero _).symm,h⟩
  | left hw =>
    rw [effects_rxDataCount hw o,effects_ids hw]
    exact ⟨(UInt64.add_zero _).symm,h⟩
  | timedOut hw =>
    rw [effects_rxDataCount hw o,effects_ids hw]
    exact ⟨(UInt64.add_zero _).symm,h⟩
  | elapsed => exact ⟨(UInt64.add_zero _).symm,h⟩

theorem run_rxDataCount {events : List Event} (hr : Reachable env s)
    (hfresh : FreshRun env s events) (o : ObjectId)
    (h : o ∉ s.clientIds → (s.client o).m_rxDataCount = 0) :
    ((s.run env events).client o).m_rxDataCount =
      (s.client o).m_rxDataCount + .ofNat (receivedFrom env o s events).length := by
  induction events generalizing s with
  | nil => exact (UInt64.add_zero _).symm
  | cons event events ih =>
    obtain ⟨hcount,hzero⟩ := step_rxDataCount env (reachable_consistent hr) hfresh.1 o h
    have hrest := ih (hr.step hfresh.1) hfresh.2 hzero
    rw [hcount] at hrest
    rw [receivedFrom,List.length_append,UInt64.ofNat_add,← UInt64.add_assoc]
    exact hrest

/-- Each connection's counters hold the bytes that came from it while the proxy knew it, and the
bytes that the transport was asked to send to it. -/
theorem traffic_accounted {events : List Event} (hfresh : FreshRun env new events)
    (o : ObjectId) :
    ((new.run env events).client o).m_rxDataCount =
        .ofNat (receivedFrom env o new events).length ∧
      ((new.run env events).client o).m_txDataCount =
        .ofNat ((new.run env events).sentTo o).length := by
  constructor
  · rw [run_rxDataCount .new hfresh o fun _ => rfl]
    exact UInt64.zero_add _
  · exact (counters_balanced (Reachable.run .new hfresh)).txDataCount o

theorem traffic_accounted_sample :
    ((new.run (sampleEnvironment true) (sampleEvents true)).client ⟨2⟩).m_rxDataCount =
        .ofNat (receivedFrom (sampleEnvironment true) ⟨2⟩ new (sampleEvents true)).length ∧
      ((new.run (sampleEnvironment true) (sampleEvents true)).client ⟨2⟩).m_txDataCount =
        .ofNat ((new.run (sampleEnvironment true) (sampleEvents true)).sentTo ⟨2⟩).length :=
  traffic_accounted (by decide +kernel) ⟨2⟩

end Received

end RemoteProxy.TunnelProxyServer
