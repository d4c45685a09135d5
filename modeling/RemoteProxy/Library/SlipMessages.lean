import RemoteProxy.Library.Uplink
import RemoteProxy.Proxy.Accounts
import RemoteProxy.Proxy.Messages

namespace RemoteProxy

open SlipDataProcessor Uplink

def Message.isJson : Message → Bool
  | .tunnelData _ _ _ => false
  | .payload _ => false
  | _ => true

def Message.frame (env : Environment) : Message → Frame
  | .tunnelData _ socketAddress data => ⟨socketAddress,data⟩
  | message => messageFrame env message

namespace TunnelProxyServer

variable {env : Environment} {up : Prop} {s s' : TunnelProxyServer} {o : ObjectId}

def Output.frames (env : Environment) (o : ObjectId) : Output → Prop
  | .sent x message data => x = o → (∀ payload, message ≠ .payload payload) ∧
      data = serializeData (buildFrame (message.frame env))
  | _ => True

def Frames (env : Environment) (o : ObjectId) (s s' : TunnelProxyServer) : Prop :=
  ∃ new, s'.output = s.output ++ new ∧ ∀ x ∈ new, Output.frames env o x

namespace Frames

theorem silent (h : s'.output = s.output) : Frames env o s s' :=
  ⟨[],h.trans (List.append_nil _).symm,by simp⟩

theorem single {x : Output} (h : s'.output = s.output ++ [x]) (hx : Output.frames env o x) :
    Frames env o s s' :=
  ⟨[x],h,fun _ hy => List.mem_singleton.mp hy ▸ hx⟩

theorem trans {t : TunnelProxyServer} (h : Frames env o s s') (h' : Frames env o s' t) :
    Frames env o s t := by
  obtain ⟨new,hn,hx⟩ := h
  obtain ⟨new',hn',hx'⟩ := h'
  refine ⟨new ++ new',by rw [hn',hn,List.append_assoc],fun x hm => ?_⟩
  exact (List.mem_append.mp hm).elim (hx x) (hx' x)

theorem message (hslip : (s.client o).m_slipEnabled = true) (x : ObjectId) {m : Message}
    (hm : m.isJson = true) :
    Output.frames env o (.sent x m (JsonRpcServer.jsonFrame env (s.client x).m_slipEnabled m)) := by
  rintro rfl
  refine ⟨fun payload he => ?_,?_⟩
  · rw [he] at hm
    cases hm
  · rw [JsonRpcServer.jsonFrame,hslip,if_pos rfl]
    cases m with
    | tunnelData => cases hm
    | payload => cases hm
    | _ => rfl

end Frames

section Effects

theorem Speaks.setClient (h : Speaks o s) {x : ObjectId} {c : TunnelProxyClient}
    (htype : x = o → c.m_type = .TypeServer) (hslip : x = o → c.m_slipEnabled = true) :
    Speaks o (s.setClient x c) := by
  refine ⟨h.announced,?_,?_⟩
  · rw [TunnelProxyServer.isServer,setClient_client,Function.update_apply]
    split
    · next he => exact htype he.symm
    · exact h.isServer
  · rw [setClient_client,Function.update_apply]
    split
    · next he => exact hslip he.symm
    · exact h.slipEnabled

theorem Speaks.setSame (h : Speaks o s) {x : ObjectId} {c : TunnelProxyClient}
    (htype : c.m_type = (s.client x).m_type) (hslip : c.m_slipEnabled = (s.client x).m_slipEnabled) :
    Speaks o (s.setClient x c) :=
  h.setClient (fun he => htype.trans (he ▸ h.isServer)) (fun he => hslip.trans (he ▸ h.slipEnabled))

theorem Speaks.requestKill (h : Speaks o s) (x : ObjectId) (reason : String) :
    Speaks o (s.requestKill x reason) := ⟨h.announced,h.isServer,h.slipEnabled⟩

theorem Speaks.sendData (h : Speaks o s) (x : ObjectId) (m : Message) (data : QByteArray) :
    Speaks o (s.sendData x m data) := by
  obtain ⟨hslip,-⟩ := sendData_client s x m data o
  refine ⟨h.announced,?_,hslip.trans h.slipEnabled⟩
  rw [TunnelProxyServer.isServer,client_sendData]
  split
  · next he => exact he ▸ h.isServer
  · exact h.isServer

theorem Speaks.not_client (h : Speaks o s) {x : ObjectId} (hx : s.isClient x) : x ≠ o := by
  rintro rfl
  have hserver := h.isServer
  rw [TunnelProxyServer.isServer,hx] at hserver
  cases hserver

theorem effect_frames (h : Speaks o s) (hw : Effect env up s s') :
    Speaks o s' ∧ Frames env o s s' := by
  cases hw with
  | tables hs =>
    exact ⟨h.of_client (hs.clientIds ▸ h.announced) (congrFun hs.client o),.silent hs.output⟩
  | processed _ => exact ⟨h.setSame rfl rfl,.silent rfl⟩
  | @overflowed x data reason =>
    have hprocessed : Speaks o (s.processed x data) := h.setSame rfl rfl
    exact ⟨hprocessed.requestKill x reason,.single rfl trivial⟩
  | doomed => exact ⟨h.setSame rfl rfl,.silent rfl⟩
  | @registered x type uuid name _ hnone =>
    have hne : x ≠ o := by
      rintro rfl
      exact h.not_unregistered hnone rfl
    exact ⟨h.setClient (fun he => absurd he hne) (fun he => absurd he hne),.silent rfl⟩
  | slipRequested => exact ⟨h.setSame rfl rfl,.silent rfl⟩
  | @slipEnabled x =>
    exact ⟨h.setClient (fun he => he ▸ h.isServer) fun _ => rfl,.silent rfl⟩
  | @timedOut x reason =>
    have hticked : Speaks o (s.setClient x { s.client x with
        m_inactiveTimer := (s.client x).m_inactiveTimer.timeout s.now }) := h.setSame rfl rfl
    exact ⟨hticked.requestKill x reason,.single rfl trivial⟩
  | @answered x m hm =>
    have hjson : m.isJson = true := by
      cases m with
      | tunnelData => cases hm
      | payload => cases hm
      | _ => rfl
    exact ⟨h.sendData _ _ _,.single rfl (Frames.message h.slipEnabled x hjson)⟩
  | @notified nameSpace method params x =>
    have hcounted : Speaks o { s with m_notificationId := s.m_notificationId + 1 } :=
      ⟨h.announced,h.isServer,h.slipEnabled⟩
    exact ⟨hcounted.sendData _ _ _,.single rfl (Frames.message h.slipEnabled x rfl)⟩
  | @passedUp server clientUuid socketAddress data =>
    have hsent := h.sendData server (.tunnelData clientUuid socketAddress data)
      (serializeData (buildFrame ⟨socketAddress,data⟩))
    refine ⟨⟨hsent.announced,hsent.isServer,hsent.slipEnabled⟩,.single rfl fun _ => ⟨?_,rfl⟩⟩
    exact fun payload he => by cases he
  | @passedDown x data hclient =>
    have hsent := h.sendData x (.payload data) data
    refine ⟨⟨hsent.announced,hsent.isServer,hsent.slipEnabled⟩,.single rfl fun he => ?_⟩
    exact absurd he (h.not_client hclient)
  | asserted _ => exact ⟨⟨h.announced,h.isServer,h.slipEnabled⟩,.single rfl trivial⟩
  | killRequested => exact ⟨h.requestKill _ _,.single rfl trivial⟩

theorem effects_frames (h : Speaks o s) (hw : Effects env up s s') :
    Speaks o s' ∧ Frames env o s s' := by
  induction hw with
  | refl => exact ⟨h,.silent rfl⟩
  | tail _ hw ih =>
    obtain ⟨hnext,hframes⟩ := effect_frames ih.1 hw
    exact ⟨hnext,ih.2.trans hframes⟩

theorem step_frames (hc : Consistent [] s) (h : Speaks o s) {event : Event}
    (hfresh : s.Fresh event) :
    Speaks o (s.step env event) ∧ Frames env o s (s.step env event) := by
  have hstep := stepped env hc hfresh
  generalize s.step env event = t at hstep
  cases hstep with
  | @admitted id address hid =>
    have hne : o ≠ id := fun he => hid (he ▸ h.announced)
    exact ⟨h.of_client (List.mem_cons_of_mem _ h.announced) (Function.update_of_ne hne _ _),
      .silent rfl⟩
  | @received x data _ _ hw =>
    have hreceived : Speaks o (s.received x data) := by
      rw [TunnelProxyServer.received,addRxDataCount_eq]
      exact h.setSame rfl rfl
    obtain ⟨hnext,hframes⟩ := effects_frames hreceived hw
    exact ⟨hnext,Frames.trans (.silent rfl) hframes⟩
  | ignored => exact ⟨h,.silent rfl⟩
  | left hw => exact effects_frames h hw
  | timedOut hw => exact effects_frames h hw
  | elapsed => exact ⟨⟨h.announced,h.isServer,h.slipEnabled⟩,.silent rfl⟩

theorem run_frames {events : List Event} (hr : Reachable env s) (h : Speaks o s)
    (hfresh : FreshRun env s events) : Frames env o s (s.run env events) := by
  induction events generalizing s with
  | nil => exact .silent rfl
  | cons event events ih =>
    obtain ⟨hnext,hframes⟩ := step_frames (reachable_consistent hr) h hfresh.1
    exact hframes.trans (ih (hr.step hfresh.1) hnext hfresh.2)

end Effects

theorem Frames.encoded (h : Frames env o s s') : ∃ messages,
    messagesTo s' o = messagesTo s o ++ messages ∧
      (∀ message ∈ messages, ∀ payload, message ≠ .payload payload) ∧
      bytesTo o s'.output = bytesTo o s.output ++
        TunnelProxySocketServer.encoded (messages.map (Message.frame env)) := by
  obtain ⟨new,hout,hnew⟩ := h
  refine ⟨new.filterMap (messageTo o),?_,?_,?_⟩
  · rw [messagesTo,hout,List.filterMap_append]
    rfl
  · intro message hm
    obtain ⟨x,hx,hmessage⟩ := List.mem_filterMap.mp hm
    cases x with
    | sent y m data =>
      simp only [messageTo] at hmessage
      split at hmessage
      · next hy =>
        obtain rfl := Option.some.inj hmessage
        exact (hnew _ hx hy).1
      · cases hmessage
    | killed => cases hmessage
    | assertFailed => cases hmessage
  · have hbytes : bytesTo o new = TunnelProxySocketServer.encoded
        ((new.filterMap (messageTo o)).map (Message.frame env)) := by
      clear hout
      induction new with
      | nil => rfl
      | cons x new ih =>
        have hrest := ih fun y hy => hnew y (List.mem_cons_of_mem _ hy)
        have hx := hnew x List.mem_cons_self
        have hsplit : bytesTo o (x :: new) = bytesTo o [x] ++ bytesTo o new := by
          simp [bytesTo]
        rw [hsplit,hrest]
        cases x with
        | sent y m data =>
          by_cases hy : y = o
          · have hdata := (hx hy).2
            simp [bytesTo,messageTo,hy,TunnelProxySocketServer.encoded,hdata]
          · simp [bytesTo,messageTo,hy]
        | killed => rfl
        | assertFailed => rfl
    have hall : bytesTo o s'.output = bytesTo o s.output ++ bytesTo o new := by
      rw [hout]
      exact List.flatMap_append
    rw [hall,hbytes]

end TunnelProxyServer

end RemoteProxy
