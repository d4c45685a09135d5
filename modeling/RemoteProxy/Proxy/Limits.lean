import RemoteProxy.Foundation.Runs
import RemoteProxy.Proxy.Accounts
import RemoteProxy.Proxy.Arrivals
import RemoteProxy.Proxy.InactiveTimer
import RemoteProxy.Proxy.KilledConnection

namespace RemoteProxy.TunnelProxyServer

open Relation

variable {env : Environment} {up : Prop} {s s' t : TunnelProxyServer} {o : ObjectId}

theorem Doomed.extended (h : Doomed s o) (hout : ∃ new, s'.output = s.output ++ new) :
    Doomed s' o := by
  obtain ⟨reason,hr⟩ := h
  obtain ⟨new,hn⟩ := hout
  exact ⟨reason,hn ▸ List.mem_append_left new hr⟩

theorem effects_output (hw : Effects env up s s') : ∃ new, s'.output = s.output ++ new := by
  obtain ⟨new,h⟩ := effects_booked hw
  exact ⟨new,h.output⟩

theorem requestKill_doomed (s : TunnelProxyServer) (o : ObjectId) (reason : String) :
    Doomed (s.requestKill o reason) o :=
  ⟨reason,List.mem_append_right _ (List.mem_singleton_self _)⟩

theorem killConnection_doomed (env : Environment) (s : TunnelProxyServer) (o : ObjectId)
    (reason : String) : Doomed (killConnection env s o reason) o := by
  have hdoomed := requestKill_doomed s o reason
  simp only [killConnection,killConnectionWith]
  split
  · exact hdoomed.extended (effects_output (effects_onClientDisconnected env _ o))
  · exact hdoomed

section Buffers

/-- Nothing of `c`'s buffer is taken for a request any more, but its size is not bounded yet. -/
def Drained (c : TunnelProxyClient) : Prop :=
  c.m_slipEnabled = false → JsonPackets.Pending c.m_dataBuffer

theorem drained_processData (c : TunnelProxyClient) (data : QByteArray) :
    Drained (c.processData data).1 := by
  intro hslip
  have hplain : c.m_slipEnabled = false := hslip
  simp only [TunnelProxyClient.processData,hplain,Bool.false_eq_true,if_false,
    TunnelProxyClient.processJson]
  exact JsonPackets.cut_pending _

/-- Outside of SLIP, more than 10 KiB of a connection's data are kept only until it is killed. -/
def Bounded (s : TunnelProxyServer) (o : ObjectId) : Prop :=
  Drained (s.client o) ∧
    ((s.client o).m_slipEnabled = false → (s.client o).bufferSize ≤ 1024 * 10 ∨ Doomed s o)

theorem Bounded.of_same (h : Bounded s o) (hslip : (s'.client o).m_slipEnabled =
    (s.client o).m_slipEnabled) (hbuffer : (s'.client o).m_dataBuffer = (s.client o).m_dataBuffer)
    (hout : ∃ new, s'.output = s.output ++ new) : Bounded s' o := by
  simp only [Bounded,Drained,TunnelProxyClient.bufferSize,hslip,hbuffer]
  exact ⟨h.1,fun hs => (h.2 hs).imp_right fun hd => hd.extended hout⟩

theorem Bounded.setClient (h : Bounded s o) {x : ObjectId} {c : TunnelProxyClient}
    (hslip : c.m_slipEnabled = (s.client x).m_slipEnabled)
    (hbuffer : c.m_dataBuffer = (s.client x).m_dataBuffer) : Bounded (s.setClient x c) o := by
  have hout : ∃ new, (s.setClient x c).output = s.output ++ new := ⟨[],(List.append_nil _).symm⟩
  rcases eq_or_ne o x with rfl | hne
  · refine h.of_same ?_ ?_ hout
    · rw [setClient_client,Function.update_self,hslip]
    · rw [setClient_client,Function.update_self,hbuffer]
  · refine h.of_same ?_ ?_ hout
    · rw [setClient_client,Function.update_of_ne hne]
    · rw [setClient_client,Function.update_of_ne hne]

theorem Bounded.sendData (h : Bounded s o) (x : ObjectId) (m : Message) (data : QByteArray) :
    Bounded (s.sendData x m data) o := by
  have hc : Bounded (s.setClient x ((s.client x).addTxDataCount data.length)) o :=
    h.setClient rfl rfl
  exact hc.of_same rfl rfl ⟨[_],rfl⟩

theorem Bounded.processed (h : Bounded s o) {x : ObjectId} {data : QByteArray}
    (hfits : (s.client x).m_slipEnabled = true ∨ s.overflows x data = false) :
    Bounded (s.processed x data) o := by
  rcases eq_or_ne o x with rfl | hne
  · have hc : (s.processed o data).client o = ((s.client o).processData data).1 :=
      Function.update_self ..
    rw [Bounded,hc]
    refine ⟨drained_processData _ _,fun hslip => ?_⟩
    have hplain : (s.client o).m_slipEnabled = false := hslip
    exact .inl (by simpa [overflows,hplain] using hfits)
  · have hc : (s.processed x data).client o = s.client o := Function.update_of_ne hne _ _
    exact h.of_same (by rw [hc]) (by rw [hc]) ⟨[],(List.append_nil _).symm⟩

theorem Bounded.overflowed (h : Bounded s o) (x : ObjectId) (data : QByteArray)
    (reason : String) : Bounded ((s.processed x data).requestKill x reason) o := by
  rcases eq_or_ne o x with rfl | hne
  · have hc : ((s.processed o data).requestKill o reason).client o =
        ((s.client o).processData data).1 := Function.update_self ..
    rw [Bounded,hc]
    exact ⟨drained_processData _ _,fun _ => .inr (requestKill_doomed _ _ _)⟩
  · have hc : ((s.processed x data).requestKill x reason).client o = s.client o :=
      Function.update_of_ne hne _ _
    exact h.of_same (by rw [hc]) (by rw [hc]) ⟨[_],rfl⟩

theorem Bounded.slipEnabled (h : Bounded s o) (x : ObjectId) :
    Bounded (s.setClient x ((s.client x).setSlipEnabled true)) o := by
  rcases eq_or_ne o x with rfl | hne
  · have hslip : ((s.setClient o ((s.client o).setSlipEnabled true)).client o).m_slipEnabled =
        true := by
      rw [setClient_client,Function.update_self]
      rfl
    rw [Bounded,Drained,hslip]
    exact ⟨fun hs => absurd hs.symm Bool.false_ne_true,
      fun hs => absurd hs.symm Bool.false_ne_true⟩
  · have hc : (s.setClient x ((s.client x).setSlipEnabled true)).client o = s.client o :=
      Function.update_of_ne hne _ _
    exact h.of_same (by rw [hc]) (by rw [hc]) ⟨[],(List.append_nil _).symm⟩

theorem effect_bounded (h : Bounded s o) (hw : Effect env up s s') : Bounded s' o := by
  cases hw with
  | tables hs =>
    exact h.of_same (by rw [hs.client]) (by rw [hs.client])
      ⟨[],by rw [hs.output,List.append_nil]⟩
  | processed hfits => exact h.processed hfits
  | overflowed => exact h.overflowed _ _ _
  | doomed => exact h.setClient rfl rfl
  | registered _ _ =>
    exact h.setClient (by rw [activateClient_eq]; rfl) (by rw [activateClient_eq]; rfl)
  | slipRequested => exact h.setClient rfl rfl
  | slipEnabled => exact h.slipEnabled _
  | @timedOut o' reason =>
    refine Bounded.of_same (s := s.setClient o' _) ?_ rfl rfl ⟨[_],rfl⟩
    exact h.setClient rfl rfl
  | answered _ => exact h.sendData _ _ _
  | notified =>
    have hn : Bounded { s with m_notificationId := s.m_notificationId + 1 } o :=
      h.of_same rfl rfl ⟨[],(List.append_nil _).symm⟩
    exact hn.sendData _ _ _
  | passedUp => exact (h.sendData _ _ _).of_same rfl rfl ⟨[],(List.append_nil _).symm⟩
  | passedDown => exact (h.sendData _ _ _).of_same rfl rfl ⟨[],(List.append_nil _).symm⟩
  | asserted _ => exact h.of_same rfl rfl ⟨[_],rfl⟩
  | killRequested => exact h.of_same rfl rfl ⟨[_],rfl⟩

theorem reachable_bounded (h : Reachable env s) (o : ObjectId) : Bounded s o := by
  have hpending : JsonPackets.Pending [] := ⟨by simp [JsonPackets.separator],rfl⟩
  refine reachable_of_effects (P := fun s => Bounded s o) ?_ ?_ ?_ ?_ ?_ h
  · exact ⟨fun _ => hpending,fun _ => .inl (Nat.zero_le _)⟩
  · intro s id address _ _ h
    rcases eq_or_ne o id with rfl | hne
    · have hc : (admitted env s o address).client o =
          TunnelProxyClient.new address env.inactiveTimeout s.now := Function.update_self ..
      rw [Bounded,hc]
      exact ⟨fun _ => hpending,fun _ => .inl (Nat.zero_le _)⟩
    · have hc : (admitted env s id address).client o = s.client o := Function.update_of_ne hne _ _
      exact h.of_same (by rw [hc]) (by rw [hc]) ⟨[],(List.append_nil _).symm⟩
  · intro s x data h
    rw [received]
    exact h.setClient (by rw [addRxDataCount_eq]) (by rw [addRxDataCount_eq])
  · exact fun s ms h => h
  · exact fun s s' h hw => effect_bounded h hw

/-- Before SLIP, what the proxy keeps of a connection's data is no request, and no more than 10 KiB
unless the connection is being killed. -/
theorem buffers_bounded {events : List Event} (hfresh : FreshRun env new events) (o : ObjectId)
    (hslip : ((new.run env events).client o).m_slipEnabled = false) :
    JsonPackets.Pending ((new.run env events).client o).m_dataBuffer ∧
      (((new.run env events).client o).bufferSize ≤ 1024 * 10 ∨ Doomed (new.run env events) o) := by
  obtain ⟨hdrained,hsize⟩ := reachable_bounded (Reachable.run .new hfresh) o
  exact ⟨hdrained hslip,hsize hslip⟩

/-- A connection stops in the middle of a request. -/
def unfinished : QByteArray := ascii "\x7b\"id\":0,\"method\":"

def stopped : List Event := [.clientConnected ⟨1⟩ "10.0.0.1",.dataAvailable ⟨1⟩ unfinished]

/-- A connection sends more than 10 KiB of blanks. -/
def blanks : QByteArray := List.replicate 10241 0x20

def crammed (data : QByteArray) : List Event :=
  [.clientConnected ⟨2⟩ "10.0.0.2",.dataAvailable ⟨2⟩ data]

theorem blanks_pending : JsonPackets.Pending blanks := by
  have hbrace : JsonPackets.closing ∉ blanks := fun h =>
    absurd (List.eq_of_mem_replicate h) (by decide)
  have hends : ∀ pattern, JsonPackets.closing ∈ pattern → blanks.endsWith pattern = false :=
    fun pattern hp => Bool.eq_false_iff.mpr fun hs =>
      hbrace (((QByteArray.endsWith_iff _ _).mp hs).subset hp)
  refine ⟨fun hi => hbrace (hi.subset (by simp [JsonPackets.separator])),?_⟩
  rw [JsonPackets.endsPacket,hends _ (by simp),hends _ (by simp),Bool.or_self]

theorem crammed_waiting {data : QByteArray} (hdata : JsonPackets.Pending data) :
    Waiting (new.run (sampleEnvironment false) (crammed data)) ⟨2⟩ data := by
  have hw : Waiting (new.run (sampleEnvironment false) [.clientConnected ⟨2⟩ "10.0.0.2"]) ⟨2⟩ [] := by
    decide +kernel
  have hkept : JsonPackets.cut ([] ++ data) = (data,[]) := JsonPackets.cut_of_pending hdata
  rcases hw.silent (sampleEnvironment false) [] (.inl (congrArg Prod.snd hkept)) with
    ⟨-,-,honce⟩ | ⟨-,hstanding,-⟩
  · cases honce
  · rw [hkept] at hstanding
    exact hw.congr hstanding

/-- The kill of the connection that sends too much is reported later. -/
theorem buffers_bounded_sample :
    (((new.run (sampleEnvironment false) stopped).client ⟨1⟩).m_dataBuffer = unfinished ∧
      JsonPackets.Pending ((new.run (sampleEnvironment false) stopped).client ⟨1⟩).m_dataBuffer ∧
      (((new.run (sampleEnvironment false) stopped).client ⟨1⟩).bufferSize ≤ 1024 * 10 ∨
        Doomed (new.run (sampleEnvironment false) stopped) ⟨1⟩)) ∧
    ((new.run (sampleEnvironment false) (crammed blanks)).client ⟨2⟩).m_dataBuffer = blanks ∧
    JsonPackets.Pending ((new.run (sampleEnvironment false) (crammed blanks)).client ⟨2⟩).m_dataBuffer ∧
    (((new.run (sampleEnvironment false) (crammed blanks)).client ⟨2⟩).bufferSize ≤ 1024 * 10 ∨
      Doomed (new.run (sampleEnvironment false) (crammed blanks)) ⟨2⟩) :=
  ⟨⟨by decide +kernel,buffers_bounded (by decide +kernel) ⟨1⟩ (by decide +kernel)⟩,
    (crammed_waiting blanks_pending).buffer,
    buffers_bounded (by decide +kernel) ⟨2⟩ (crammed_waiting blanks_pending).plain⟩

end Buffers

section Silence

/-- The time, when `o` was connected, and when it last sent something. -/
structure Clock where
  now : Nat
  openedAt : Nat
  heardAt : Nat

def Clock.tick (o : ObjectId) (c : Clock) : Event → Clock
  | .clientConnected id _ => if id = o then { c with openedAt := c.now } else c
  | .dataAvailable id data => if id = o ∧ data ≠ [] then { c with heardAt := c.now } else c
  | .elapse ms => { c with now := c.now + ms }
  | _ => c

def clock (o : ObjectId) (events : List Event) : Clock := events.foldl (Clock.tick o) ⟨0,0,0⟩

def limit (env : Environment) (c : Clock) : ClientType → Option Nat
  | .TypeNone => some (c.openedAt + env.inactiveTimeout)
  | .TypeClient => none
  | .TypeServer => some (c.heardAt + 60000)

/-- The timer of a connection expires at its limit, which is not over. -/
structure Timing (env : Environment) (c : Clock) (client : TunnelProxyClient) : Prop where
  deadline : client.m_inactiveTimer.deadline = limit env c client.m_type
  connected : client.rxDataCountConnected = decide (client.m_type = .TypeServer)
  interval : client.m_type = .TypeServer → client.m_inactiveTimer.interval = 60000
  ahead : ∀ d, client.m_inactiveTimer.deadline = some d → c.now ≤ d

variable {c : Clock} {client client' : TunnelProxyClient}

theorem Timing.congr (h : Timing env c client) (htype : client'.m_type = client.m_type)
    (hconnected : client'.rxDataCountConnected = client.rxDataCountConnected)
    (htimer : client'.m_inactiveTimer = client.m_inactiveTimer) : Timing env c client' :=
  ⟨by rw [htimer,htype]; exact h.deadline,by rw [hconnected,htype]; exact h.connected,
    by rw [htimer,htype]; exact h.interval,by rw [htimer]; exact h.ahead⟩

theorem started_ahead {interval now d : Nat} (h : some (now + interval) = some d) : now ≤ d := by
  have := Option.some.inj h
  omega

theorem Timing.new (address : String) :
    Timing env { c with openedAt := c.now } (TunnelProxyClient.new address env.inactiveTimeout c.now) :=
  ⟨rfl,rfl,fun h => (by cases h),fun _ h => started_ahead h⟩

theorem Timing.activate (h : Timing env c client) (hheard : c.heardAt = c.now)
    {type : ClientType} (htype : type ≠ .TypeNone) (hnone : client.m_type = .TypeNone)
    (uuid : QUuid) (name : String) :
    Timing env c ((((client.setType type).setUuid uuid).setName name).activateClient c.now) := by
  have hconnected := h.connected
  rw [hnone] at hconnected
  cases type with
  | TypeNone => exact absurd rfl htype
  | TypeClient => exact ⟨rfl,hconnected,fun h => (by cases h),fun _ h => by cases h⟩
  | TypeServer => exact ⟨by rw [← hheard]; rfl,rfl,fun _ => rfl,fun _ h => started_ahead h⟩

theorem Timing.received (h : Timing env c client) {count : Nat} (hcount : 0 < count) :
    Timing env { c with heardAt := c.now } (client.addRxDataCount c.now count) := by
  by_cases hserver : client.m_type = .TypeServer
  · have hon : client.rxDataCountConnected = true := h.connected.trans (decide_eq_true hserver)
    have heq : client.addRxDataCount c.now count =
        { client with
          m_rxDataCount := client.m_rxDataCount + .ofNat count
          m_inactiveTimer := client.m_inactiveTimer.start c.now } := if_pos ⟨hcount,hon⟩
    rw [heq]
    refine ⟨?_,h.connected,h.interval,fun _ h => started_ahead h⟩
    simp only [QTimer.start,hserver,limit,h.interval hserver]
  · have hoff : client.rxDataCountConnected = false := h.connected.trans (decide_eq_false hserver)
    have heq : client.addRxDataCount c.now count =
        { client with m_rxDataCount := client.m_rxDataCount + .ofNat count } :=
      if_neg fun hand => by rw [hoff] at hand; cases hand.2
    rw [heq]
    refine ⟨?_,h.connected,h.interval,h.ahead⟩
    have hdeadline := h.deadline
    cases hm : client.m_type with
    | TypeServer => exact absurd hm hserver
    | TypeNone => rw [hm] at hdeadline; exact hdeadline
    | TypeClient => rw [hm] at hdeadline; exact hdeadline

def Timed (env : Environment) (o : ObjectId) (c : Clock) (s : TunnelProxyServer) : Prop :=
  s.live o → Doomed s o ∨ Timing env c (s.client o)

theorem Timed.congr (h : Timed env o c s) (hlive : s'.live o → s.live o)
    (hout : ∃ new, s'.output = s.output ++ new)
    (htype : (s'.client o).m_type = (s.client o).m_type)
    (hconnected : (s'.client o).rxDataCountConnected = (s.client o).rxDataCountConnected)
    (htimer : (s'.client o).m_inactiveTimer = (s.client o).m_inactiveTimer) : Timed env o c s' := by
  intro hl
  exact (h (hlive hl)).imp (fun hd => hd.extended hout) fun ht => ht.congr htype hconnected htimer

theorem Timed.setClient (h : Timed env o c s) {x : ObjectId} {client : TunnelProxyClient}
    (htype : client.m_type = (s.client x).m_type)
    (hconnected : client.rxDataCountConnected = (s.client x).rxDataCountConnected)
    (htimer : client.m_inactiveTimer = (s.client x).m_inactiveTimer) :
    Timed env o c (s.setClient x client) := by
  have hsame : Unmoved o s (s.setClient x client) := .setClient htype hconnected htimer
  exact h.congr hsame.live ⟨[],(List.append_nil _).symm⟩ hsame.type hsame.connected hsame.timer

theorem Timed.sendData (h : Timed env o c s) (x : ObjectId) (m : Message) (data : QByteArray) :
    Timed env o c (s.sendData x m data) := by
  have hsame : Unmoved o s (s.sendData x m data) := sendData_unmoved s x m data
  exact h.congr hsame.live ⟨[_],rfl⟩ hsame.type hsame.connected hsame.timer

theorem Timed.of_same (h : Timed env o c s) (hlive : s'.live o → s.live o)
    (hout : ∃ new, s'.output = s.output ++ new) (hc : s'.client = s.client) : Timed env o c s' :=
  h.congr hlive hout (by rw [hc]) (by rw [hc]) (by rw [hc])

theorem Timed.killed (h : Timed env o c s) {x : ObjectId} {client : TunnelProxyClient}
    (reason : String) : Timed env o c ((s.setClient x client).requestKill x reason) := by
  rcases eq_or_ne o x with rfl | hne
  · exact fun _ => .inl (requestKill_doomed _ _ _)
  · have hc : ((s.setClient x client).requestKill x reason).client o = s.client o :=
      Function.update_of_ne hne _ _
    exact h.congr id ⟨[_],rfl⟩ (by rw [hc]) (by rw [hc]) (by rw [hc])

theorem Timed.registered (h : Timed env o c s) (hnow : c.now = s.now) (hheard : c.heardAt = c.now)
    {x : ObjectId} {type : ClientType} (htype : type ≠ .TypeNone)
    (hnone : (s.client x).m_type = .TypeNone) (uuid : QUuid) (name : String) :
    Timed env o c (s.registeredAs x type uuid name) := by
  rcases eq_or_ne o x with rfl | hne
  · intro hl
    refine (h hl).imp id fun ht => ?_
    rw [registeredAs,setClient_client,Function.update_self,← hnow]
    exact ht.activate hheard htype hnone uuid name
  · have hc : (s.registeredAs x type uuid name).client o = s.client o :=
      Function.update_of_ne hne _ _
    exact h.congr id ⟨[],(List.append_nil _).symm⟩ (by rw [hc]) (by rw [hc]) (by rw [hc])

theorem effect_timed (h : Timed env o c s) (hnow : c.now = s.now) (hheard : c.heardAt = c.now)
    (hw : Effect env up s s') : Timed env o c s' := by
  have hnotified : ∀ n : Int32, Timed env o c { s with m_notificationId := n } :=
    fun _ => h.of_same id ⟨[],(List.append_nil _).symm⟩ rfl
  cases hw with
  | tables hs => exact h.of_same (hs.proxyClients o o) ⟨[],by rw [hs.output,List.append_nil]⟩ hs.client
  | processed _ => exact h.setClient rfl rfl rfl
  | overflowed => exact h.killed _
  | doomed => exact h.setClient rfl rfl rfl
  | registered htype hnone => exact h.registered hnow hheard htype hnone _ _
  | slipRequested => exact h.setClient rfl rfl rfl
  | slipEnabled => exact h.setClient rfl rfl rfl
  | timedOut => exact h.killed _
  | answered _ => exact h.sendData _ _ _
  | notified => exact (hnotified _).sendData _ _ _
  | passedUp => exact (h.sendData _ _ _).of_same id ⟨[],(List.append_nil _).symm⟩ rfl
  | passedDown => exact (h.sendData _ _ _).of_same id ⟨[],(List.append_nil _).symm⟩ rfl
  | asserted _ => exact h.of_same id ⟨[_],rfl⟩ rfl
  | killRequested => exact h.of_same id ⟨[_],rfl⟩ rfl

theorem effect_now (hw : Effect env up s s') : s'.now = s.now := by
  cases hw with
  | tables hs => exact hs.now
  | _ => rfl

theorem effects_timed (h : Timed env o c s) (hnow : c.now = s.now) (hheard : c.heardAt = c.now)
    (hw : Effects env up s s') : Timed env o c s' := by
  have hall : c.now = s'.now ∧ Timed env o c s' := by
    refine effects_keep (P := fun t => c.now = t.now ∧ Timed env o c t) ?_ hw ⟨hnow,h⟩
    intro t t' ht hw
    exact ⟨ht.1.trans (effect_now hw).symm,effect_timed ht.2 ht.1 hheard hw⟩
  exact hall.2

theorem step_output (env : Environment) (hc : Consistent [] s) {event : Event} (hfresh : s.Fresh event) :
    ∃ new, (s.step env event).output = s.output ++ new := by
  have hstep := stepped env hc hfresh
  generalize s.step env event = t at hstep ⊢
  cases hstep with
  | admitted _ => exact ⟨[],(List.append_nil _).symm⟩
  | received _ hw => exact effects_output (s := s.received _ _) hw
  | ignored _ => exact ⟨[],(List.append_nil _).symm⟩
  | left hw => exact effects_output hw
  | timedOut hw => exact effects_output hw
  | elapsed => exact ⟨[],(List.append_nil _).symm⟩

structure Untouched (o : ObjectId) (s s' : TunnelProxyServer) : Prop where
  live : s'.live o → s.live o
  type : (s'.client o).m_type = (s.client o).m_type
  connected : (s'.client o).rxDataCountConnected = (s.client o).rxDataCountConnected
  timer : (s'.client o).m_inactiveTimer = (s.client o).m_inactiveTimer

theorem Untouched.of_client (hlive : s'.live o → s.live o) (hc : s'.client o = s.client o) :
    Untouched o s s' := ⟨hlive,by rw [hc],by rw [hc],by rw [hc]⟩

theorem Untouched.of_kept (hk : Kept s s') : Untouched o s s' := by
  have hclient := hk.client o
  refine ⟨hk.proxyClients o o,?_,?_,?_⟩
  · rw [hclient]
  · rw [hclient]
  · rw [hclient]

theorem Untouched.trans (h : Untouched o s s') (h' : Untouched o s' t) : Untouched o s t :=
  ⟨fun hl => h.live (h'.live hl),h'.type.trans h.type,h'.connected.trans h.connected,
    h'.timer.trans h.timer⟩

theorem Timed.untouched (h : Timed env o c s) (hu : Untouched o s s')
    (hout : ∃ new, s'.output = s.output ++ new) : Timed env o c s' :=
  h.congr hu.live hout hu.type hu.connected hu.timer

theorem act_untouched {X : ObjectId} {server : QUuid → Prop} {client : ObjectId → Prop}
    {a a' : Config} (hc : Consistent a.1 a.2) (h : Act env X server client a a') (hne : o ≠ X) :
    Untouched o a.2 a'.2 := by
  rcases h.cases with hown | ⟨hid,address,rfl⟩ | ⟨uuid,name,-,-,-,rfl⟩ |
    ⟨uuid,name,x,-,-,-,rfl⟩ | hk
  · exact .of_client (hown.same.live_iff o).mp (hown.others o hne)
  · refine .of_client (fun hl => ?_) ?_
    · dsimp only at hl
      rw [onClientConnected_eq env hc hid] at hl
      rwa [TunnelProxyServer.live,QHash.value_insert,if_neg hne] at hl
    · dsimp only
      rw [onClientConnected_eq env hc hid]
      exact Function.update_of_ne hne _ _
  · have he := acceptServer_entered a.2 X uuid name
    exact .of_client (he.live_iff o).mp (he.others o hne)
  · have he := attachClient_entered a.2 X uuid name x
    have hattached : Untouched o a.2 (a.2.attachClient X uuid name x) :=
      .of_client (he.live_iff o).mp (he.others o hne)
    exact hattached.trans (.of_kept (.sendNotification env _ _ _ _ _))
  · exact .of_kept hk

theorem acts_untouched {X : ObjectId} {server : QUuid → Prop} {client : ObjectId → Prop}
    {a a' : Config} (hc : Consistent a.1 a.2)
    (h : ReflTransGen (Act env X server client) a a') (hne : o ≠ X) : Untouched o a.2 a'.2 := by
  induction h with
  | refl => exact .of_client id rfl
  | tail hacts hact ih => exact ih.trans (act_untouched (acts_consistent hc hacts) hact hne)

theorem step_untouched (hc : Consistent [] s) {event : Event} (hfresh : s.Fresh event)
    (hne : o ≠ event.actor) : Untouched o s (s.step env event) :=
  acts_untouched (a := ([],s)) hc (step_does s event hfresh hc) hne

theorem items_empty (hb : Bounded s o) (hclient : (s.client o).m_type ≠ .TypeClient) :
    s.items o [] = [] := by
  have hnothing : ((s.client o).processData []).2 = [] := by
    cases hslip : (s.client o).m_slipEnabled with
    | true =>
      simp only [TunnelProxyClient.processData,hslip,if_true]
      rfl
    | false =>
      simp only [TunnelProxyClient.processData,hslip,Bool.false_eq_true,if_false]
      have hcut := JsonPackets.cut_of_pending (hb.1 hslip)
      rw [TunnelProxyClient.processJson,JsonPackets.processData_eq,List.append_nil]
      exact congrArg Prod.snd hcut
  simp [items,hclient,hnothing]

theorem Unmoved.untouched (h : Unmoved o s s') : Untouched o s s' :=
  ⟨h.live,h.type,h.connected,h.timer⟩

theorem empty_untouched (h : Reachable env s) (hlive : s.live o) :
    Untouched o s (onClientDataAvailable env s o []) := by
  have hc := reachable_consistent h
  have hnamed : NamedById s := fun u x hx => hc.named u x hx
  have hreceived : Untouched o s (s.received o []) :=
    Unmoved.untouched (.setClient rfl rfl rfl)
  by_cases hnone : (s.client o).m_type = .TypeNone
  · have htype : ((s.received o []).client o).m_type = .TypeNone := hreceived.type.trans hnone
    have hbounded : Bounded (s.received o []) o := (reachable_bounded h o).setClient rfl rfl
    have hitems : (s.received o []).items o [] = [] :=
      items_empty hbounded (by rw [htype]; decide)
    rw [onClientDataAvailable_eq env hlive,hitems]
    exact hreceived.trans (Unmoved.untouched (buffered_unmoved _ o []))
  · have htype : ((s.received o []).client o).m_type ≠ .TypeNone := by
      rwa [hreceived.type]
    exact hreceived.trans (Unmoved.untouched (dataAvailable_unmoved hnamed hlive htype))

theorem data_timed (h : Reachable env s) (ht : Timed env o c s) (hnow : c.now = s.now)
    (hlive : s.live o) (data : QByteArray) :
    Timed env o (c.tick o (.dataAvailable o data)) (onClientDataAvailable env s o data) := by
  by_cases hdata : data = []
  · subst hdata
    simp only [Clock.tick,ne_eq,not_true_eq_false,and_false,if_false]
    have hfresh : s.Fresh (.dataAvailable o []) := trivial
    have hout := step_output env (reachable_consistent h) hfresh
    exact ht.untouched (empty_untouched h hlive) hout
  · simp only [Clock.tick,ne_eq,hdata,not_false_eq_true,and_self,if_true]
    have hreceived : Timed env o { c with heardAt := c.now } (s.received o data) := by
      intro hl
      have hc : (s.received o data).client o = (s.client o).addRxDataCount c.now data.length := by
        rw [hnow]
        exact Function.update_self ..
      rw [hc]
      exact (ht hl).imp id fun ht => ht.received (List.length_pos_iff.mpr hdata)
    exact effects_timed hreceived hnow rfl
      (effects_of_deeds (deeds_dataAvailable (reachable_consistent h) hlive data))

def OnTime (o : ObjectId) (s : TunnelProxyServer) : Event → Prop
  | .elapse ms =>
    s.m_proxyClients.value o = some o →
      ∀ d ∈ (s.client o).m_inactiveTimer.deadline, s.now + ms ≤ d
  | _ => True

instance decidableOnTime (o : ObjectId) (s : TunnelProxyServer) :
    (event : Event) → Decidable (OnTime o s event)
  | .clientConnected _ _ => inferInstanceAs (Decidable True)
  | .clientDisconnected _ => inferInstanceAs (Decidable True)
  | .dataAvailable _ _ => inferInstanceAs (Decidable True)
  | .inactiveTimeout _ => inferInstanceAs (Decidable True)
  | .elapse ms => inferInstanceAs (Decidable (_ → ∀ d ∈ _, s.now + ms ≤ d))

theorem step_timed (h : Reachable env s) (ht : Timed env o c s) (hnow : c.now = s.now)
    {event : Event} (hfresh : s.Fresh event) (hontime : OnTime o s event) :
    Timed env o (c.tick o event) (s.step env event) := by
  have hc := reachable_consistent h
  have hout := step_output env hc hfresh
  have hother : o ≠ event.actor → Timed env o c (s.step env event) :=
    fun hne => ht.untouched (step_untouched hc hfresh hne) hout
  cases event with
  | clientConnected id address =>
    rcases eq_or_ne o id with rfl | hne
    · rw [Clock.tick,if_pos rfl]
      intro _
      have hnew : (s.step env (.clientConnected o address)).client o =
          TunnelProxyClient.new address env.inactiveTimeout c.now := by
        rw [step,onClientConnected_eq env hc hfresh,hnow]
        exact Function.update_self ..
      rw [hnew]
      exact .inr (Timing.new address)
    · rw [Clock.tick,if_neg hne.symm]
      exact hother hne
  | clientDisconnected id =>
    exact ht.untouched (Unmoved.untouched (onClientDisconnectedWithin_unmoved _ s id)) hout
  | dataAvailable id data =>
    rcases eq_or_ne o id with rfl | hne
    · by_cases hlive : s.live o
      · exact data_timed h ht hnow hlive data
      · have hgone : s.m_proxyClients.value o = none := by
          cases hv : s.m_proxyClients.value o with
          | none => rfl
          | some x =>
            obtain rfl := hc.named o x hv
            exact absurd hv hlive
        intro hl
        simp only [step,onClientDataAvailable,hgone] at hl
        exact absurd hl hlive
    · rw [Clock.tick,if_neg fun hand => hne hand.1.symm]
      exact hother hne
  | inactiveTimeout id =>
    rcases eq_or_ne o id with rfl | hne
    · simp only [Clock.tick,step,inactiveTimeout]
      split
      · exact ht
      · next x hv =>
        obtain rfl := hc.named o x hv
        split
        · intro _
          exact .inl (killConnection_doomed env _ _ _)
        · exact ht
    · exact hother hne
  | elapse ms =>
    intro hl
    refine (ht hl).imp id fun ht => ⟨ht.deadline,ht.connected,ht.interval,?_⟩
    intro d hd
    simp only [Clock.tick]
    rw [hnow]
    exact hontime hl d hd

theorem effects_now (hw : Effects env up s s') : s'.now = s.now :=
  effects_keep (P := fun t => t.now = s.now) (fun _ _ ht hw => (effect_now hw).trans ht) hw rfl

theorem step_now (hc : Consistent [] s) {event : Event} (hfresh : s.Fresh event)
    (hnow : c.now = s.now) : (c.tick o event).now = (s.step env event).now := by
  have hstep := stepped env hc hfresh
  generalize s.step env event = t at hstep ⊢
  cases hstep with
  | admitted _ => simpa only [Clock.tick,apply_ite Clock.now,ite_self,admitted] using hnow
  | @received x data _ _ hw =>
    have hkept : t.now = (s.received x data).now := effects_now hw
    have hsame : (s.received x data).now = s.now := rfl
    simpa only [Clock.tick,apply_ite Clock.now,ite_self,hkept,hsame] using hnow
  | ignored _ => simpa only [Clock.tick,apply_ite Clock.now,ite_self] using hnow
  | left hw => exact hnow.trans (effects_now hw).symm
  | timedOut hw => exact hnow.trans (effects_now hw).symm
  | elapsed => exact congrArg (· + _) hnow

theorem run_timed {events : List Event} (h : Reachable env s) (hfresh : FreshRun env s events)
    (hontime : Runs.Along (step env) (OnTime o) s events) (ht : Timed env o c s)
    (hnow : c.now = s.now) : Timed env o (events.foldl (Clock.tick o) c) (s.run env events) ∧
      (events.foldl (Clock.tick o) c).now = (s.run env events).now := by
  induction events generalizing s c with
  | nil => exact ⟨ht,hnow⟩
  | cons event events ih =>
    have hnext := step_timed h ht hnow hfresh.1 hontime.1
    exact ih (h.step hfresh.1) hfresh.2 hontime.2 hnext
      (step_now (reachable_consistent h) hfresh.1 hnow)

/-- Where timers expire on time, whoever has not registered is killed once the inactivity timeout is
over, a server that is silent for a minute is, and a client never is. -/
theorem silence_bounded {events : List Event} (hfresh : FreshRun env new events) (o : ObjectId)
    (hontime : Runs.Along (step env) (OnTime o) new events) (hlive : (new.run env events).live o) :
    let s := new.run env events
    let allowed := limit env (clock o events) (s.client o).m_type
    Doomed s o ∨ (s.client o).m_inactiveTimer.deadline = allowed ∧
      ∀ d, allowed = some d → s.now ≤ d := by
  have hempty : Timed env o ⟨0,0,0⟩ new := fun hl => by simp [TunnelProxyServer.live,new] at hl
  obtain ⟨ht,hnow⟩ := run_timed .new hfresh hontime hempty rfl
  refine (ht hlive).imp id fun ht => ⟨ht.deadline,fun d hd => ?_⟩
  rw [← hnow]
  exact ht.ahead d (ht.deadline.trans hd)

/-- A server that registers, sends one more byte half a minute later, and then nothing. -/
def silentEvents : List Event :=
  [.clientConnected ⟨1⟩ "10.0.0.1",.elapse 8000,
    .dataAvailable ⟨1⟩ (request false registerServerRequest),.elapse 30000,
    .dataAvailable ⟨1⟩ [0xC0],.elapse 60000]

theorem silence_bounded_server :
    let s := new.run (sampleEnvironment false) silentEvents
    let allowed := limit (sampleEnvironment false) (clock ⟨1⟩ silentEvents) (s.client ⟨1⟩).m_type
    Doomed s ⟨1⟩ ∨ (s.client ⟨1⟩).m_inactiveTimer.deadline = allowed ∧
      ∀ d, allowed = some d → s.now ≤ d :=
  silence_bounded (by decide +kernel) ⟨1⟩ (by decide +kernel) (by
    rw [TunnelProxyServer.live]
    decide +kernel)

end Silence

end RemoteProxy.TunnelProxyServer
