import Mathlib.Data.Finset.Card
import Mathlib.Data.Finset.Dedup
import Mathlib.Tactic.Common
import RemoteProxy.Proxy.ServerConnection

namespace RemoteProxy.AddressAllocation

open TunnelProxyServerConnection

inductive Call where
  | registerClientConnection (object : ObjectId)
  | unregisterClientConnection (object : ObjectId)

structure State where
  server : TunnelProxyServerConnection
  client : ObjectId → TunnelProxyClientConnection
  attached : List ObjectId
  registered : List ObjectId

def State.initial (transportClient : ObjectId) (serverUuid : QUuid) (serverName : String)
    (client : ObjectId → TunnelProxyClientConnection) : State :=
  ⟨TunnelProxyServerConnection.new transportClient serverUuid serverName,client,[],[]⟩

def State.address (s : State) (object : ObjectId) : UInt16 := (s.client object).m_socketAddress

def step (s : State) : Call → State
  | .registerClientConnection object =>
    let r := registerClientConnection s.server.m_transportClient s.server object (s.client object)
    ⟨r.1,Function.update s.client object r.2,s.attached ++ [object],s.registered ++ [object]⟩
  | .unregisterClientConnection object =>
    let r := unregisterClientConnection s.server (s.client object)
    ⟨r.1,Function.update s.client object r.2,s.attached.erase object,s.registered⟩

def run (s : State) (calls : List Call) : State := calls.foldl step s

def Admissible (s : State) : Call → Prop
  | .registerClientConnection object =>
    object ∉ s.registered ∧ s.attached.length < s.server.m_connectionLimit.toNat
  | .unregisterClientConnection object => object ∈ s.attached

def AdmissibleRun (s : State) : List Call → Prop
  | [] => True
  | call :: calls => Admissible s call ∧ AdmissibleRun (step s call) calls

instance (s : State) : (call : Call) → Decidable (Admissible s call)
  | .registerClientConnection object => inferInstanceAs (Decidable (object ∉ s.registered ∧ _))
  | .unregisterClientConnection object => inferInstanceAs (Decidable (object ∈ s.attached))

instance decidableAdmissibleRun : (s : State) → (calls : List Call) →
    Decidable (AdmissibleRun s calls)
  | _, [] => inferInstanceAs (Decidable True)
  | s, call :: calls =>
    have := decidableAdmissibleRun (step s call) calls
    inferInstanceAs (Decidable (Admissible s call ∧ AdmissibleRun (step s call) calls))

structure Consistent (s : State) : Prop where
  unreserved : ∀ c ∈ s.attached, s.address c ≠ 0x0000 ∧ s.address c ≠ 0xFFFF
  distinct : ∀ c ∈ s.attached, ∀ d ∈ s.attached, s.address c = s.address d → c = d
  found : ∀ c ∈ s.attached, s.server.getClientConnection (s.address c) = some c
  absent : ∀ a, (∀ c ∈ s.attached, s.address c ≠ a) → s.server.getClientConnection a = none

/-- One of the addresses from the counter up to the one the probe stops at is free. -/
def FreeInReach (s : TunnelProxyServerConnection) : Prop :=
  ∃ k ≤ s.m_connectionLimit.toNat,
    s.blocked (s.m_currentAddressCounter + 1 + UInt16.ofNat k) = false

def CallInReach (s : State) : Call → Prop
  | .registerClientConnection _ => FreeInReach s.server
  | .unregisterClientConnection _ => True

structure Bookkeeping (s : State) : Prop where
  nodup : s.attached.Nodup
  registered : ∀ c ∈ s.attached, c ∈ s.registered

theorem freeInReach_iff (s : TunnelProxyServerConnection) :
    FreeInReach s ↔ s.blocked s.getFreeAddress.2 = false := by
  have h := getFreeAddress_blocked_iff s
  rw [← Bool.not_eq_true,h]
  simp only [FreeInReach,not_forall,Bool.not_eq_true,exists_prop]

theorem attached_of_found {s : State} (h : Consistent s) {a : UInt16} {c : ObjectId}
    (hc : s.server.getClientConnection a = some c) : c ∈ s.attached ∧ s.address c = a := by
  by_contra hn
  have habs : ∀ d ∈ s.attached, s.address d ≠ a := by
    intro d hd he
    have hf := h.found d hd
    rw [he,hc,Option.some.injEq] at hf
    exact hn ⟨hf ▸ hd,hf ▸ he⟩
  rw [h.absent a habs] at hc
  exact absurd hc (by simp)

section Step

variable {s : State} {object : ObjectId}

theorem address_register_self :
    (step s (.registerClientConnection object)).address object = s.server.getFreeAddress.2 := by
  simp [State.address,step]

theorem address_register_ne {c : ObjectId} (h : c ≠ object) :
    (step s (.registerClientConnection object)).address c = s.address c := by
  simp [State.address,step,h]

theorem address_unregister_ne {c : ObjectId} (h : c ≠ object) :
    (step s (.unregisterClientConnection object)).address c = s.address c := by
  simp [State.address,step,h]

theorem found_register (a : UInt16) :
    (step s (.registerClientConnection object)).server.getClientConnection a =
      if a = s.server.getFreeAddress.2 then some object else s.server.getClientConnection a :=
  getClientConnection_register _ _ _ _ a

theorem found_unregister (a : UInt16) :
    (step s (.unregisterClientConnection object)).server.getClientConnection a =
      if a = s.address object then none else s.server.getClientConnection a :=
  getClientConnection_unregister _ _ a

theorem mem_attached_register {c : ObjectId} :
    c ∈ (step s (.registerClientConnection object)).attached ↔ c ∈ s.attached ∨ c = object := by
  simp [step]

theorem mem_attached_unregister (hb : Bookkeeping s) {c : ObjectId} :
    c ∈ (step s (.unregisterClientConnection object)).attached ↔ c ≠ object ∧ c ∈ s.attached :=
  hb.nodup.mem_erase_iff

theorem bookkeeping_step (hb : Bookkeeping s) {call : Call} (ha : Admissible s call) :
    Bookkeeping (step s call) := by
  cases call with
  | registerClientConnection object =>
    have hn : object ∉ s.attached := fun h => ha.1 (hb.registered object h)
    constructor
    · refine List.nodup_append.mpr ⟨hb.nodup,by simp,?_⟩
      intro c hc d hd he
      rw [he,List.mem_singleton.mp hd] at hc
      exact hn hc
    · intro c hc
      rcases mem_attached_register.mp hc with hc | rfl
      · exact List.mem_append_left _ (hb.registered c hc)
      · simp [step]
  | unregisterClientConnection object =>
    constructor
    · exact hb.nodup.erase object
    · intro c hc
      exact hb.registered c ((mem_attached_unregister hb).mp hc).2

theorem register_consistent (hb : Bookkeeping s) (h : Consistent s) (hn : object ∉ s.registered)
    (hf : s.server.blocked s.server.getFreeAddress.2 = false) :
    Consistent (step s (.registerClientConnection object)) := by
  obtain ⟨hfree,hzero,hmax⟩ := blocked_eq_false.mp hf
  have hne : ∀ c ∈ s.attached, c ≠ object := fun c hc he => hn (he ▸ hb.registered c hc)
  have hother : ∀ c ∈ s.attached, s.address c ≠ s.server.getFreeAddress.2 := by
    intro c hc he
    rw [← he,h.found c hc] at hfree
    exact absurd hfree (by simp)
  constructor
  · intro c hc
    rcases mem_attached_register.mp hc with hc | rfl
    · rw [address_register_ne (hne c hc)]
      exact h.unreserved c hc
    · rw [address_register_self]
      exact ⟨hzero,hmax⟩
  · intro c hc d hd he
    rw [mem_attached_register] at hc hd
    rcases hc with hc | hc <;> rcases hd with hd | hd
    · rw [address_register_ne (hne c hc),address_register_ne (hne d hd)] at he
      exact h.distinct c hc d hd he
    · rw [address_register_ne (hne c hc),hd,address_register_self] at he
      exact absurd he (hother c hc)
    · rw [hc,address_register_self,address_register_ne (hne d hd)] at he
      exact absurd he.symm (hother d hd)
    · rw [hc,hd]
  · intro c hc
    rcases mem_attached_register.mp hc with hc | rfl
    · rw [address_register_ne (hne c hc),found_register,if_neg (hother c hc)]
      exact h.found c hc
    · rw [address_register_self,found_register,if_pos rfl]
  · intro a ha
    have hself := ha object (mem_attached_register.mpr (.inr rfl))
    rw [address_register_self] at hself
    rw [found_register,if_neg (Ne.symm hself)]
    refine h.absent a fun c hc => ?_
    have := ha c (mem_attached_register.mpr (.inl hc))
    rwa [address_register_ne (hne c hc)] at this

theorem register_inconsistent (hb : Bookkeeping s) (h : Consistent s) (hn : object ∉ s.registered)
    (hf : s.server.blocked s.server.getFreeAddress.2 = true) :
    ¬ Consistent (step s (.registerClientConnection object)) := by
  intro h'
  have hself := mem_attached_register (s := s).mpr (.inr (rfl : object = object))
  have hres := h'.unreserved object hself
  rw [address_register_self] at hres
  cases hg : s.server.getClientConnection s.server.getFreeAddress.2 with
  | none => exact absurd (blocked_eq_false.mpr ⟨hg,hres⟩) (by simp [hf])
  | some c =>
    obtain ⟨hc,he⟩ := attached_of_found h hg
    have hne : c ≠ object := fun e => hn (e ▸ hb.registered c hc)
    refine hne (h'.distinct c (mem_attached_register.mpr (.inl hc)) object hself ?_)
    rw [address_register_ne hne,address_register_self,he]

theorem unregister_consistent (hb : Bookkeeping s) (h : Consistent s) (hc : object ∈ s.attached) :
    Consistent (step s (.unregisterClientConnection object)) := by
  constructor
  · intro c hm
    obtain ⟨hne,hm⟩ := (mem_attached_unregister hb).mp hm
    rw [address_unregister_ne hne]
    exact h.unreserved c hm
  · intro c hm d hd he
    obtain ⟨hne,hm⟩ := (mem_attached_unregister hb).mp hm
    obtain ⟨hne',hd⟩ := (mem_attached_unregister hb).mp hd
    rw [address_unregister_ne hne,address_unregister_ne hne'] at he
    exact h.distinct c hm d hd he
  · intro c hm
    obtain ⟨hne,hm⟩ := (mem_attached_unregister hb).mp hm
    rw [address_unregister_ne hne,found_unregister,if_neg fun e => hne (h.distinct c hm object hc e)]
    exact h.found c hm
  · intro a ha
    rw [found_unregister]
    split
    · rfl
    · next hself =>
      refine h.absent a fun c hm he => ?_
      by_cases hco : c = object
      · exact hself (hco ▸ he.symm)
      · have := ha c ((mem_attached_unregister hb).mpr ⟨hco,hm⟩)
        rw [address_unregister_ne hco] at this
        exact this he

theorem step_consistent_iff (hb : Bookkeeping s) (h : Consistent s) {call : Call}
    (ha : Admissible s call) : Consistent (step s call) ↔ CallInReach s call := by
  cases call with
  | registerClientConnection object =>
    rw [CallInReach,freeInReach_iff]
    constructor
    · intro h'
      by_contra hf
      exact register_inconsistent hb h ha.1 (by simpa using hf) h'
    · exact register_consistent hb h ha.1
  | unregisterClientConnection object =>
    exact ⟨fun _ => trivial,fun _ => unregister_consistent hb h ha⟩

end Step

theorem run_consistent_iff {s : State} (hb : Bookkeeping s) (h : Consistent s) (calls : List Call)
    (ha : AdmissibleRun s calls) :
    (∀ pre, pre <+: calls → Consistent (run s pre)) ↔
      ∀ pre call, pre ++ [call] <+: calls → CallInReach (run s pre) call := by
  induction calls generalizing s with
  | nil =>
    constructor
    · intro _ pre call hp
      simp at hp
    · intro _ pre hp
      rw [List.prefix_nil.mp hp]
      exact h
  | cons c cs ih =>
    obtain ⟨hc,hcs⟩ := ha
    have hstep := step_consistent_iff hb h hc
    constructor
    · intro hall pre call hp
      have hs : Consistent (step s c) := hall [c] (by simp)
      have hrest := (ih (bookkeeping_step hb hc) hs hcs).mp fun pre hpre =>
        hall (c :: pre) (by simpa using hpre)
      cases pre with
      | nil =>
        obtain rfl : call = c := by simpa using hp
        exact hstep.mp hs
      | cons d pre =>
        rw [List.cons_append,List.cons_prefix_cons] at hp
        obtain ⟨rfl,hp⟩ := hp
        exact hrest pre call hp
    · intro hall pre hp
      have hs : Consistent (step s c) := hstep.mpr (hall [] c (by simp))
      cases pre with
      | nil => exact h
      | cons d pre =>
        rw [List.cons_prefix_cons] at hp
        obtain ⟨rfl,hp⟩ := hp
        refine (ih (bookkeeping_step hb hc) hs hcs).mpr (fun pre call hpre => ?_) pre hp
        exact hall (d :: pre) call (by simpa using hpre)

theorem bookkeeping_initial (t : ObjectId) (u : QUuid) (n : String)
    (client : ObjectId → TunnelProxyClientConnection) : Bookkeeping (State.initial t u n client) :=
  ⟨by simp [State.initial],by simp [State.initial]⟩

theorem consistent_initial (t : ObjectId) (u : QUuid) (n : String)
    (client : ObjectId → TunnelProxyClientConnection) : Consistent (State.initial t u n client) := by
  constructor
  · simp [State.initial]
  · simp [State.initial]
  · simp [State.initial]
  · intro a _
    exact QHash.value_empty a

theorem addresses_consistent_iff (transportClient : ObjectId) (serverUuid : QUuid)
    (serverName : String) (client : ObjectId → TunnelProxyClientConnection) (calls : List Call)
    (h : AdmissibleRun (State.initial transportClient serverUuid serverName client) calls) :
    (∀ pre, pre <+: calls →
      Consistent (run (State.initial transportClient serverUuid serverName client) pre)) ↔
    ∀ pre call, pre ++ [call] <+: calls →
      CallInReach (run (State.initial transportClient serverUuid serverName client) pre) call :=
  run_consistent_iff (bookkeeping_initial _ _ _ _) (consistent_initial _ _ _ _) calls h

/-- Two clients attach, the first of them leaves, and a third one attaches. -/
def departure : List Call :=
  [.registerClientConnection ⟨3⟩,.registerClientConnection ⟨4⟩,.unregisterClientConnection ⟨3⟩,
    .registerClientConnection ⟨5⟩]

theorem addresses_consistent_iff_departure :
    AdmissibleRun (State.initial ⟨1⟩ ⟨2⟩ "server" default) departure ∧
    ((∀ pre, pre <+: departure →
      Consistent (run (State.initial ⟨1⟩ ⟨2⟩ "server" default) pre)) ↔
    ∀ pre call, pre ++ [call] <+: departure →
      CallInReach (run (State.initial ⟨1⟩ ⟨2⟩ "server" default) pre) call) := by
  have h : AdmissibleRun (State.initial ⟨1⟩ ⟨2⟩ "server" default) departure := by decide +kernel
  exact ⟨h,addresses_consistent_iff _ _ _ _ _ h⟩

theorem ofNat_window_injOn (a : UInt16) (n : Nat) (hn : n < 65536) :
    Set.InjOn (fun k => a + UInt16.ofNat k) (Finset.range (n + 1)) := by
  intro i hi j hj he
  simp only [Finset.coe_range,Set.mem_Iio] at hi hj
  have h := congrArg UInt16.toNat he
  have ha : a.toNat < 65536 := UInt16.toNat_lt a
  simp only [UInt16.toNat_add,UInt16.toNat_ofNat',Nat.reducePow] at h
  omega

theorem freeInReach_of_attached {s : State} (h : Consistent s)
    (hlen : s.attached.length + 2 ≤ s.server.m_connectionLimit.toNat) : FreeInReach s.server := by
  by_contra hn
  simp only [FreeInReach,not_exists,not_and,Bool.not_eq_false] at hn
  let window := (Finset.range (s.server.m_connectionLimit.toNat + 1)).image
    fun k => s.server.m_currentAddressCounter + 1 + UInt16.ofNat k
  let taken := (s.attached.map s.address).toFinset ∪ {0x0000,0xFFFF}
  have hsub : window ⊆ taken := by
    intro a ha
    obtain ⟨k,hk,rfl⟩ := Finset.mem_image.mp ha
    have hb := hn k (Nat.lt_succ_iff.mp (Finset.mem_range.mp hk))
    by_contra hnt
    simp only [taken,Finset.mem_union,List.mem_toFinset,List.mem_map,Finset.mem_insert,
      Finset.mem_singleton,not_or,not_exists,not_and] at hnt
    have := blocked_eq_false.mpr ⟨h.absent _ hnt.1,hnt.2⟩
    rw [this] at hb
    exact absurd hb (by simp)
  have hwindow : window.card = s.server.m_connectionLimit.toNat + 1 := by
    rw [Finset.card_image_of_injOn (ofNat_window_injOn _ _ (UInt16.toNat_lt _)),Finset.card_range]
  have htaken : taken.card ≤ s.attached.length + 2 := by
    refine (Finset.card_union_le _ _).trans (Nat.add_le_add ?_ (Finset.card_le_two))
    exact (List.toFinset_card_le _).trans_eq (List.length_map _)
  have := Finset.card_le_card hsub
  omega

section Wrap

/-- Objects `1` to `k` hold the addresses `1` to `k`, and `n` registrations have been made. -/
structure Occupied (k n : Nat) (s : State) : Prop where
  limit : s.server.m_connectionLimit = 100
  counter : s.server.m_currentAddressCounter = UInt16.ofNat n
  attached : s.attached = (List.range k).map fun i => ⟨i + 1⟩
  address : ∀ i < k, s.address ⟨i + 1⟩ = UInt16.ofNat (i + 1)
  registered : ∀ c ∈ s.registered, c.toNat ≤ n
  consistent : Consistent s
  bookkeeping : Bookkeeping s

def fill (k : Nat) : List Call := (List.range k).map fun i => .registerClientConnection ⟨i + 1⟩

def churn (start n : Nat) : List Call :=
  (List.range n).flatMap fun i =>
    [.registerClientConnection ⟨start + i + 1⟩,.unregisterClientConnection ⟨start + i + 1⟩]

/-- Ninety-nine clients stay, a hundredth comes and goes until the counter is back at the top of
the address space, and one more attaches. -/
def wrapAround (n : Nat) : List Call :=
  fill 99 ++ churn 99 n ++ [.registerClientConnection ⟨99 + n + 1⟩]

variable {k n : Nat} {s : State}

theorem Occupied.free (h : Occupied k n s) (hk : k ≤ n) (hn : n < 0xFFFE) :
    s.server.blocked (s.server.m_currentAddressCounter + 1) = false := by
  have hnat : (s.server.m_currentAddressCounter + 1).toNat = n + 1 := by
    rw [h.counter,UInt16.toNat_add,UInt16.toNat_ofNat']
    simp only [UInt16.reduceToNat,Nat.reducePow]
    omega
  refine blocked_eq_false.mpr ⟨h.consistent.absent _ ?_,?_,?_⟩
  · intro c hc he
    rw [h.attached] at hc
    obtain ⟨i,hi,rfl⟩ := List.mem_map.mp hc
    have hik := List.mem_range.mp hi
    rw [h.address i hik] at he
    have := congrArg UInt16.toNat he
    rw [hnat,UInt16.toNat_ofNat'] at this
    omega
  · intro he
    rw [he] at hnat
    simp at hnat
  · intro he
    rw [he] at hnat
    simp at hnat
    omega

theorem Occupied.register (h : Occupied k n s) (hk : k ≤ n) (hn : n < 0xFFFE) (hlt : k < 100) :
    Admissible s (.registerClientConnection ⟨n + 1⟩) ∧
    (step s (.registerClientConnection ⟨n + 1⟩)).address ⟨n + 1⟩ = UInt16.ofNat (n + 1) ∧
    Consistent (step s (.registerClientConnection ⟨n + 1⟩)) := by
  have hfresh : (⟨n + 1⟩ : ObjectId) ∉ s.registered := fun hm => by
    have : n + 1 ≤ n := h.registered _ hm
    omega
  have hfree := getFreeAddress_of_free (h.free hk hn)
  refine ⟨⟨hfresh,?_⟩,?_,?_⟩
  · simpa [h.attached,h.limit] using hlt
  · rw [address_register_self,hfree,h.counter,UInt16.ofNat_add]
    rfl
  · exact register_consistent h.bookkeeping h.consistent hfresh (hfree ▸ h.free hk hn)

theorem Occupied.fill_step (h : Occupied k k s) (hk : k < 99) :
    Occupied (k + 1) (k + 1) (step s (.registerClientConnection ⟨k + 1⟩)) := by
  obtain ⟨ha,hself,hc⟩ := h.register le_rfl (by omega) (by omega)
  refine ⟨h.limit,?_,?_,?_,?_,hc,bookkeeping_step h.bookkeeping ha⟩
  · simp [step,h.counter,UInt16.ofNat_add]
  · simp [step,h.attached,List.range_succ]
  · intro i hi
    by_cases hik : i = k
    · rw [hik,hself]
    · rw [address_register_ne (by simpa using hik)]
      exact h.address i (by omega)
  · intro c hc
    rcases List.mem_append.mp hc with hc | hc
    · exact (h.registered c hc).trans (Nat.le_succ k)
    · rw [List.mem_singleton.mp hc]

theorem Occupied.churn_step (h : Occupied 99 n s) (hk : 99 ≤ n) (hn : n < 0xFFFE) :
    Admissible (step s (.registerClientConnection ⟨n + 1⟩)) (.unregisterClientConnection ⟨n + 1⟩) ∧
    Occupied 99 (n + 1) (step (step s (.registerClientConnection ⟨n + 1⟩))
      (.unregisterClientConnection ⟨n + 1⟩)) := by
  obtain ⟨ha,_,hc⟩ := h.register hk hn (by omega)
  have hb := bookkeeping_step h.bookkeeping ha
  have hm : Admissible (step s (.registerClientConnection ⟨n + 1⟩))
      (.unregisterClientConnection ⟨n + 1⟩) := mem_attached_register.mpr (.inr rfl)
  have hnew : (⟨n + 1⟩ : ObjectId) ∉ s.attached := fun hm => ha.1 (h.bookkeeping.registered _ hm)
  refine ⟨hm,h.limit,?_,?_,?_,?_,unregister_consistent hb hc hm,bookkeeping_step hb hm⟩
  · simp [step,h.counter,UInt16.ofNat_add]
  · rw [← h.attached]
    simp [step,List.erase_append_right _ hnew]
  · intro i hi
    have hne : (⟨i + 1⟩ : ObjectId) ≠ ⟨n + 1⟩ := by simp; omega
    rw [address_unregister_ne hne,address_register_ne hne]
    exact h.address i hi
  · intro c hc
    rcases List.mem_append.mp hc with hc | hc
    · exact (h.registered c hc).trans (Nat.le_succ n)
    · rw [List.mem_singleton.mp hc]

theorem run_append (s : State) (xs ys : List Call) : run s (xs ++ ys) = run (run s xs) ys :=
  List.foldl_append

theorem admissibleRun_append {s : State} {xs ys : List Call} :
    AdmissibleRun s (xs ++ ys) ↔ AdmissibleRun s xs ∧ AdmissibleRun (run s xs) ys := by
  induction xs generalizing s with
  | nil => simp [AdmissibleRun,run]
  | cons x xs ih => simp [AdmissibleRun,ih,run,and_assoc]

theorem fill_occupied (k : Nat) (hk : k ≤ 99) :
    AdmissibleRun (State.initial ⟨1⟩ ⟨2⟩ "server" default) (fill k) ∧
    Occupied k k (run (State.initial ⟨1⟩ ⟨2⟩ "server" default) (fill k)) := by
  induction k with
  | zero =>
    refine ⟨trivial,rfl,rfl,rfl,by simp,?_,consistent_initial _ _ _ _,bookkeeping_initial _ _ _ _⟩
    simp [fill,run,State.initial]
  | succ k ih =>
    obtain ⟨ha,ho⟩ := ih (by omega)
    have hs : fill (k + 1) = fill k ++ [.registerClientConnection ⟨k + 1⟩] := by
      simp [fill,List.range_succ]
    rw [hs,admissibleRun_append,run_append]
    exact ⟨⟨ha,(ho.register le_rfl (by omega) (by omega)).1,trivial⟩,ho.fill_step (by omega)⟩

theorem churn_occupied {s : State} (h : Occupied 99 99 s) (n : Nat) (hn : n ≤ 65435) :
    AdmissibleRun s (churn 99 n) ∧ Occupied 99 (99 + n) (run s (churn 99 n)) := by
  induction n with
  | zero => exact ⟨trivial,h⟩
  | succ n ih =>
    obtain ⟨ha,ho⟩ := ih (by omega)
    have hs : churn 99 (n + 1) = churn 99 n ++ [.registerClientConnection ⟨99 + n + 1⟩,
        .unregisterClientConnection ⟨99 + n + 1⟩] := by
      simp [churn,List.range_succ]
    obtain ⟨hu,hc⟩ := ho.churn_step (by omega) (by omega)
    rw [hs,admissibleRun_append,run_append]
    exact ⟨⟨ha,(ho.register (by omega) (by omega) (by omega)).1,hu,trivial⟩,hc⟩

theorem Occupied.full (h : Occupied 99 n s) (hn : n = 0xFFFE) :
    s.server.blocked s.server.getFreeAddress.2 = true := by
  rw [getFreeAddress_blocked_iff]
  intro j hj
  have hj : j ≤ 100 := by simpa [h.limit] using hj
  have hcount : s.server.m_currentAddressCounter + 1 = 0xFFFF := by rw [h.counter,hn]; rfl
  rw [hcount]
  by_contra hb
  obtain ⟨hnone,hzero,hmax⟩ := blocked_eq_false.mp (by simpa using hb)
  have h0 : j ≠ 0 := by rintro rfl; exact hmax rfl
  have h1 : j ≠ 1 := by rintro rfl; exact hzero rfl
  have haddr : (0xFFFF : UInt16) + UInt16.ofNat j = UInt16.ofNat (j - 2 + 1) := by
    apply UInt16.toNat_inj.mp
    rw [UInt16.toNat_add,UInt16.toNat_ofNat',UInt16.toNat_ofNat']
    simp only [UInt16.reduceToNat,Nat.reducePow]
    omega
  have hmem : (⟨j - 2 + 1⟩ : ObjectId) ∈ s.attached := by
    rw [h.attached]
    exact List.mem_map.mpr ⟨j - 2,List.mem_range.mpr (by omega),rfl⟩
  have hf := h.consistent.found _ hmem
  rw [h.address _ (by omega),← haddr,hnone] at hf
  exact absurd hf (by simp)

theorem Occupied.overflow (h : Occupied 99 n s) (hn : n = 0xFFFE) :
    AdmissibleRun s [.registerClientConnection ⟨n + 1⟩] ∧
    ¬ Consistent (run s [.registerClientConnection ⟨n + 1⟩]) := by
  have hfresh : (⟨n + 1⟩ : ObjectId) ∉ s.registered := by
    intro hm
    have : n + 1 ≤ n := h.registered _ hm
    omega
  have hroom : s.attached.length < s.server.m_connectionLimit.toNat := by
    simp [h.attached,h.limit]
  exact ⟨⟨⟨hfresh,hroom⟩,trivial⟩,
    register_inconsistent h.bookkeeping h.consistent hfresh (h.full hn)⟩

theorem wrapAround_inconsistent (n : Nat) (hn : 99 + n = 0xFFFE) :
    AdmissibleRun (State.initial ⟨1⟩ ⟨2⟩ "server" default) (wrapAround n) ∧
    ¬ Consistent (run (State.initial ⟨1⟩ ⟨2⟩ "server" default) (wrapAround n)) := by
  obtain ⟨hf,ho⟩ := fill_occupied 99 le_rfl
  obtain ⟨hc,ho⟩ := churn_occupied ho n (by omega)
  obtain ⟨hlast,hbad⟩ := ho.overflow hn
  simp only [wrapAround,admissibleRun_append,run_append]
  exact ⟨⟨⟨hf,hc⟩,hlast⟩,hbad⟩

theorem wrapAround_collides :
    AdmissibleRun (State.initial ⟨1⟩ ⟨2⟩ "server" default) (wrapAround 65435) ∧
    ¬ Consistent (run (State.initial ⟨1⟩ ⟨2⟩ "server" default) (wrapAround 65435)) :=
  wrapAround_inconsistent 65435 (by omega)

end Wrap

end RemoteProxy.AddressAllocation
