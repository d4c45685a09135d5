import Mathlib.Algebra.Group.Int.Defs
import Mathlib.Algebra.GroupWithZero.Nat
import RemoteProxy.Foundation.Runs
import RemoteProxy.Proxy.Accounts

namespace RemoteProxy

namespace TunnelProxyServer

/-- The counter starts again, and what it had counted is the `m_troughput` from now on. -/
def tick (s : TunnelProxyServer) : TunnelProxyServer × Int32 :=
  ({ s with m_troughputCounter := 0 },s.m_troughputCounter)

end TunnelProxyServer

namespace Throughput

/-- A figure, when it was published, and how many bytes the tunnels had carried by then. -/
structure Sample where
  timestamp : Int
  troughput : Int32
  carried : Nat
  deriving DecidableEq

/-- What `Engine::onTimerTick` reads and writes; `latest` and `earlier` record the figures. -/
structure State where
  m_lastTimeStamp : Int
  m_currentTimeCounter : Int
  m_tunnelProxyServer : TunnelProxyServer
  m_troughput : Int32
  latest : Sample
  earlier : List Sample

def toInt (n : Int) : Int := n.bmod (2 ^ 32)

def start (timestamp : Int) : State where
  m_lastTimeStamp := timestamp
  m_currentTimeCounter := 0
  m_tunnelProxyServer := TunnelProxyServer.new
  m_troughput := 0
  latest := ⟨timestamp,0,0⟩
  earlier := []

def onTimerTick (s : State) (timestamp : Int) : State :=
  let deltaTime := timestamp - s.m_lastTimeStamp
  let s := { s with
    m_lastTimeStamp := timestamp
    m_currentTimeCounter := toInt (s.m_currentTimeCounter + deltaTime) }
  if s.m_currentTimeCounter ≥ 1000 then
    let r := s.m_tunnelProxyServer.tick
    { s with
      m_currentTimeCounter := 0
      m_tunnelProxyServer := r.1
      m_troughput := r.2
      latest := ⟨timestamp,r.2,s.m_tunnelProxyServer.carried.length⟩
      earlier := s.latest :: s.earlier }
  else s

inductive Event where
  | timerTick (timestamp : Int)
  | proxy (event : TunnelProxyServer.Event)

variable (env : Environment)

def step (s : State) : Event → State
  | .timerTick timestamp => onTimerTick s timestamp
  | .proxy event => { s with m_tunnelProxyServer := s.m_tunnelProxyServer.step env event }

def Paced (gap : Int) (s : State) : Event → Prop
  | .timerTick timestamp => s.m_lastTimeStamp ≤ timestamp ∧ timestamp ≤ s.m_lastTimeStamp + gap
  | .proxy event => s.m_tunnelProxyServer.Fresh event

instance (gap : Int) (s : State) : (event : Event) → Decidable (Paced gap s event)
  | .timerTick _ => inferInstanceAs (Decidable (_ ∧ _))
  | .proxy event => inferInstanceAs (Decidable (s.m_tunnelProxyServer.Fresh event))

/-- A figure counts, as an `int` and so exactly short of 2 GiB, what was carried since the one before
it, which was published at least a second and less than a second and a `gap` ago. -/
structure Follows (gap : Int) (later earlier : Sample) : Prop where
  grown : earlier.carried ≤ later.carried
  troughput : later.troughput = .ofNat (later.carried - earlier.carried)
  exact : later.carried < earlier.carried + 2 ^ 31 →
    (later.carried : Int) = earlier.carried + later.troughput.toInt
  second : earlier.timestamp + 1000 ≤ later.timestamp
  prompt : later.timestamp < earlier.timestamp + 1000 + gap

structure Sampled (gap : Int) (s : State) : Prop where
  published : s.m_troughput = s.latest.troughput
  counted : TunnelProxyServer.Counted s.latest.carried s.m_tunnelProxyServer
  samples : List.IsChain (Follows gap) (s.latest :: s.earlier)
  due : s.m_lastTimeStamp < s.latest.timestamp + 1000

structure Invariant (gap : Int) (s : State) : Prop extends Sampled gap s where
  consistent : TunnelProxyServer.Consistent [] s.m_tunnelProxyServer
  counter : s.m_currentTimeCounter = s.m_lastTimeStamp - s.latest.timestamp
  passed : s.latest.timestamp ≤ s.m_lastTimeStamp

variable {env} {gap : Int} {s : State}

theorem toInt_eq {n : Int} (h : 0 ≤ n) (hn : n < 2 ^ 31) : toInt n = n := by
  rw [toInt,Int.bmod_eq_of_le] <;> omega

theorem invariant_start (gap timestamp : Int) : Invariant gap (start timestamp) where
  published := rfl
  counted := ⟨0,rfl,rfl⟩
  samples := .singleton _
  due := by simp only [start]; omega
  consistent := TunnelProxyServer.new_consistent
  counter := by simp [start]
  passed := Int.le_refl _

theorem Invariant.timerTick (h : Invariant gap s) (hgap : gap < 2 ^ 31 - 1000) {timestamp : Int}
    (hback : s.m_lastTimeStamp ≤ timestamp) (hpaced : timestamp ≤ s.m_lastTimeStamp + gap) :
    Invariant gap (onTimerTick s timestamp) := by
  have hcounter := h.counter
  have hdue := h.due
  have hpassed := h.passed
  have hsum : toInt (s.m_currentTimeCounter + (timestamp - s.m_lastTimeStamp)) =
      timestamp - s.latest.timestamp := by
    rw [toInt_eq] <;> omega
  simp only [onTimerTick,hsum]
  split
  · next hsecond =>
    obtain ⟨n,hcarried,hn⟩ := h.counted
    have hfollows : Follows gap
        ⟨timestamp,s.m_tunnelProxyServer.m_troughputCounter,s.m_tunnelProxyServer.carried.length⟩
        s.latest := by
      refine ⟨by simp only; omega,?_,fun hfew => ?_,by simp only; omega,by simp only; omega⟩
      · rw [hn,hcarried,Nat.add_sub_cancel_left]
      · simp only at hfew ⊢
        rw [hn,Int32.toInt_ofNat_of_lt (by omega),hcarried,Int.natCast_add]
    exact ⟨⟨rfl,⟨0,rfl,rfl⟩,.cons_cons hfollows h.samples,by simp only; omega⟩,
      h.consistent.congr (.counted _ _),by simp only; omega,by simp only; omega⟩
  · next hsecond =>
    exact ⟨⟨h.published,h.counted,h.samples,by simp only; omega⟩,h.consistent,rfl,
      by simp only; omega⟩

theorem Invariant.proxy (h : Invariant gap s) {event : TunnelProxyServer.Event}
    (hfresh : s.m_tunnelProxyServer.Fresh event) :
    Invariant gap { s with m_tunnelProxyServer := s.m_tunnelProxyServer.step env event } := by
  have hdoes : TunnelProxyServer.Does env _ _ _ [] _ _ :=
    TunnelProxyServer.step_does s.m_tunnelProxyServer event hfresh
  have hc := hdoes.consistent h.consistent
  refine ⟨⟨h.published,?_,h.samples,h.due⟩,hc,h.counter,h.passed⟩
  exact TunnelProxyServer.step_carried h.consistent hfresh h.counted

theorem Invariant.step (h : Invariant gap s) (hgap : gap < 2 ^ 31 - 1000) {event : Event}
    (hpaced : Paced gap s event) : Invariant gap (step env s event) := by
  cases event with
  | timerTick timestamp => exact h.timerTick hgap hpaced.1 hpaced.2
  | proxy event => exact h.proxy hpaced

/-- The figures that monitors are shown add up to what the tunnels carried: each is the traffic of
the time since the one before it, which is a second and at most a gap between two ticks. -/
theorem throughput_sampled (hgap : gap < 2 ^ 31 - 1000) (timestamp : Int) {events : List Event}
    (hpaced : Runs.Along (step env) (Paced gap) (start timestamp) events) :
    Runs.Always (step env) (Sampled gap) (start timestamp) events := by
  refine Runs.Always.imp ?_ fun _ h => Invariant.toSampled h
  exact Runs.always_of_along (invariant_start gap timestamp) (fun s event h hq => h.step hgap hq)
    hpaced

def sampleEvents : List Event :=
  (TunnelProxyServer.sampleEvents true).map .proxy ++
    [.timerTick 600,.timerTick 1250,.proxy (.dataAvailable ⟨2⟩ [0x07]),.timerTick 2100,
      .timerTick 2400]

theorem throughput_sampled_uploads :
    Runs.Always (step (TunnelProxyServer.sampleEnvironment true)) (Sampled 1000) (start 0)
      sampleEvents :=
  throughput_sampled (by decide) 0 (by decide +kernel)

end Throughput

end RemoteProxy
