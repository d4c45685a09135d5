import Mathlib.Tactic.Common

namespace Watchdog

/-- A sender that a timer makes send at `beat`, and the watchdog of its receiver; `sent` holds when
each thing that is on its way was sent. -/
structure State where
  now : Nat
  sent : List Nat
  beat : Nat
  expiry : Nat

namespace State

def send (s : State) (count : Nat) : State := { s with sent := s.sent ++ List.replicate count s.now }

def postpone (s : State) (interval : Nat) : State := { s with beat := s.now + interval }

def arrive (s : State) (count timeout : Nat) : State :=
  { s with sent := s.sent.drop count, expiry := s.now + timeout }

def elapse (s : State) (ms : Nat) : State := { s with now := s.now + ms }

end State

variable {interval delay timeout : Nat} {s : State}

/-- What is on its way has been so for less than `delay`, and the timer has not been passed over. -/
structure Timely (interval delay : Nat) (s : State) : Prop where
  sent : ∀ t ∈ s.sent, t ≤ s.now ∧ s.now < t + delay
  beat : s.now ≤ s.beat
  beatWithin : s.beat ≤ s.now + interval

def Secured (delay : Nat) (s : State) : Prop :=
  (∃ t ∈ s.sent, t + delay ≤ s.expiry) ∨ s.beat + delay ≤ s.expiry

def Starved (delay : Nat) (s : State) : Prop := s.sent = [] ∧ s.expiry < s.beat + delay

instance : Decidable (Starved delay s) := inferInstanceAs (Decidable (_ ∧ _))

def Tended (delay : Nat) (s : State) : Prop :=
  Secured delay s ∨ s.sent = [] ∧ s.now + delay ≤ s.expiry

section Timely

theorem Timely.send (h : Timely interval delay s) (hdelay : 0 < delay) (count : Nat) :
    Timely interval delay (s.send count) := by
  refine ⟨fun t ht => ?_,h.beat,h.beatWithin⟩
  rcases List.mem_append.mp ht with ht | ht
  · exact h.sent t ht
  · rw [List.eq_of_mem_replicate ht]
    exact ⟨Nat.le_refl _,Nat.lt_add_of_pos_right hdelay⟩

theorem Timely.postpone (h : Timely interval delay s) :
    Timely interval delay (s.postpone interval) :=
  ⟨h.sent,Nat.le_add_right _ _,Nat.le_refl _⟩

theorem Timely.arrive (h : Timely interval delay s) (count timeout : Nat) :
    Timely interval delay (s.arrive count timeout) :=
  ⟨fun t ht => h.sent t (List.mem_of_mem_drop ht),h.beat,h.beatWithin⟩

theorem Timely.elapse (h : Timely interval delay s) {ms : Nat}
    (hsent : ∀ t ∈ s.sent, s.now + ms < t + delay) (hbeat : s.now + ms ≤ s.beat) :
    Timely interval delay (s.elapse ms) := by
  refine ⟨fun t ht => ⟨?_,hsent t ht⟩,hbeat,?_⟩
  · exact Nat.le_trans (h.sent t ht).1 (Nat.le_add_right _ _)
  · have := h.beatWithin
    simp only [State.elapse]
    omega

end Timely

section Secured

theorem Secured.alive (h : Secured delay s) (ht : Timely interval delay s) (hdelay : 0 < delay) :
    s.now < s.expiry := by
  rcases h with ⟨t,hmem,hle⟩ | hle
  · have := (ht.sent t hmem).2
    omega
  · have := ht.beat
    omega

theorem Secured.send (h : Secured delay s) (count : Nat) : Secured delay (s.send count) :=
  h.imp_left fun ⟨t,hmem,hle⟩ => ⟨t,List.mem_append_left _ hmem,hle⟩

theorem Secured.postpone (h : Secured delay s) (ht : Timely interval delay s) (hne : s.sent ≠ []) :
    Secured delay (s.postpone interval) := by
  rcases h with h | hle
  · exact .inl h
  · obtain ⟨t,rest,hsent⟩ := List.exists_cons_of_ne_nil hne
    have hmem : t ∈ s.sent := hsent ▸ List.mem_cons_self
    have hsince := (ht.sent t hmem).1
    have hbeat := ht.beat
    exact .inl ⟨t,hmem,by simp only [State.postpone]; omega⟩

theorem Secured.beaten (h : Secured delay s) (ht : Timely interval delay s) {count : Nat}
    (hcount : 0 < count) : Secured delay ((s.postpone interval).send count) := by
  rcases h with ⟨t,hmem,hle⟩ | hle
  · exact .inl ⟨t,List.mem_append_left _ hmem,hle⟩
  · have hbeat := ht.beat
    refine .inl ⟨s.now,List.mem_append_right _ ?_,?_⟩
    · exact List.mem_replicate.mpr ⟨Nat.ne_of_gt hcount,rfl⟩
    · simp only [State.send,State.postpone]
      omega

theorem Timely.arrived (h : Timely interval delay s) (htimeout : interval + delay ≤ timeout)
    (count : Nat) : Secured delay (s.arrive count timeout) := by
  have := h.beatWithin
  refine .inr ?_
  simp only [State.arrive]
  omega

end Secured

section Tended

theorem Tended.alive (h : Tended delay s) (ht : Timely interval delay s) (hdelay : 0 < delay) :
    s.now < s.expiry := by
  rcases h with h | ⟨-,hle⟩
  · exact h.alive ht hdelay
  · omega

theorem Tended.secured (h : Tended delay s) (hs : ¬Starved delay s) : Secured delay s := by
  rcases h with h | ⟨hsent,-⟩
  · exact h
  · exact .inr (Nat.le_of_not_lt fun hlt => hs ⟨hsent,hlt⟩)

theorem Tended.send (h : Tended delay s) (count : Nat) : Tended delay (s.send count) := by
  rcases h with h | ⟨hsent,hle⟩
  · exact .inl (h.send count)
  · rcases Nat.eq_zero_or_pos count with rfl | hcount
    · exact .inr ⟨by simp [State.send,hsent],hle⟩
    · refine .inl (.inl ⟨s.now,List.mem_append_right _ ?_,hle⟩)
      exact List.mem_replicate.mpr ⟨Nat.ne_of_gt hcount,rfl⟩

theorem Tended.postpone (h : Tended delay s) (ht : Timely interval delay s) :
    Tended delay (s.postpone interval) := by
  rcases h with h | h
  · by_cases hsent : s.sent = []
    · rcases h with ⟨t,hmem,-⟩ | hle
      · exact absurd (hsent ▸ hmem) List.not_mem_nil
      · have hbeat := ht.beat
        exact .inr ⟨hsent,by simp only [State.postpone]; omega⟩
    · exact .inl (h.postpone ht hsent)
  · exact .inr h

theorem Tended.elapse (h : Tended delay s) {ms : Nat}
    (hms : Starved delay s → s.now + ms + delay ≤ s.expiry) : Tended delay (s.elapse ms) := by
  by_cases hs : Starved delay s
  · exact .inr ⟨hs.1,hms hs⟩
  · exact .inl (h.secured hs)

theorem Secured.elapse (h : Secured delay s) (ms : Nat) : Secured delay (s.elapse ms) := h

end Tended

section Events

/-- What the sender and the receiver do: something is sent, the timer makes the sender send, the
timer is started for another reason, what was sent arrives, or time passes. -/
inductive Event where
  | idle
  | send (count : Nat)
  | beat (count : Nat)
  | disturb (count : Nat)
  | arrive (count : Nat)
  | elapse (ms : Nat)

def step (interval timeout : Nat) (s : State) : Event → State
  | .idle => s
  | .send count => s.send count
  | .beat count => (s.postpone interval).send count
  | .disturb count => (s.postpone interval).send count
  | .arrive count => s.arrive count timeout
  | .elapse ms => s.elapse ms

/-- The timer does make the sender send, and time passes over nothing that has to happen. -/
def Possible (delay : Nat) (s : State) : Event → Prop
  | .beat count => 0 < count
  | .elapse ms => (∀ t ∈ s.sent, s.now + ms < t + delay) ∧ s.now + ms ≤ s.beat
  | _ => True

/-- A sender that has been starved is not left so until it would be too late. -/
def Fed (delay : Nat) (s : State) : Event → Prop
  | .elapse ms => Starved delay s → s.now + ms + delay ≤ s.expiry
  | _ => True

def Spared (interval delay : Nat) (s : State) : Event → Prop
  | .disturb _ => s.sent ≠ [] ∨ s.now + interval + delay ≤ s.expiry
  | _ => True

variable {event : Event}

theorem step_timely (hdelay : 0 < delay) (h : Timely interval delay s)
    (hevent : Possible delay s event) : Timely interval delay (step interval timeout s event) := by
  cases event with
  | idle => exact h
  | send count => exact h.send hdelay count
  | beat count => exact h.postpone.send hdelay count
  | disturb count => exact h.postpone.send hdelay count
  | arrive count => exact h.arrive count timeout
  | elapse ms => exact h.elapse hevent.1 hevent.2

theorem step_tended (htimeout : interval + delay ≤ timeout) (ht : Timely interval delay s)
    (h : Tended delay s) (hfed : Fed delay s event) :
    Tended delay (step interval timeout s event) := by
  cases event with
  | idle => exact h
  | send count => exact h.send count
  | beat count => exact (h.postpone ht).send count
  | disturb count => exact (h.postpone ht).send count
  | arrive count => exact .inl (ht.arrived htimeout count)
  | elapse ms => exact h.elapse hfed

theorem step_secured (htimeout : interval + delay ≤ timeout) (ht : Timely interval delay s)
    (h : Secured delay s) (hevent : Possible delay s event)
    (hspared : Spared interval delay s event) :
    Secured delay (step interval timeout s event) := by
  cases event with
  | idle => exact h
  | send count => exact h.send count
  | beat count => exact h.beaten ht hevent
  | disturb count =>
    refine Secured.send ?_ count
    rcases hspared with hsent | hle
    · exact h.postpone ht hsent
    · exact .inr hle
  | arrive count => exact ht.arrived htimeout count
  | elapse ms => exact h.elapse ms

end Events

end Watchdog
