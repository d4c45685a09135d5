import Mathlib.Logic.Function.Iterate
import Mathlib.Tactic.Common

namespace Probe

variable {A : Type} (blocked : A → Bool) (next : A → A)

def probe : Nat → A → A
  | 0, a => a
  | n + 1, a => if blocked a then probe n (next a) else a

theorem probe_of_free (n : Nat) (a : A) (h : blocked a = false) : probe blocked next n a = a := by
  cases n <;> simp [probe,h]

theorem probe_of_blocked (n : Nat) (a : A) (h : ∀ k < n, blocked (next^[k] a) = true) :
    probe blocked next n a = next^[n] a := by
  induction n generalizing a with
  | zero => rfl
  | succ n ih =>
    have hfirst : blocked a = true := h 0 (Nat.succ_pos n)
    rw [probe,if_pos hfirst,Function.iterate_succ_apply]
    exact ih (next a) fun k hk => h (k + 1) (Nat.succ_lt_succ hk)

theorem probe_blocked_iff (n : Nat) (a : A) :
    blocked (probe blocked next n a) = true ↔ ∀ k ≤ n, blocked (next^[k] a) = true := by
  induction n generalizing a with
  | zero => simp [probe]
  | succ n ih =>
    by_cases hb : blocked a
    · simp only [probe,hb,if_true,ih]
      constructor
      · intro h k hk
        cases k with
        | zero => exact hb
        | succ k => exact h k (by omega)
      · intro h k hk
        exact h (k + 1) (by omega)
    · simp only [probe,hb]
      constructor
      · intro h
        exact absurd h hb
      · intro h
        exact absurd (h 0 (by omega)) hb

end Probe
