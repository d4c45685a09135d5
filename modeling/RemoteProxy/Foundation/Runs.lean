namespace Runs

variable {S E : Type} (step : S → E → S)

def run (s : S) (events : List E) : S := events.foldl step s

def Along (P : S → E → Prop) : S → List E → Prop
  | _, [] => True
  | s, event :: events => P s event ∧ Along P (step s event) events

def Always (P : S → Prop) : S → List E → Prop
  | s, [] => P s
  | s, event :: events => P s ∧ Always P (step s event) events

variable {step} {P Q : S → E → Prop} {I J : S → Prop} {s : S} {events : List E}

instance decidableAlong [∀ s event, Decidable (P s event)] :
    (s : S) → (events : List E) → Decidable (Along step P s events)
  | _, [] => inferInstanceAs (Decidable True)
  | s, event :: events =>
    have : Decidable (Along step P (step s event) events) := decidableAlong _ events
    inferInstanceAs (Decidable (P s event ∧ Along step P (step s event) events))

instance decidableAlways [DecidablePred I] :
    (s : S) → (events : List E) → Decidable (Always step I s events)
  | s, [] => inferInstanceAs (Decidable (I s))
  | s, event :: events =>
    have : Decidable (Always step I (step s event) events) := decidableAlways _ events
    inferInstanceAs (Decidable (I s ∧ Always step I (step s event) events))

theorem run_append (s : S) (events later : List E) :
    run step s (events ++ later) = run step (run step s events) later := List.foldl_append

theorem Always.first (h : Always step I s events) : I s := by
  cases events with
  | nil => exact h
  | cons event events => exact h.1

theorem Always.last (h : Always step I s events) : I (run step s events) := by
  induction events generalizing s with
  | nil => exact h
  | cons event events ih => exact ih h.2

theorem Always.imp (h : Always step I s events) (himp : ∀ s, I s → J s) :
    Always step J s events := by
  induction events generalizing s with
  | nil => exact himp s h
  | cons event events ih => exact ⟨himp s h.1,ih h.2⟩

theorem always_of_along (hs : I s) (hstep : ∀ s event, I s → Q s event → I (step s event))
    (h : Along step Q s events) : Always step I s events := by
  induction events generalizing s with
  | nil => exact hs
  | cons event events ih => exact ⟨hs,ih (hstep s event hs h.1) h.2⟩

theorem always_of_step (hs : I s) (hstep : ∀ s event, I s → I (step s event)) (events : List E) :
    Always step I s events := by
  induction events generalizing s with
  | nil => exact hs
  | cons event events ih => exact ⟨hs,ih (hstep s event hs)⟩

theorem Along.imp (h : Along step P s events) (himp : ∀ s event, P s event → Q s event) :
    Along step Q s events := by
  induction events generalizing s with
  | nil => exact trivial
  | cons event events ih => exact ⟨himp s event h.1,ih h.2⟩

theorem along_append {later : List E} : Along step P s (events ++ later) ↔
    Along step P s events ∧ Along step P (run step s events) later := by
  induction events generalizing s with
  | nil => exact ⟨fun h => ⟨trivial,h⟩,And.right⟩
  | cons event events ih => exact (and_congr_right fun _ => ih).trans and_assoc.symm

theorem along_and : Along step (fun s event => P s event ∧ Q s event) s events ↔
    Along step P s events ∧ Along step Q s events := by
  induction events generalizing s with
  | nil => simp [Along]
  | cons event events ih => simp only [Along,ih,and_and_and_comm]

theorem along_congr (h : ∀ s event, P s event ↔ Q s event) :
    Along step P s events ↔ Along step Q s events := by
  induction events generalizing s with
  | nil => exact Iff.rfl
  | cons event events ih => exact and_congr (h s event) ih

theorem along_of_always (hevent : ∀ s event, I s → P s event) (h : Always step I s events) :
    Along step P s events := by
  induction events generalizing s with
  | nil => exact trivial
  | cons event events ih => exact ⟨hevent s event h.1,ih h.2⟩

theorem always_iff_along (hI : I s) (hJ : J s)
    (hstep : ∀ s event, I s → J s → I (step s event))
    (hiff : ∀ s event, I s → J s → (J (step s event) ↔ Q s event)) :
    Always step J s events ↔ Along step Q s events := by
  induction events generalizing s with
  | nil => exact iff_of_true hJ trivial
  | cons event events ih =>
    have hevent := hiff s event hI hJ
    constructor
    · rintro ⟨-,hrest⟩
      exact ⟨hevent.mp hrest.first,(ih (hstep s event hI hJ) hrest.first).mp hrest⟩
    · rintro ⟨hq,hrest⟩
      have hnext := hevent.mpr hq
      exact ⟨hJ,(ih (hstep s event hI hJ) hnext).mpr hrest⟩

end Runs
