import RemoteProxy.Foundation.Runs

/-- What each event puts in at one end and takes out at the other, and what is on its way. -/
structure Conduit (S E A : Type) where
  entering : S → E → List A
  leaving : S → E → List A
  held : S → List A

namespace Conduit

variable {S E A : Type} (step : S → E → S)

def Conserves (P : S → E → Prop) (c : Conduit S E A) : Prop :=
  ∀ s event, P s event →
    c.held s ++ c.entering s event = c.leaving s event ++ c.held (step s event)

def series (c c' : Conduit S E A) : Conduit S E A where
  entering := c.entering
  leaving := c'.leaving
  held s := c'.held s ++ c.held s

def along (f : S → E → List A) : S → List E → List A
  | _, [] => []
  | s, event :: events => f s event ++ along f (step s event) events

variable {step} {P : S → E → Prop} {c c' : Conduit S E A}

theorem Conserves.series (h : Conserves step P c) (h' : Conserves step P c')
    (hjoin : ∀ s event, c'.entering s event = c.leaving s event) :
    Conserves step P (c.series c') := by
  intro s event hp
  have hin := h s event hp
  have hout := h' s event hp
  rw [hjoin] at hout
  calc (c'.held s ++ c.held s) ++ c.entering s event
      = c'.held s ++ (c.held s ++ c.entering s event) := List.append_assoc _ _ _
    _ = (c'.held s ++ c.leaving s event) ++ c.held (step s event) := by
      rw [hin,← List.append_assoc]
    _ = c'.leaving s event ++ (c'.held (step s event) ++ c.held (step s event)) := by
      rw [hout,List.append_assoc]

theorem Conserves.run (h : Conserves step P c) {s : S} {events : List E}
    (hp : Runs.Along step P s events) :
    c.held s ++ along step c.entering s events =
      along step c.leaving s events ++ c.held (Runs.run step s events) := by
  induction events generalizing s with
  | nil => exact List.append_nil _
  | cons event events ih =>
    have hone := h s event hp.1
    have hrest := ih hp.2
    simp only [along]
    rw [← List.append_assoc,hone,List.append_assoc,hrest,List.append_assoc]
    rfl

theorem log_along (log : S → List A) {f : S → E → List A}
    (hlog : ∀ s event, P s event → log (step s event) = log s ++ f s event) {s : S}
    {events : List E} (hp : Runs.Along step P s events) :
    log (Runs.run step s events) = log s ++ along step f s events := by
  induction events generalizing s with
  | nil => exact (List.append_nil _).symm
  | cons event events ih =>
    have hone := hlog s event hp.1
    have hrest := ih hp.2
    simp only [along]
    rw [← List.append_assoc,← hone]
    exact hrest

theorem along_events (step : S → E → S) (f : E → List A) (s : S) (events : List E) :
    along step (fun _ event => f event) s events = events.flatMap f := by
  induction events generalizing s with
  | nil => rfl
  | cons event events ih => rw [along,ih,List.flatMap_cons]

end Conduit
