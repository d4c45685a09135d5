import Mathlib.Data.List.Induction
import Mathlib.Logic.Function.Basic

namespace Sessions

inductive Mark (U X : Type) where
  | opened (u : U)
  | used (x : X)
  | closed

variable {A U X : Type} [DecidableEq A]

def about (a : A) (marks : List (A × Mark U X)) : List (Mark U X) :=
  (marks.filter (·.1 = a)).map Prod.snd

def after (u : Option U) : Mark U X → Option U
  | .opened u' => some u'
  | .used _ => u
  | .closed => none

def record (t : A → Option U) (m : A × Mark U X) : A → Option U :=
  Function.update t m.1 (after (t m.1) m.2)

def table (marks : List (A × Mark U X)) : A → Option U := marks.foldl record fun _ => none

/-- Sessions one after the other, the last of them open if a holder is given; each use inside a
session is its holder's. -/
inductive Bracketed (owner : X → U) : Option U → List (Mark U X) → Prop where
  | nil : Bracketed owner none []
  | opened {marks : List (Mark U X)} (u : U) :
      Bracketed owner none marks → Bracketed owner (some u) (marks ++ [.opened u])
  | used {marks : List (Mark U X)} {u : U} {x : X} :
      Bracketed owner (some u) marks → owner x = u → Bracketed owner (some u) (marks ++ [.used x])
  | closed {marks : List (Mark U X)} {u : U} :
      Bracketed owner (some u) marks → Bracketed owner none (marks ++ [.closed])

def WellBracketed (owner : X → U) (marks : List (A × Mark U X)) : Prop :=
  ∀ a, Bracketed owner (table marks a) (about a marks)

variable {owner : X → U} {marks : List (A × Mark U X)}

theorem about_append_self (a : A) (m : Mark U X) :
    about a (marks ++ [(a,m)]) = about a marks ++ [m] := by
  simp [about]

theorem about_append_of_ne {a b : A} (h : b ≠ a) (m : Mark U X) :
    about a (marks ++ [(b,m)]) = about a marks := by
  simp [about,h]

theorem table_append (a b : A) (m : Mark U X) :
    table (marks ++ [(b,m)]) a = if a = b then after (table marks b) m else table marks a := by
  simp only [table,List.foldl_append,List.foldl_cons,List.foldl_nil,record,Function.update_apply]

theorem WellBracketed.nil : WellBracketed owner ([] : List (A × Mark U X)) := fun _ => .nil

theorem WellBracketed.append (h : WellBracketed owner marks) {a : A} {m : Mark U X}
    (hm : Bracketed owner (after (table marks a) m) (about a marks ++ [m])) :
    WellBracketed owner (marks ++ [(a,m)]) := by
  intro b
  rw [table_append]
  split
  · next e =>
    subst e
    rw [about_append_self]
    exact hm
  · next hne =>
    rw [about_append_of_ne (Ne.symm hne)]
    exact h b

theorem WellBracketed.opened (h : WellBracketed owner marks) {a : A} (ha : table marks a = none)
    (u : U) : WellBracketed owner (marks ++ [(a,.opened u)]) := by
  apply h.append
  have hb := h a
  rw [ha] at hb
  exact .opened u hb

theorem WellBracketed.used (h : WellBracketed owner marks) {a : A} {x : X}
    (ha : table marks a = some (owner x)) : WellBracketed owner (marks ++ [(a,.used x)]) := by
  apply h.append
  have hb := h a
  rw [ha] at hb ⊢
  exact .used hb rfl

theorem WellBracketed.closed (h : WellBracketed owner marks) {a : A} {u : U}
    (ha : table marks a = some u) : WellBracketed owner (marks ++ [(a,.closed)]) := by
  apply h.append
  have hb := h a
  rw [ha] at hb
  exact .closed hb

section Fits

def Fits (owner : X → U) (u : Option U) : Mark U X → Prop
  | .opened _ => u = none
  | .used x => u = some (owner x)
  | .closed => u ≠ none

theorem Bracketed.last {u : Option U} {marks : List (Mark U X)} {m : Mark U X}
    (h : Bracketed owner u (marks ++ [m])) :
    ∃ u', Bracketed owner u' marks ∧ Fits owner u' m ∧ u = after u' m := by
  generalize hall : marks ++ [m] = all at h
  cases h with
  | nil => simp at hall
  | opened u' hb =>
    obtain ⟨rfl,hm⟩ := List.append_inj' hall rfl
    obtain rfl := List.singleton_inj.mp hm
    exact ⟨none,hb,rfl,rfl⟩
  | @used _ u' x hb ho =>
    obtain ⟨rfl,hm⟩ := List.append_inj' hall rfl
    obtain rfl := List.singleton_inj.mp hm
    exact ⟨some u',hb,congrArg some ho.symm,rfl⟩
  | @closed _ u' hb =>
    obtain ⟨rfl,hm⟩ := List.append_inj' hall rfl
    obtain rfl := List.singleton_inj.mp hm
    exact ⟨some u',hb,Option.some_ne_none u',rfl⟩

theorem Bracketed.holder {u : Option U} {marks : List (Mark U X)} (h : Bracketed owner u marks) :
    marks.foldl after none = u := by
  induction h with
  | nil => rfl
  | opened u hb ih => rw [List.foldl_append,ih]; rfl
  | used hb ho ih => rw [List.foldl_append,ih]; rfl
  | closed hb ih => rw [List.foldl_append,ih]; rfl

theorem table_about (a : A) (marks : List (A × Mark U X)) :
    table marks a = (about a marks).foldl after none := by
  induction marks using List.reverseRecOn with
  | nil => rfl
  | append_singleton marks m ih =>
    obtain ⟨b,m⟩ := m
    rw [table_append]
    split
    · next he =>
      subst he
      rw [about_append_self,List.foldl_append,← ih]
      rfl
    · next hne => rw [about_append_of_ne (Ne.symm hne),ih]

theorem WellBracketed.last {a : A} {m : Mark U X} (h : WellBracketed owner (marks ++ [(a,m)])) :
    WellBracketed owner marks ∧ Fits owner (table marks a) m := by
  obtain ⟨u,hb,hfits,-⟩ := Bracketed.last (about_append_self a m ▸ h a)
  have hu : table marks a = u := (table_about a marks).trans hb.holder
  refine ⟨fun b => ?_,hu ▸ hfits⟩
  by_cases hab : a = b
  · subst hab
    exact hu ▸ hb
  · have hother := h b
    rwa [table_append,if_neg (Ne.symm hab),about_append_of_ne hab] at hother

theorem WellBracketed.before {rest : List (A × Mark U X)}
    (h : WellBracketed owner (marks ++ rest)) : WellBracketed owner marks := by
  induction rest using List.reverseRecOn with
  | nil => rwa [List.append_nil] at h
  | append_singleton rest last ih =>
    rw [← List.append_assoc] at h
    exact ih h.last.1

theorem WellBracketed.fits {rest : List (A × Mark U X)} {a : A} {m : Mark U X}
    (h : WellBracketed owner (marks ++ (a,m) :: rest)) : Fits owner (table marks a) m := by
  rw [List.append_cons] at h
  exact h.before.last.2

end Fits

end Sessions
