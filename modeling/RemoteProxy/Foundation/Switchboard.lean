import Mathlib.Logic.Function.Basic
import Mathlib.Logic.Relation

namespace Switchboard

/-- What a line is for: it offers something under its name, or it is put through to a line that
does, at an address there; an orphan is put through to nobody any more. -/
inductive Role (L N A : Type) where
  | unknown
  | waiting
  | server (name : N)
  | client (name : N) (server : L) (address : A)
  | orphan (name : N)
  | leaving
  | gone
  deriving DecidableEq

variable {L N A : Type}

namespace Role

def name : Role L N A → Option N
  | .server n => some n
  | .client n _ _ => some n
  | .orphan n => some n
  | _ => none

def Present : Role L N A → Prop
  | .unknown => False
  | .leaving => False
  | .gone => False
  | _ => True

def Departed (r : Role L N A) : Prop := r = .leaving ∨ r = .gone

inductive Precedes : Role L N A → Role L N A → Prop where
  | refl {r : Role L N A} : Precedes r r
  | unknown {r : Role L N A} : Precedes .unknown r
  | waiting {r : Role L N A} : r ≠ .unknown → Precedes .waiting r
  | orphaned {n : N} {s : L} {a : A} : Precedes (.client n s a) (.orphan n)
  | leaving {r : Role L N A} : r ≠ .gone → Precedes r .leaving
  | gone {r : Role L N A} : Precedes r .gone

variable {r r' r'' : Role L N A}

theorem Precedes.known (h : Precedes r r') (hr : r ≠ .unknown) : r' ≠ .unknown := by
  cases h with
  | refl => exact hr
  | unknown => exact absurd rfl hr
  | waiting hr' => exact hr'
  | orphaned => simp
  | leaving _ => simp
  | gone => simp

theorem Precedes.left (h : Precedes .gone r) : r = .gone := by
  cases h with
  | refl => rfl
  | leaving hr => exact absurd rfl hr
  | gone => rfl

theorem Precedes.trans (h : Precedes r r') (h' : Precedes r' r'') : Precedes r r'' := by
  cases h with
  | refl => exact h'
  | unknown => exact .unknown
  | waiting hr => exact .waiting (h'.known hr)
  | orphaned =>
    cases h' with
    | refl => exact .orphaned
    | leaving _ => exact .leaving (by simp)
    | gone => exact .gone
  | leaving hr =>
    cases h' with
    | refl => exact .leaving hr
    | leaving _ => exact .leaving hr
    | gone => exact .gone
  | gone => rw [h'.left]; exact .gone

theorem Precedes.departed (h : Precedes r r') (hr : r.Departed) : r'.Departed := by
  rcases hr with rfl | rfl
  · cases h with
    | refl => exact .inl rfl
    | leaving _ => exact .inl rfl
    | gone => exact .inr rfl
  · exact .inr h.left

end Role

/-- No name is taken twice, and what a client is put through to is a server, or was and leaves. -/
structure Board (L N A : Type) where
  role : L → Role L N A
  named : ∀ l l' n, (role l).name = some n → (role l').name = some n → l = l'
  attached : ∀ l n s a, role l = .client n s a → (∃ m, role s = .server m) ∨ role s = .leaving

namespace Board

variable {b b' b'' : Board L N A} {l : L} {r : Role L N A}

theorem eq_of_role (h : b.role = b'.role) : b = b' := by
  cases b
  cases b'
  cases h
  rfl

def empty (L N A : Type) : Board L N A := ⟨fun _ => .unknown,by simp [Role.name],by simp⟩

inductive Move (b : Board L N A) (l : L) : Role L N A → Prop where
  | arrive : b.role l = .unknown → Move b l .waiting
  | serve {n : N} : b.role l = .waiting → (∀ l', (b.role l').name ≠ some n) →
      Move b l (.server n)
  | attach {n m : N} {s : L} {a : A} : b.role l = .waiting → (∀ l', (b.role l').name ≠ some n) →
      b.role s = .server m → Move b l (.client n s a)
  | orphan {n : N} {s : L} {a : A} : b.role l = .client n s a → b.role s = .leaving →
      Move b l (.orphan n)
  | depart : (b.role l).Present → Move b l .leaving
  | leave : b.role l = .leaving → (∀ l' n a, b.role l' ≠ .client n l a) → Move b l .gone

theorem Move.precedes (h : Move b l r) : (b.role l).Precedes r := by
  cases h with
  | arrive hl => rw [hl]; exact .unknown
  | serve hl _ => rw [hl]; exact .waiting (by simp)
  | attach hl _ _ => rw [hl]; exact .waiting (by simp)
  | orphan hl _ => rw [hl]; exact .orphaned
  | depart hl =>
    refine .leaving fun hgone => ?_
    rw [hgone] at hl
    exact hl
  | leave _ _ => exact .gone

theorem Move.name (h : Move b l r) {n : N} (hn : r.name = some n) :
    (b.role l).name = some n ∨ ∀ l', (b.role l').name ≠ some n := by
  cases h with
  | arrive _ => cases hn
  | serve _ hfree => exact .inr (Option.some.inj hn ▸ hfree)
  | attach _ hfree _ => exact .inr (Option.some.inj hn ▸ hfree)
  | orphan hl _ =>
    rw [hl]
    exact .inl hn
  | depart _ => cases hn
  | leave _ _ => cases hn

theorem Move.peer (h : Move b l r) (hl : (∃ m, b.role l = .server m) ∨ b.role l = .leaving)
    (hto : ∃ x n a, b.role x = .client n l a) : r = .leaving := by
  have hrole : ∀ {r' : Role L N A}, b.role l = r' → (∃ m, r' = .server m) ∨ r' = .leaving :=
    fun he => he ▸ hl
  cases h with
  | arrive hr => simpa using hrole hr
  | serve hr _ => simpa using hrole hr
  | attach hr _ _ => simpa using hrole hr
  | orphan hr _ => simpa using hrole hr
  | depart _ => rfl
  | leave _ hnone =>
    obtain ⟨x,n,a,hx⟩ := hto
    exact absurd hx (hnone x n a)

variable [DecidableEq L]

def move (b : Board L N A) (l : L) (r : Role L N A) (h : Move b l r) : Board L N A where
  role := Function.update b.role l r
  named := by
    intro x y n hx hy
    rw [Function.update_apply] at hx hy
    split at hx
    · next ex =>
      split at hy
      · next ey => rw [ex,ey]
      · rcases h.name hx with hl | hfree
        · rw [ex]
          exact b.named l y n hl hy
        · exact absurd hy (hfree y)
    · split at hy
      · next ey =>
        rcases h.name hy with hl | hfree
        · rw [ey]
          exact b.named x l n hx hl
        · exact absurd hx (hfree x)
      · exact b.named x y n hx hy
  attached := by
    intro x n s a hx
    rw [Function.update_apply] at hx
    split at hx
    · cases h with
      | attach hl _ hserver =>
        cases hx
        have hne : s ≠ l := by
          rintro rfl
          rw [hl] at hserver
          cases hserver
        rw [Function.update_of_ne hne]
        exact .inl ⟨_,hserver⟩
      | _ => cases hx
    · have hs := b.attached x n s a hx
      rcases eq_or_ne s l with rfl | hne
      · rw [Function.update_self]
        exact .inr (h.peer hs ⟨x,n,a,hx⟩)
      · rw [Function.update_of_ne hne]
        exact hs

@[simp] theorem move_role (h : Move b l r) :
    (b.move l r h).role = Function.update b.role l r := rfl

def Step (b b' : Board L N A) : Prop := ∃ l r, ∃ h : Move b l r, b' = b.move l r h

abbrev Steps : Board L N A → Board L N A → Prop := Relation.ReflTransGen Step

theorem Step.of_role (h : Move b l r) (hb : b'.role = Function.update b.role l r) : Step b b' :=
  ⟨l,r,h,eq_of_role hb⟩

theorem step_precedes (h : Step b b') (l : L) : (b.role l).Precedes (b'.role l) := by
  obtain ⟨x,r,hm,rfl⟩ := h
  rcases eq_or_ne l x with rfl | hne
  · rw [move_role,Function.update_self]
    exact hm.precedes
  · rw [move_role,Function.update_of_ne hne]
    exact .refl

theorem steps_precede (h : Steps b b') (l : L) : (b.role l).Precedes (b'.role l) := by
  induction h with
  | refl => exact .refl
  | tail _ hstep ih => exact ih.trans (step_precedes hstep l)

theorem step_client (h : Step b b') {n : N} {s : L} {a : A} (hl : b.role l = .client n s a) :
    b'.role l = .client n s a ∨ (b'.role l = .orphan n ∧ (b'.role s).Departed) ∨
      (b'.role l).Departed := by
  have hprec := step_precedes h l
  rw [hl] at hprec
  generalize hr : b'.role l = r at hprec
  cases hprec with
  | refl => exact .inl rfl
  | orphaned =>
    refine .inr (.inl ⟨rfl,?_⟩)
    obtain ⟨x,r,hm,rfl⟩ := h
    rw [move_role,Function.update_apply] at hr
    split at hr
    · next hx =>
      subst hx
      subst hr
      cases hm with
      | orphan hl' hs =>
        rw [hl] at hl'
        cases hl'
        have hne : s ≠ l := by
          rintro rfl
          rw [hl] at hs
          cases hs
        rw [move_role,Function.update_of_ne hne]
        exact .inl hs
    · rw [hl] at hr
      cases hr
  | leaving _ => exact .inr (.inr (.inl rfl))
  | gone => exact .inr (.inr (.inr rfl))

theorem steps_client (h : Steps b b') {n : N} {s : L} {a : A} (hl : b.role l = .client n s a) :
    b'.role l = .client n s a ∨ (b'.role s).Departed ∨ (b'.role l).Departed := by
  induction h with
  | refl => exact .inl hl
  | tail _ hstep ih =>
    rcases ih with ih | ih | ih
    · exact (step_client hstep ih).imp_right (Or.imp_left And.right)
    · exact .inr (.inl ((step_precedes hstep s).departed ih))
    · exact .inr (.inr ((step_precedes hstep l).departed ih))

end Board

end Switchboard
