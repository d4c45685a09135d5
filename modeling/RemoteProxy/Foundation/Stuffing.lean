import Mathlib.Data.List.Basic
import Mathlib.Data.List.Induction
import Mathlib.Tactic.Common

namespace Stuffing

structure Alphabet (A : Type) where
  stop : A
  esc : A
  tstop : A
  tesc : A
  stop_ne_esc : stop ≠ esc
  stop_ne_tstop : stop ≠ tstop
  stop_ne_tesc : stop ≠ tesc
  tstop_ne_tesc : tstop ≠ tesc
  esc_ne_tstop : esc ≠ tstop
  esc_ne_tesc : esc ≠ tesc

variable {A : Type} [DecidableEq A] (c : Alphabet A)

def stuffOne (x : A) : List A :=
  if x = c.stop then [c.esc,c.tstop] else if x = c.esc then [c.esc,c.tesc] else [x]

def stuff (xs : List A) : List A := xs.flatMap (stuffOne c)

def Clean (xs : List A) : Prop := c.stop ∉ xs ∧ c.esc ∉ xs

instance (xs : List A) : Decidable (Clean c xs) := inferInstanceAs (Decidable (_ ∧ _))

def unstuffFrom : Bool → List A → Option (List A)
  | _, [] => some []
  | true, x :: xs =>
    if x = c.tstop then (unstuffFrom false xs).map (c.stop :: ·)
    else if x = c.tesc then (unstuffFrom false xs).map (c.esc :: ·)
    else none
  | false, x :: xs =>
    if x = c.esc then unstuffFrom true xs
    else if x = c.stop then some []
    else (unstuffFrom false xs).map (x :: ·)

def unstuff (xs : List A) : Option (List A) := unstuffFrom c false xs

@[simp] theorem stuff_nil : stuff c [] = [] := rfl

@[simp] theorem stuff_cons (x : A) (xs : List A) :
    stuff c (x :: xs) = stuffOne c x ++ stuff c xs := rfl

@[simp] theorem stuff_append (xs ys : List A) : stuff c (xs ++ ys) = stuff c xs ++ stuff c ys := by
  simp [stuff]

theorem stuffOne_ne_nil (x : A) : stuffOne c x ≠ [] := by
  unfold stuffOne
  split
  · simp
  · split <;> simp

theorem stop_not_mem_stuffOne (x : A) : c.stop ∉ stuffOne c x := by
  unfold stuffOne
  split
  · simp [c.stop_ne_esc, c.stop_ne_tstop]
  · split
    · simp [c.stop_ne_esc, c.stop_ne_tesc]
    · next h _ => simpa using Ne.symm h

theorem stop_not_mem_stuff (xs : List A) : c.stop ∉ stuff c xs := by
  simp only [stuff, List.mem_flatMap, not_exists, not_and]
  exact fun x _ => stop_not_mem_stuffOne c x

theorem stuff_ne_nil {xs : List A} (h : xs ≠ []) : stuff c xs ≠ [] := by
  obtain ⟨x,xs,rfl⟩ := List.exists_cons_of_ne_nil h
  simp [stuffOne_ne_nil]

theorem unstuff_stuffOne (x : A) (ys : List A) :
    unstuff c (stuffOne c x ++ ys) = (unstuff c ys).map (x :: ·) := by
  unfold stuffOne unstuff
  split
  · next h => subst h; simp [unstuffFrom]
  · next h =>
    split
    · next he => subst he; simp [unstuffFrom, c.tstop_ne_tesc.symm]
    · next he => simp [unstuffFrom, h, he]

theorem unstuff_stuff (xs ys : List A) :
    unstuff c (stuff c xs ++ ys) = (unstuff c ys).map (xs ++ ·) := by
  induction xs with
  | nil => simp
  | cons x xs ih =>
    rw [stuff_cons,List.append_assoc,unstuff_stuffOne,ih,Option.map_map]
    rfl

theorem unstuff_stuff_stop (xs ys : List A) : unstuff c (stuff c xs ++ c.stop :: ys) = some xs := by
  rw [unstuff_stuff]
  simp [unstuff, unstuffFrom, c.stop_ne_esc]

theorem unstuff_stuff_nil (xs : List A) : unstuff c (stuff c xs) = some xs := by
  simpa [unstuff, unstuffFrom] using unstuff_stuff c xs []

theorem stuff_injective {xs ys : List A} (h : stuff c xs = stuff c ys) : xs = ys := by
  have hu := unstuff_stuff_nil c xs
  rw [h,unstuff_stuff_nil,Option.some.injEq] at hu
  exact hu.symm

section Malformed

theorem unstuff_open (xs : List A) : unstuff c (stuff c xs ++ [c.esc]) = some xs := by
  rw [unstuff_stuff]
  simp [unstuff, unstuffFrom]

theorem unstuff_unknown (xs : List A) {x : A} (hs : x ≠ c.tstop) (he : x ≠ c.tesc)
    (rest : List A) : unstuff c (stuff c xs ++ c.esc :: x :: rest) = none := by
  rw [unstuff_stuff]
  simp [unstuff, unstuffFrom, hs, he]

theorem stuff_ne_open (xs ys : List A) : stuff c xs ≠ stuff c ys ++ [c.esc] := by
  intro h
  have hu := unstuff_stuff_nil c xs
  rw [h,unstuff_open,Option.some.injEq] at hu
  subst hu
  exact absurd (congrArg List.length h) (by simp)

theorem stuff_cases : ∀ xs : List A, c.stop ∉ xs →
    (∃ ys, xs = stuff c ys) ∨ (∃ ys, xs = stuff c ys ++ [c.esc]) ∨
      ∃ ys x rest, xs = stuff c ys ++ c.esc :: x :: rest ∧ x ≠ c.tstop ∧ x ≠ c.tesc
  | [], _ => .inl ⟨[],rfl⟩
  | [x], h => by
    have hx : x ≠ c.stop := fun e => h (by simp [e])
    by_cases he : x = c.esc
    · exact .inr (.inl ⟨[],by rw [he]; rfl⟩)
    · exact .inl ⟨[x],by simp [stuffOne, hx, he]⟩
  | x :: y :: rest, h => by
    have hx : x ≠ c.stop := fun e => h (by simp [e])
    by_cases he : x = c.esc
    · subst he
      have hone (z : A) (hz : stuffOne c z = [c.esc,y]) :
          (∃ ys, c.esc :: y :: rest = stuff c ys) ∨
          (∃ ys, c.esc :: y :: rest = stuff c ys ++ [c.esc]) ∨
            ∃ ys x more, c.esc :: y :: rest = stuff c ys ++ c.esc :: x :: more ∧
              x ≠ c.tstop ∧ x ≠ c.tesc := by
        have hrest : c.stop ∉ rest := fun hm => h (by simp [hm])
        rcases stuff_cases rest hrest with ⟨ys,rfl⟩ | ⟨ys,rfl⟩ | ⟨ys,w,more,rfl,hw⟩
        · exact .inl ⟨z :: ys,by simp [hz]⟩
        · exact .inr (.inl ⟨z :: ys,by simp [hz]⟩)
        · exact .inr (.inr ⟨z :: ys,w,more,by simp [hz],hw⟩)
      by_cases hs : y = c.tstop
      · exact hone c.stop (by simp [stuffOne, hs])
      · by_cases ht : y = c.tesc
        · exact hone c.esc (by simp [stuffOne, ht, c.stop_ne_esc.symm])
        · exact .inr (.inr ⟨[],y,rest,rfl,hs,ht⟩)
    · have hone : stuffOne c x = [x] := by simp [stuffOne, hx, he]
      have hrest : c.stop ∉ y :: rest := fun hm => h (List.mem_cons_of_mem _ hm)
      rcases stuff_cases (y :: rest) hrest with ⟨ys,hy⟩ | ⟨ys,hy⟩ | ⟨ys,w,more,hy,hw⟩
      · exact .inl ⟨x :: ys,by simp [hone, hy]⟩
      · exact .inr (.inl ⟨x :: ys,by simp [hone, hy]⟩)
      · exact .inr (.inr ⟨x :: ys,w,more,by simp [hone, hy],hw⟩)

end Malformed

theorem length_le_stuff (xs : List A) : xs.length ≤ (stuff c xs).length := by
  induction xs with
  | nil => simp
  | cons x xs ih =>
    have := List.length_pos_of_ne_nil (stuffOne_ne_nil c x)
    simp only [stuff_cons,List.length_append,List.length_cons]
    omega

theorem stuff_eq_self_iff (xs : List A) : stuff c xs = xs ↔ Clean c xs := by
  induction xs with
  | nil => simp [Clean]
  | cons x xs ih =>
    by_cases hx : x = c.stop ∨ x = c.esc
    · have h2 : (stuffOne c x).length = 2 := by
        rcases hx with rfl | rfl
        · simp [stuffOne]
        · simp [stuffOne, c.stop_ne_esc.symm]
      constructor
      · intro he
        have hl := congrArg List.length he
        have := length_le_stuff c xs
        simp only [stuff_cons,List.length_append,h2,List.length_cons] at hl
        omega
      · intro hc
        rcases hx with rfl | rfl <;> simp [Clean] at hc
    · rw [not_or] at hx
      have h1 : stuffOne c x = [x] := by simp [stuffOne, hx]
      simp only [stuff_cons,h1,List.singleton_append,List.cons.injEq,true_and,ih]
      simp [Clean, Ne.symm hx.1, Ne.symm hx.2]

section Suffix

theorem stuffOne_split {x : A} {ys lead rest : List A} (h : stuffOne c x ++ ys = lead ++ rest) :
    (∃ more, lead = stuffOne c x ++ more ∧ ys = more ++ rest) ∨ lead = [] ∨
      ∃ t, t ≠ x ∧ lead = [c.esc] ∧ rest = t :: ys ∧ unstuff c (t :: ys) =
        (unstuff c ys).map (t :: ·) := by
  rcases List.append_eq_append_iff.mp h with ⟨more,hl,hy⟩ | ⟨more,hx,hr⟩
  · exact .inl ⟨more,hl,hy⟩
  · match lead,hx with
    | [],_ => exact .inr (.inl rfl)
    | y :: lead,hx =>
      unfold stuffOne at hx
      split at hx
      · next hstop =>
        match lead,hx with
        | [],hx =>
          simp only [List.cons_append,List.nil_append,List.cons.injEq] at hx
          obtain ⟨rfl,rfl⟩ := hx
          refine .inr (.inr ⟨c.tstop,fun e => c.stop_ne_tstop (hstop.symm.trans e.symm),rfl,hr,?_⟩)
          rw [unstuff,unstuffFrom,if_neg c.esc_ne_tstop.symm,if_neg c.stop_ne_tstop.symm]
          rfl
        | z :: lead,hx =>
          simp only [List.cons_append,List.cons.injEq,List.nil_eq,List.append_eq_nil_iff] at hx
          obtain ⟨rfl,rfl,rfl,rfl⟩ := hx
          refine .inl ⟨[],by simp [stuffOne,hstop],by simpa using hr.symm⟩
      · split at hx
        · next hesc =>
          match lead,hx with
          | [],hx =>
            simp only [List.cons_append,List.nil_append,List.cons.injEq] at hx
            obtain ⟨rfl,rfl⟩ := hx
            refine .inr (.inr ⟨c.tesc,fun e => c.esc_ne_tesc (hesc.symm.trans e.symm),rfl,hr,?_⟩)
            rw [unstuff,unstuffFrom,if_neg c.esc_ne_tesc.symm,if_neg c.stop_ne_tesc.symm]
            rfl
          | z :: lead,hx =>
            simp only [List.cons_append,List.cons.injEq,List.nil_eq,List.append_eq_nil_iff] at hx
            obtain ⟨rfl,rfl,rfl,rfl⟩ := hx
            refine .inl ⟨[],by simp [stuffOne,hesc,c.stop_ne_esc.symm],by simpa using hr.symm⟩
        · next hstop hesc =>
          simp only [List.cons_append,List.cons.injEq,List.nil_eq,List.append_eq_nil_iff] at hx
          obtain ⟨rfl,rfl,rfl⟩ := hx
          refine .inl ⟨[],by simp [stuffOne,hstop,hesc],by simpa using hr.symm⟩

theorem length_unstuff_suffix {xs lead rest ys : List A} (h : stuff c xs = lead ++ rest)
    (hu : unstuff c rest = some ys) : ys.length ≤ xs.length := by
  induction xs generalizing lead with
  | nil =>
    obtain ⟨-,rfl⟩ := List.append_eq_nil_iff.mp h.symm
    rw [show unstuff c [] = some [] from rfl,Option.some.injEq] at hu
    simp [← hu]
  | cons x xs ih =>
    rw [stuff_cons] at h
    rcases stuffOne_split c h with ⟨more,-,hy⟩ | rfl | ⟨t,-,-,rfl,ht⟩
    · exact Nat.le_succ_of_le (ih hy)
    · rw [List.nil_append,← stuff_cons] at h
      rw [← h,unstuff_stuff_nil,Option.some.injEq] at hu
      exact Nat.le_of_eq (congrArg List.length hu.symm)
    · rw [ht,unstuff_stuff_nil,Option.map_some,Option.some.injEq] at hu
      apply Nat.le_of_eq
      rw [← hu,List.length_cons,List.length_cons]

theorem unstuff_suffix_ne {xs lead rest : List A} (h : stuff c xs = lead ++ rest)
    (hne : lead ≠ []) : unstuff c rest ≠ some xs := by
  cases xs with
  | nil => exact absurd (List.append_eq_nil_iff.mp h.symm).1 hne
  | cons x xs =>
    intro hu
    rw [stuff_cons] at h
    rcases stuffOne_split c h with ⟨more,-,hy⟩ | rfl | ⟨t,htx,-,rfl,ht⟩
    · exact absurd (length_unstuff_suffix c hy hu) (by simp)
    · exact hne rfl
    · rw [ht,unstuff_stuff_nil,Option.map_some,Option.some.injEq] at hu
      exact htx (List.cons.inj hu).1

theorem clean_of_suffix {xs : List A} (h : xs <:+ stuff c xs) : Clean c xs := by
  have hesc : ∀ zs : List A, xs ++ zs <:+ stuff c xs ++ zs → c.stop ∉ xs → c.esc ∉ xs := by
    clear h
    induction xs using List.reverseRecOn with
    | nil => simp
    | append_singleton xs x ih =>
      intro zs h hstop hmem
      have hne : x ≠ c.stop := fun he => hstop (by simp [he])
      rw [stuff_append,stuff_cons,stuff_nil,List.append_nil,stuffOne,if_neg hne] at h
      split at h
      · next he =>
        rw [List.suffix_append_self_iff,List.append_cons (stuff c xs) c.esc [c.tesc]] at h
        rcases List.suffix_concat_iff.mp h with hnil | ⟨t,ht,-⟩
        · simp at hnil
        · have hlast := List.append_inj_right' ht rfl
          exact c.esc_ne_tesc (he.symm.trans (List.singleton_inj.mp hlast))
      · next he =>
        rw [List.append_assoc,List.append_assoc] at h
        refine ih ([x] ++ zs) h (fun hm => hstop (List.mem_append_left _ hm)) ?_
        rcases List.mem_append.mp hmem with hm | hm
        · exact hm
        · exact absurd (List.mem_singleton.mp hm).symm he
  have hstop : c.stop ∉ xs := fun hm => stop_not_mem_stuff c xs (h.subset hm)
  exact ⟨hstop,hesc [] (by simpa using h) hstop⟩

end Suffix

end Stuffing
