import Mathlib.Data.List.Infix
import RemoteProxy.Qt.Types

namespace RemoteProxy.QByteArray

variable {pattern b x y : QByteArray}

theorem startsWith_iff (b pattern : QByteArray) : startsWith b pattern = true ↔ pattern <+: b := by
  simp [startsWith]

theorem endsWith_iff (b pattern : QByteArray) : endsWith b pattern = true ↔ pattern <:+ b := by
  simp [endsWith]

theorem indexOf_none (hne : pattern ≠ []) (h : ¬pattern <:+: b) : indexOf pattern b = none := by
  induction b with
  | nil => rw [indexOf,if_neg hne]
  | cons a b ih =>
    have hs : startsWith (a :: b) pattern = false := by
      rw [← Bool.not_eq_true,startsWith_iff]
      exact fun hp => h hp.isInfix
    rw [indexOf,hs,ih fun hi => h (hi.trans (List.suffix_cons a b).isInfix)]
    rfl

theorem indexOf_ne_none (h : pattern <:+: b) : indexOf pattern b ≠ none := by
  induction b with
  | nil => simp [indexOf,List.eq_nil_of_infix_nil h]
  | cons a b ih =>
    rw [indexOf]
    split
    · simp
    · next hs =>
      rcases List.infix_cons_iff.mp h with hp | hi
      · exact absurd ((startsWith_iff _ _).mpr hp) hs
      · simpa using ih hi

theorem indexOf_cases {i : Nat} (hne : pattern ≠ []) (h : indexOf pattern b = some i) :
    ∃ x y, b = x ++ pattern ++ y ∧ x.length = i ∧ ¬pattern <:+: x ++ pattern.dropLast := by
  induction b generalizing i with
  | nil => simp [indexOf,hne] at h
  | cons a b ih =>
    rw [indexOf] at h
    split at h
    · next hs =>
      obtain ⟨y,hy⟩ := (startsWith_iff _ _).mp hs
      refine ⟨[],y,hy.symm,by simpa using h,fun hi => ?_⟩
      have hlt : pattern.dropLast.length < pattern.length := by
        have := List.length_pos_iff.mpr hne
        rw [List.length_dropLast]
        omega
      exact absurd hi.length_le (Nat.not_le_of_lt hlt)
    · next hs =>
      obtain ⟨j,hj,rfl⟩ := Option.map_eq_some_iff.mp h
      obtain ⟨x,y,rfl,hx,hfirst⟩ := ih hj
      refine ⟨a :: x,y,rfl,congrArg (· + 1) hx,fun hi => ?_⟩
      rcases List.infix_cons_iff.mp hi with hp | hi
      · rw [startsWith_iff] at hs
        have hcut : a :: (x ++ pattern.dropLast) <+: a :: (x ++ pattern ++ y) := by
          rw [List.append_assoc,List.cons_prefix_cons,List.prefix_append_right_inj]
          exact ⟨rfl,(List.dropLast_prefix pattern).trans (List.prefix_append _ _)⟩
        exact hs (hp.trans hcut)
      · exact hfirst hi

theorem indexOf_some (hne : pattern ≠ []) (h : ¬pattern <:+: x ++ pattern.dropLast)
    (y : QByteArray) : indexOf pattern (x ++ pattern ++ y) = some x.length := by
  induction x with
  | nil =>
    have hs : startsWith (pattern ++ y) pattern = true :=
      (startsWith_iff _ _).mpr (List.prefix_append _ _)
    obtain ⟨a,rest,rfl⟩ := List.exists_cons_of_ne_nil hne
    rw [List.nil_append,List.cons_append,indexOf,← List.cons_append,if_pos hs]
    rfl
  | cons a x ih =>
    have hs : startsWith (a :: x ++ pattern ++ y) pattern = false := by
      rw [← Bool.not_eq_true,startsWith_iff]
      intro hp
      have hcut : a :: x ++ pattern.dropLast <+: a :: x ++ pattern ++ y := by
        rw [List.append_assoc,List.prefix_append_right_inj]
        exact (List.dropLast_prefix pattern).trans (List.prefix_append _ _)
      refine h (List.prefix_of_prefix_length_le hp hcut ?_).isInfix
      simp only [List.length_append,List.length_cons,List.length_dropLast]
      omega
    have hx : ¬pattern <:+: x ++ pattern.dropLast :=
      fun hi => h (hi.trans (List.suffix_cons a _).isInfix)
    rw [List.cons_append,List.cons_append,indexOf,← List.cons_append,← List.cons_append,hs,ih hx]
    rfl

end RemoteProxy.QByteArray
