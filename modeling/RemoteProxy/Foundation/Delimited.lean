import Mathlib.Data.List.Basic
import Mathlib.Tactic.Common

namespace Delimited

variable {A R : Type} [DecidableEq A]

def scan (stop : A) (close : List A → R → List A × R) (s : List A × R) (x : A) : List A × R :=
  if x = stop then if s.1 = [] then s else close s.1 s.2 else (s.1 ++ [x], s.2)

def run (stop : A) (close : List A → R → List A × R) (s : List A × R) (xs : List A) : List A × R :=
  xs.foldl (scan stop close) s

def terminate (stop : A) (bodies : List (List A)) : List A := bodies.flatMap (· ++ [stop])

omit [DecidableEq A] in
theorem terminate_cons (stop : A) (b : List A) (bs : List (List A)) :
    terminate stop (b :: bs) = b ++ stop :: terminate stop bs := by
  simp [terminate]

omit [DecidableEq A] in
theorem append_stop_inj {stop : A} {as bs xs ys : List A} (ha : stop ∉ as) (hb : stop ∉ bs)
    (h : as ++ stop :: xs = bs ++ stop :: ys) : as = bs ∧ xs = ys := by
  induction as generalizing bs with
  | nil =>
    cases bs with
    | nil => exact ⟨rfl,(List.cons.inj h).2⟩
    | cons b bs => exact absurd (List.mem_cons.mpr (.inl (List.cons.inj h).1)) hb
  | cons a as ih =>
    cases bs with
    | nil => exact absurd (List.mem_cons.mpr (.inl (List.cons.inj h).1.symm)) ha
    | cons b bs =>
      obtain ⟨rfl,hrest⟩ := List.cons.inj h
      obtain ⟨rfl,hxs⟩ := ih (List.not_mem_of_not_mem_cons ha) (List.not_mem_of_not_mem_cons hb)
        hrest
      exact ⟨rfl,hxs⟩

omit [DecidableEq A] in
theorem terminate_injective {stop : A} {as bs : List (List A)} (has : ∀ a ∈ as, stop ∉ a)
    (hbs : ∀ b ∈ bs, stop ∉ b) (h : terminate stop as = terminate stop bs) : as = bs := by
  induction as generalizing bs with
  | nil =>
    cases bs with
    | nil => rfl
    | cons b bs =>
      rw [terminate_cons] at h
      exact absurd (congrArg List.length h) (by simp [terminate])
  | cons a as ih =>
    cases bs with
    | nil =>
      rw [terminate_cons] at h
      exact absurd (congrArg List.length h) (by simp [terminate])
    | cons b bs =>
      obtain ⟨ha,has⟩ := List.forall_mem_cons.mp has
      obtain ⟨hb,hbs⟩ := List.forall_mem_cons.mp hbs
      rw [terminate_cons,terminate_cons] at h
      obtain ⟨he,hrest⟩ := append_stop_inj ha hb h
      rw [he,ih has hbs hrest]

variable (stop : A) (close : List A → R → List A × R)

@[simp] theorem run_nil (s : List A × R) : run stop close s [] = s := rfl

theorem run_append (s : List A × R) (xs ys : List A) :
    run stop close s (xs ++ ys) = run stop close (run stop close s xs) ys := List.foldl_append

theorem run_body (body : List A) (h : stop ∉ body) (buf : List A) (r : R) :
    run stop close (buf,r) body = (buf ++ body,r) := by
  induction body generalizing buf with
  | nil => simp
  | cons x xs ih =>
    simp only [List.mem_cons,not_or] at h
    simp only [run,List.foldl_cons,scan,if_neg (Ne.symm h.1)]
    rw [← run,ih h.2,List.append_assoc,List.singleton_append]

theorem run_stop (buf : List A) (r : R) :
    run stop close (buf,r) [stop] = if buf = [] then (buf,r) else close buf r := by
  simp [run,scan]

theorem run_segment (body : List A) (h : stop ∉ body) (buf : List A) (r : R)
    (hne : buf ++ body ≠ []) :
    run stop close (buf,r) (body ++ [stop]) = close (buf ++ body) r := by
  rw [run_append,run_body stop close body h,run_stop,if_neg hne]

theorem run_terminate (bodies : List (List A)) (r : R)
    (h : ∀ b ∈ bodies, b ≠ [] ∧ stop ∉ b) (hclose : ∀ b ∈ bodies, ∀ r, (close b r).1 = []) :
    run stop close ([],r) (terminate stop bodies) =
      ([],bodies.foldl (fun r b => (close b r).2) r) := by
  induction bodies generalizing r with
  | nil => rfl
  | cons b bs ih =>
    obtain ⟨hb,hbs⟩ := List.forall_mem_cons.mp h
    obtain ⟨hc,hcs⟩ := List.forall_mem_cons.mp hclose
    have hs : terminate stop (b :: bs) = (b ++ [stop]) ++ terminate stop bs := by
      simp [terminate]
    have hseg : close b r = ([],(close b r).2) := Prod.ext (hc r) rfl
    rw [hs,run_append,run_segment stop close b hb.2 [] r (by simpa using hb.1),List.nil_append,
      hseg,ih _ hbs hcs,List.foldl_cons]

theorem run_preserves {P : R → Prop} (hclose : ∀ buf r, P r → P (close buf r).2) (buf : List A)
    {r : R} (h : P r) (xs : List A) : P (run stop close (buf,r) xs).2 := by
  have hscan : ∀ (s : List A × R) (x : A), P s.2 → P (scan stop close s x).2 := by
    intro s x hs
    rw [scan]
    split
    · split
      · exact hs
      · exact hclose _ _ hs
    · exact hs
  induction xs generalizing buf r with
  | nil => exact h
  | cons x xs ih => exact ih _ (hscan (buf,r) x h)

theorem run_length_le {B : Type} {close : List A → List B → List A × List B}
    (hclose : ∀ buf r, (close buf r).2.length ≤ r.length + 1) (s : List A × List B) (xs : List A) :
    (run stop close s xs).2.length ≤ s.2.length + xs.count stop := by
  induction xs generalizing s with
  | nil => simp
  | cons x xs ih =>
    apply Nat.le_trans (ih (scan stop close s x))
    by_cases hx : x = stop
    · have hone : (scan stop close s x).2.length ≤ s.2.length + 1 := by
        rw [scan,if_pos hx]
        split
        · exact Nat.le_succ _
        · exact hclose _ _
      have hcount : (x :: xs).count stop = xs.count stop + 1 := by rw [hx,List.count_cons_self]
      omega
    · have hnone : (scan stop close s x).2 = s.2 := by rw [scan,if_neg hx]
      have hcount : (x :: xs).count stop = xs.count stop := List.count_cons_of_ne hx
      exact Nat.le_of_eq (by rw [hnone,hcount])

theorem run_accumulate {B : Type} {close : List A → List B → List A × List B}
    (hclose : ∀ buf r, close buf r = ((close buf []).1,r ++ (close buf []).2)) (buf : List A)
    (r : List B) (xs : List A) :
    run stop close (buf,r) xs =
      ((run stop close (buf,[]) xs).1,r ++ (run stop close (buf,[]) xs).2) := by
  induction xs generalizing buf r with
  | nil => simp
  | cons x xs ih =>
    have hscan : scan stop close (buf,r) x =
        ((scan stop close (buf,[]) x).1,r ++ (scan stop close (buf,[]) x).2) := by
      simp only [scan]
      split
      · split
        · simp
        · exact hclose buf r
      · simp
    simp only [run,List.foldl_cons] at ih ⊢
    rw [hscan,ih,ih (scan stop close (buf,[]) x).1 (scan stop close (buf,[]) x).2]
    simp [List.append_assoc]

theorem run_fold {B : Type} {collect : List A → List B → List A × List B}
    {close : List A → R → List A × R} {act : R → B → R}
    (hcollect : ∀ buf r, collect buf r = ((collect buf []).1,r ++ (collect buf []).2))
    (hclose : ∀ buf r, close buf r = ((collect buf []).1,(collect buf []).2.foldl act r))
    (buf : List A) (r : R) (xs : List A) :
    run stop close (buf,r) xs =
      ((run stop collect (buf,[]) xs).1,(run stop collect (buf,[]) xs).2.foldl act r) := by
  induction xs generalizing buf r with
  | nil => rfl
  | cons x xs ih =>
    have hscan : scan stop close (buf,r) x =
        ((scan stop collect (buf,[]) x).1,(scan stop collect (buf,[]) x).2.foldl act r) := by
      simp only [scan]
      split
      · split
        · rfl
        · exact hclose buf r
      · rfl
    have hsplit := run_accumulate stop hcollect (scan stop collect (buf,[]) x).1
      (scan stop collect (buf,[]) x).2 xs
    simp only [run,List.foldl_cons] at ih hsplit ⊢
    rw [hscan,ih,hsplit,List.foldl_append]

section Split

def segments (stop : A) (xs : List A) : List (List A) :=
  (xs.splitOn stop).dropLast.filter (· ≠ [])

variable {stop}

theorem segments_body {body : List A} (h : stop ∉ body) : segments stop body = [] := by
  have hsplit : body.splitOn stop = [body] := by
    rw [List.splitOn_eq_splitOnP]
    refine List.splitOnP_eq_singleton fun x hx => ?_
    exact beq_false_of_ne (ne_of_mem_of_not_mem hx h)
  rw [segments,hsplit]
  rfl

theorem segments_stop {body : List A} (h : stop ∉ body) (xs : List A) :
    segments stop (body ++ stop :: xs) =
      (if body = [] then [] else [body]) ++ segments stop xs := by
  have hsplit : (body ++ stop :: xs).splitOn stop = body :: xs.splitOn stop := by
    rw [List.splitOn_eq_splitOnP,List.splitOn_eq_splitOnP]
    refine List.splitOnP_append_cons_of_forall_mem (p := (· == stop)) (fun x hx => ?_) stop
      (beq_self_eq_true stop) xs
    exact beq_false_of_ne (ne_of_mem_of_not_mem hx h)
  rw [segments,hsplit,List.dropLast_cons_of_ne_nil (List.splitOn_ne_nil stop xs),segments]
  by_cases hb : body = []
  · simp [hb]
  · simp [hb]

theorem run_segments {B : Type} {close : List A → List B → List A × List B}
    {out : List A → List B} (hclose : ∀ b r, close b r = ([],r ++ out b)) {buf : List A}
    (h : stop ∉ buf) (r : List B) (xs : List A) :
    (run stop close (buf,r) xs).2 = r ++ (segments stop (buf ++ xs)).flatMap out := by
  induction xs generalizing buf r with
  | nil => simp [segments_body h]
  | cons x xs ih =>
    by_cases hx : x = stop
    · subst hx
      rw [segments_stop h,run,List.foldl_cons,← run,scan,if_pos rfl]
      by_cases hb : buf = []
      · subst hb
        rw [if_pos rfl,if_pos rfl,ih h]
        rfl
      · rw [if_neg hb,if_neg hb,hclose,ih List.not_mem_nil,List.append_assoc]
        rfl
    · have hbuf : stop ∉ buf ++ [x] := by
        simp [h,Ne.symm hx]
      rw [run,List.foldl_cons,← run,scan,if_neg hx,ih hbuf,List.append_assoc]
      rfl

end Split

end Delimited
