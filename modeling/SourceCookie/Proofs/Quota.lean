import SourceCookie.Quota

/-!
How many uses a quota admits. What it has charged and not yet made up for is a debt: a use that is
admitted adds to it, time takes from it, and no use is admitted once it is over the tolerance.
-/

namespace SourceCookie

namespace Quota

inductive Moment where
  | use
  | elapse (nanoseconds : Nat)

namespace Moment

def time : Moment → Nat
  | .use => 0
  | .elapse nanoseconds => nanoseconds

end Moment

def next (q : Quota) : Moment → Quota
  | .use => q.use.2
  | .elapse nanoseconds => q.elapse nanoseconds

def admits (q : Quota) : Moment → Nat
  | .use => q.use.1.toNat
  | .elapse _ => 0

def admitted (q : Quota) : List Moment → Nat
  | [] => 0
  | m :: ms => q.admits m + (q.next m).admitted ms

def elapsed : List Moment → Nat
  | [] => 0
  | m :: ms => m.time + elapsed ms

def debt (q : Quota) : Nat := q.backlog.getD q.spacing

variable (q : Quota) (ms : List Moment)

theorem use_of_le (h : q.debt ≤ q.tolerance)
    : q.use = (true, { q with backlog := some (q.debt + q.spacing) }) := by
  rw [debt] at h
  simp only [use, debt, if_pos h]

theorem use_of_lt (h : q.tolerance < q.debt) : q.use = (false, q) := by
  rw [debt] at h
  simp only [use, if_neg (Nat.not_le.mpr h)]

@[simp]
theorem burst_next (m : Moment) : (q.next m).burst = q.burst := by
  cases m with
  | use =>
    by_cases h : q.debt ≤ q.tolerance
    . simp [next, use_of_le q h]
    . simp [next, use_of_lt q (Nat.lt_of_not_le h)]
  | elapse nanoseconds => rfl

@[simp]
theorem spacing_next (m : Moment) : (q.next m).spacing = q.spacing := by
  cases m with
  | use =>
    by_cases h : q.debt ≤ q.tolerance
    . simp [next, use_of_le q h]
    . simp [next, use_of_lt q (Nat.lt_of_not_le h)]
  | elapse nanoseconds => rfl

@[simp]
theorem tolerance_next (m : Moment) : (q.next m).tolerance = q.tolerance := by
  simp only [tolerance, burst_next, spacing_next]

theorem debt_elapse (nanoseconds : Nat)
    : q.debt - nanoseconds ≤ (q.elapse nanoseconds).debt ∧ (q.elapse nanoseconds).debt ≤ q.debt := by
  cases hb : q.backlog <;> simp [debt, elapse, hb]

theorem debt_add_admits_le (m : Moment)
    : q.debt + q.admits m * q.spacing ≤ (q.next m).debt + m.time := by
  cases m with
  | use =>
    by_cases h : q.debt ≤ q.tolerance
    . simp [admits, next, use_of_le q h, debt, Moment.time]
    . simp [admits, next, use_of_lt q (Nat.lt_of_not_le h), Moment.time]
  | elapse nanoseconds =>
    have := (q.debt_elapse nanoseconds).1
    simp only [admits, next, Moment.time]
    omega

theorem debt_next_le (m : Moment) (hd : q.debt ≤ q.tolerance + q.spacing)
    : (q.next m).debt ≤ q.tolerance + q.spacing := by
  cases m with
  | use =>
    by_cases h : q.debt ≤ q.tolerance
    . simpa [next, use_of_le q h, debt] using h
    . simpa [next, use_of_lt q (Nat.lt_of_not_le h)] using hd
  | elapse nanoseconds => exact Nat.le_trans (q.debt_elapse nanoseconds).2 hd

theorem debt_add_admitted_le (hd : q.debt ≤ q.tolerance + q.spacing)
    : q.debt + q.admitted ms * q.spacing ≤ q.tolerance + q.spacing + elapsed ms := by
  induction ms generalizing q with
  | nil => simpa [admitted, elapsed] using hd
  | cons m ms ih =>
    have hfirst := q.debt_add_admits_le m
    have hrest := ih (q.next m) (by simpa using q.debt_next_le m hd)
    rw [tolerance_next, spacing_next] at hrest
    simp only [admitted, elapsed, Nat.add_mul] at hrest ⊢
    omega

variable (burst : Nat)

/-- However the uses are spread, no more are admitted than the burst and what time makes up for. -/
theorem admitted_perMinute_le
    : (perMinute burst).admitted ms * (perMinute burst).spacing
        ≤
      burst * (perMinute burst).spacing + elapsed ms := by
  have hdebt : (perMinute burst).debt = (perMinute burst).spacing := rfl
  have hbound := (perMinute burst).debt_add_admitted_le ms (by omega)
  have htolerance : (perMinute burst).tolerance = burst * (perMinute burst).spacing := rfl
  omega

theorem admitted_replicate_use (used count : Nat) (hs : 0 < q.spacing)
    (hd : q.debt = (used + 1) * q.spacing)
    : q.admitted (List.replicate count .use) = min count (q.burst - used) := by
  induction count generalizing q used with
  | zero => simp [admitted]
  | succ count ih =>
    rw [List.replicate_succ, admitted]
    have hiff : q.debt ≤ q.tolerance ↔ used + 1 ≤ q.burst := by
      rw [hd, tolerance, Nat.mul_le_mul_right_iff hs]
    -- so far `used` uses were charged, and one more at the start
    by_cases h : used + 1 ≤ q.burst
    . have huse := use_of_le q (hiff.mpr h)
      have hdebt : (q.next .use).debt = (used + 1 + 1) * (q.next .use).spacing := by
        rw [spacing_next, next, huse, debt, Option.getD_some, hd, Nat.succ_mul (used + 1)]
      rw [ih (q.next .use) (used + 1) (by rwa [spacing_next]) hdebt, burst_next, admits, huse]
      simp only [Bool.toNat_true]
      omega
    . have huse := use_of_lt q (Nat.lt_of_not_le (mt hiff.mp h))
      rw [next, huse, ih q used hs hd, admits, huse]
      simp only [Bool.toNat_false]
      omega

theorem admitted_perMinute_replicate_use (count : Nat) (h : 0 < burst) (hle : burst ≤ minute)
    : (perMinute burst).admitted (List.replicate count .use) = min count burst := by
  have hs : 0 < (perMinute burst).spacing := Nat.div_pos hle h
  have hd : (perMinute burst).debt = (0 + 1) * (perMinute burst).spacing := by simp [debt, perMinute]
  exact admitted_replicate_use (perMinute burst) 0 count hs hd

end Quota

end SourceCookie
