import Mathlib.Tactic.IntervalCases
import SourceCookie.Date

/-!
Days counted in a row. The day after a date and the day before it are one away, and dates that exist are
known by their numbers.
-/

namespace SourceCookie

namespace Date

variable {d d' : Date} {year year' : Int} {month month' : Nat}

def daysBeforeYear (year : Int) : Int :=
  365 * year + (year + 3) / 4 - (year + 99) / 100 + (year + 399) / 400

def daysBeforeMonth (year : Int) : Nat → Nat
  | 0 | 1 => 0
  | month + 2 => daysBeforeMonth year (month + 1) + daysInMonth year (month + 1)

/-- The number of a day, counted from the day before the beginning of year 0. -/
def number (d : Date) : Int :=
  daysBeforeYear d.year + daysBeforeMonth d.year d.month + d.day

section Lengths

theorem isLeapYear_iff : isLeapYear year = true ↔ year % 4 = 0 ∧ (year % 100 ≠ 0 ∨ year % 400 = 0) := by
  simp [isLeapYear]

theorem daysBeforeYear_add_one (year : Int)
    : daysBeforeYear (year + 1) = daysBeforeYear year + 365 + if isLeapYear year = true then 1 else 0 := by
  unfold daysBeforeYear
  split
  . next h =>
    rw [isLeapYear_iff] at h
    omega
  . next h =>
    rw [isLeapYear_iff] at h
    omega

theorem daysBeforeYear_le (h : year ≤ year') : daysBeforeYear year ≤ daysBeforeYear year' := by
  unfold daysBeforeYear
  omega

theorem daysBeforeMonth_add_one (year : Int) (h : 1 ≤ month)
    : daysBeforeMonth year (month + 1) = daysBeforeMonth year month + daysInMonth year month := by
  cases month with
  | zero => contradiction
  | succ month => rfl

theorem daysBeforeMonth_le (year : Int) (h : month ≤ month')
    : daysBeforeMonth year month ≤ daysBeforeMonth year month' := by
  induction h with
  | refl => exact Nat.le_refl _
  | @step month' _ ih =>
    refine Nat.le_trans ih ?_
    cases month' with
    | zero => exact Nat.le_refl _
    | succ month' => exact Nat.le_add_right _ _

theorem daysBeforeMonth_thirteen (year : Int)
    : daysBeforeMonth year 13 = 365 + if isLeapYear year = true then 1 else 0 := by
  simp only [daysBeforeMonth, daysInMonth]
  split <;> rfl

theorem one_le_daysInMonth (year : Int) (month : Nat) : 1 ≤ daysInMonth year month := by
  unfold daysInMonth
  split
  . split <;> decide
  all_goals decide

theorem daysInMonth_le (year : Int) (month : Nat) : daysInMonth year month ≤ 31 := by
  unfold daysInMonth
  split
  . split <;> decide
  all_goals decide

end Lengths

section Neighbours

theorem isValid_iff
    : d.isValid = true
        ↔
      yearInRange d.year = true ∧ 1 ≤ d.month ∧ d.month ≤ 12 ∧ 1 ≤ d.day ∧
        d.day ≤ daysInMonth d.year d.month := by
  simp [isValid, and_assoc]

theorem daysBeforeMonth_add_day_le (h : d.isValid = true) (hlt : d.month < month)
    : daysBeforeMonth d.year d.month + d.day ≤ daysBeforeMonth d.year month := by
  obtain ⟨_, hmonth, _, _, hday⟩ := isValid_iff.1 h
  have hle := daysBeforeMonth_le d.year hlt
  rw [Nat.succ_eq_add_one, daysBeforeMonth_add_one d.year hmonth] at hle
  omega

theorem daysBeforeYear_add_months (year : Int)
    : daysBeforeYear (year + 1) = daysBeforeYear year + daysBeforeMonth year 13 := by
  rw [daysBeforeYear_add_one, daysBeforeMonth_thirteen]
  split <;> omega

theorem number_next (h : d.isValid = true) : d.next.number = d.number + 1 := by
  obtain ⟨_, hmonth, hmonth', _, hday⟩ := isValid_iff.1 h
  have hadd := daysBeforeMonth_add_one d.year hmonth
  unfold next number
  split
  . simp only
    omega
  . next hlast =>
    split
    . simp only
      omega
    -- the last day of December leads to the next year
    . have hdecember : d.month = 12 := by omega
      have hyear := daysBeforeYear_add_months d.year
      have hjanuary : daysBeforeMonth (d.year + 1) 1 = 0 := rfl
      rw [hdecember] at hadd hday hlast ⊢
      simp only [Nat.reduceAdd] at hadd ⊢
      omega

theorem number_previous (h : d.isValid = true) : d.previous.number = d.number - 1 := by
  obtain ⟨_, hmonth, _, hday, _⟩ := isValid_iff.1 h
  unfold previous number
  split
  . simp only
    omega
  . split
    . have hadd := daysBeforeMonth_add_one d.year (by omega : 1 ≤ d.month - 1)
      rw [Nat.sub_add_cancel hmonth] at hadd
      simp only
      omega
    -- the first day of January leads to the year before
    . have hjanuary : d.month = 1 := by omega
      have hyear := daysBeforeYear_add_months (d.year - 1)
      have hadd : daysBeforeMonth (d.year - 1) 13
          =
        daysBeforeMonth (d.year - 1) 12 + daysInMonth (d.year - 1) 12 := rfl
      have hdecember : daysInMonth (d.year - 1) 12 = 31 := rfl
      have hfirst : daysBeforeMonth d.year 1 = 0 := rfl
      rw [Int.sub_add_cancel] at hyear
      rw [hjanuary]
      simp only
      omega

theorem isValid_next (h : d.isValid = true) (hyear : yearInRange d.next.year = true)
    : d.next.isValid = true := by
  obtain ⟨_, hmonth, hmonth', hday, _⟩ := isValid_iff.1 h
  rw [isValid_iff]
  refine ⟨hyear, ?_⟩
  unfold next
  split
  . next hlt => exact ⟨hmonth, hmonth', Nat.le_add_left 1 _, hlt⟩
  . split
    . next hlt => exact ⟨Nat.le_add_left 1 _, hlt, Nat.le_refl 1, one_le_daysInMonth _ _⟩
    . exact ⟨Nat.le_refl 1, (by decide : 1 ≤ 12), Nat.le_refl 1, one_le_daysInMonth _ _⟩

theorem isValid_previous (h : d.isValid = true) (hyear : yearInRange d.previous.year = true)
    : d.previous.isValid = true := by
  obtain ⟨_, hmonth, hmonth', _, hday⟩ := isValid_iff.1 h
  rw [isValid_iff]
  refine ⟨hyear, ?_⟩
  unfold previous
  split
  . simp only
    omega
  . split
    . simp only
      have hone := one_le_daysInMonth d.year (d.month - 1)
      omega
    . exact ⟨(by decide : 1 ≤ 12), Nat.le_refl 12, (by decide : 1 ≤ 31), Nat.le_refl 31⟩

theorem number_lt_of_year_lt (h : d.isValid = true) (h' : d'.isValid = true) (hlt : d.year < d'.year)
    : d.number < d'.number := by
  obtain ⟨_, _, hmonth, _, _⟩ := isValid_iff.1 h
  obtain ⟨_, _, _, hday', _⟩ := isValid_iff.1 h'
  have hlast := daysBeforeMonth_add_day_le h (by omega : d.month < 13)
  have hyear := daysBeforeYear_add_months d.year
  have hle := daysBeforeYear_le (Int.add_one_le_of_lt hlt)
  unfold number
  omega

theorem number_lt_of_month_lt (h : d.isValid = true) (h' : d'.isValid = true) (hyear : d.year = d'.year)
    (hlt : d.month < d'.month)
    : d.number < d'.number := by
  obtain ⟨_, _, _, hday', _⟩ := isValid_iff.1 h'
  have hle := daysBeforeMonth_add_day_le h hlt
  unfold number
  rw [← hyear]
  omega

theorem eq_of_number_eq (h : d.isValid = true) (h' : d'.isValid = true) (hnumber : d.number = d'.number)
    : d = d' := by
  have hyear : d.year = d'.year := by
    rcases Int.lt_trichotomy d.year d'.year with hlt | heq | hgt
    . exact absurd hnumber (Int.ne_of_lt (number_lt_of_year_lt h h' hlt))
    . exact heq
    . exact absurd hnumber.symm (Int.ne_of_lt (number_lt_of_year_lt h' h hgt))
  have hmonth : d.month = d'.month := by
    rcases Nat.lt_trichotomy d.month d'.month with hlt | heq | hgt
    . exact absurd hnumber (Int.ne_of_lt (number_lt_of_month_lt h h' hyear hlt))
    . exact heq
    . exact absurd hnumber.symm (Int.ne_of_lt (number_lt_of_month_lt h' h hyear.symm hgt))
  unfold number at hnumber
  rw [hyear, hmonth] at hnumber
  obtain ⟨year, month, day⟩ := d
  obtain ⟨year', month', day'⟩ := d'
  simp only at hyear hmonth hnumber
  rw [hyear, hmonth, show day = day' by omega]

end Neighbours

end Date

end SourceCookie
