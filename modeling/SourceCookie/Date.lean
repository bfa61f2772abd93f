import SourceCookie.Text.Digits

/-!
Days of the Gregorian calendar, and their text `year-month-day`.
-/

namespace SourceCookie

structure Date where
  year : Int
  month : Nat
  day : Nat
  deriving DecidableEq, Inhabited

namespace Date

def isLeapYear (year : Int) : Bool :=
  year % 4 == 0 && (year % 100 != 0 || year % 400 == 0)

def daysInMonth (year : Int) : Nat → Nat
  | 2 => if isLeapYear year then 29 else 28
  | 4 | 6 | 9 | 11 => 30
  | _ => 31

def yearInRange (year : Int) : Bool :=
  -262143 ≤ year && year ≤ 262142

def isValid (d : Date) : Bool :=
  yearInRange d.year && 1 ≤ d.month && d.month ≤ 12 && 1 ≤ d.day
    && d.day ≤ daysInMonth d.year d.month

def next (d : Date) : Date :=
  if d.day < daysInMonth d.year d.month then { d with day := d.day + 1 }
  else if d.month < 12 then ⟨d.year, d.month + 1, 1⟩
  else ⟨d.year + 1, 1, 1⟩

def previous (d : Date) : Date :=
  if 1 < d.day then { d with day := d.day - 1 }
  else if 1 < d.month then ⟨d.year, d.month - 1, daysInMonth d.year (d.month - 1)⟩
  else ⟨d.year - 1, 12, 31⟩

def renderYear (year : Int) : List Char :=
  let digits := Digits.padded 4 (Digits.decimal year.natAbs)
  if 0 ≤ year ∧ year ≤ 9999 then digits
  else (if year < 0 then '-' else '+') :: digits

def render (d : Date) : List Char :=
  renderYear d.year ++ '-' :: Digits.padded 2 (Digits.decimal d.month)
    ++ '-' :: Digits.padded 2 (Digits.decimal d.day)

end Date

end SourceCookie
