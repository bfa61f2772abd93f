import SourceCookie.Date
import SourceCookie.Text.Blank

/-!
Instants: points of time in UTC with nanoseconds. They are written in the style of
`2024-03-01T12:34:56.250Z` and read with any offset, which is taken off the local time; since an
offset is less than a day, this moves the date by one day at most.
-/

namespace SourceCookie

structure Instant where
  date : Date
  secondOfDay : Nat
  /-- Nanoseconds since the beginning of the second; from 10^9 on they belong to a leap second. -/
  nanosecond : Nat
  deriving DecidableEq, Inhabited

namespace Instant

def second : Nat := 1000000000

def renderFraction (nanoseconds : Nat) : List Char :=
  if nanoseconds = 0 then []
  else if nanoseconds % 1000000 = 0 then
    '.' :: Digits.padded 3 (Digits.decimal (nanoseconds / 1000000))
  else if nanoseconds % 1000 = 0 then
    '.' :: Digits.padded 6 (Digits.decimal (nanoseconds / 1000))
  else '.' :: Digits.padded 9 (Digits.decimal nanoseconds)

def render (t : Instant) : List Char :=
  let two n := Digits.padded 2 (Digits.decimal n)
  let leap := t.nanosecond / second
  t.date.render ++ 'T' :: two (t.secondOfDay / 3600) ++ ':' :: two (t.secondOfDay / 60 % 60)
    ++ ':' :: two (t.secondOfDay % 60 + leap) ++ renderFraction (t.nanosecond % second) ++ ['Z']

def ofLocal? (date : Date) (secondOfDay nanosecond : Nat) (offset : Int) : Option Instant :=
  let seconds := (secondOfDay : Int) - offset
  let (date, seconds) :=
    if seconds < 0 then (date.previous, seconds + 86400)
    else if 86400 ≤ seconds then (date.next, seconds - 86400)
    else (date, seconds)
  if Date.yearInRange date.year then some ⟨date, seconds.toNat, nanosecond⟩ else none

def readNumber? (most : Nat) (s : List Char) : Option (Nat × List Char) :=
  let s := Blank.trimStart s
  let digits := (Digits.span 10 (s.take most)).1
  if digits = [] then none else some (Digits.toNat 10 digits, s.drop digits.length)

def readField? (first last : Nat) (s : List Char) : Option (Nat × List Char) :=
  match readNumber? 2 s with
  | some (n, s) => if first ≤ n ∧ n ≤ last then some (n, s) else none
  | none => none

def readYear? (s : List Char) : Option (Int × List Char) :=
  let signed (s : List Char) : Option (Nat × List Char) :=
    match Digits.span 10 s with
    | ([], _) => none
    | (digits, s) => some (Digits.toNat 10 digits, s)
  match Blank.trimStart s with
  | '-' :: s => (signed s).map fun (n, s) => (-(n : Int), s)
  | '+' :: s => (signed s).map fun (n, s) => ((n : Int), s)
  | s => (readNumber? 4 s).map fun (n, s) => ((n : Int), s)

def skip? (c : Char) (s : List Char) : Option (List Char) :=
  match Blank.trimStart s with
  | d :: s => if d = c then some s else none
  | [] => none

def readDate? (s : List Char) : Option (Date × List Char) := do
  let (year, s) ← readYear? s
  let s ← skip? '-' s
  let (month, s) ← readField? 1 12 s
  let s ← skip? '-' s
  let (day, s) ← readField? 1 31 s
  return (⟨year, month, day⟩, s)

def readFraction? : List Char → Option (Nat × List Char)
  | '.' :: s =>
    match Digits.span 10 s with
    | ([], _) => none
    | (digits, s) =>
      let nine := digits.take 9
      some (Digits.toNat 10 nine * Nat.pow 10 (9 - nine.length), s)
  | s => some (0, s)

def readTime? (s : List Char) : Option ((Nat × Nat) × List Char) := do
  let (hour, s) ← readField? 0 23 s
  let s ← skip? ':' s
  let (minute, s) ← readField? 0 59 s
  let s ← skip? ':' s
  let (sec, s) ← readField? 0 60 s
  let (nanos, s) ← readFraction? s
  let leap := if sec = 60 then second else 0
  return ((3600 * hour + 60 * minute + min sec 59, nanos + leap), s)

def readOffsetDigits? : List Char → Option (Nat × List Char)
  | h1 :: h0 :: s => do
    let h1 ← Digits.value? 10 h1
    let h0 ← Digits.value? 10 h0
    match s.dropWhile fun c => c == ':' || CharClass.blank.contains c with
    | m1 :: m0 :: s =>
      let m1 ← Digits.value? 6 m1
      let m0 ← Digits.value? 10 m0
      return (3600 * (10 * h1 + h0) + 60 * (10 * m1 + m0), s)
    | _ => none
  | _ => none

def readOffset? (s : List Char) : Option (Int × List Char) :=
  match Blank.trimStart s with
  | 'Z' :: s | 'z' :: s => some (0, s)
  | '+' :: s => (readOffsetDigits? s).map fun (n, s) => ((n : Int), s)
  | '-' :: s | '\u2212' :: s => (readOffsetDigits? s).map fun (n, s) => (-(n : Int), s)
  | u :: t :: c :: s =>
    if u.toLower = 'u' ∧ t.toLower = 't' ∧ c.toLower = 'c' then some (0, s) else none
  | _ => none

def parse? (s : List Char) : Option Instant := do
  let (date, s) ← readDate? s
  let s ← match s with
    | 'T' :: s | 't' :: s | ' ' :: s => some s
    | _ => none
  let ((secondOfDay, nanosecond), s) ← readTime? s
  let (offset, s) ← readOffset? s
  guard (Blank.trimStart s = [] ∧ date.isValid ∧ offset.natAbs < 86400)
  ofLocal? date secondOfDay nanosecond offset

end Instant

end SourceCookie
