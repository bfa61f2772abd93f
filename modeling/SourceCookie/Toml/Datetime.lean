import SourceCookie.Date

/-!
Dates and times as values of settings: a day, a time of day, or both, and with both of them perhaps an
offset from UTC. They are kept only to be shown again.
-/

namespace SourceCookie.Toml

structure TimeOfDay where
  hour : Nat
  minute : Nat
  second : Nat
  nanosecond : Nat
  deriving DecidableEq

inductive Offset where
  | utc
  | minutes (n : Int)
  deriving DecidableEq

inductive Datetime where
  | date (date : Date)
  | time (time : TimeOfDay)
  | both (date : Date) (time : TimeOfDay) (offset : Option Offset)
  deriving DecidableEq

def twoDigits (n : Nat) : List Char := Digits.padded 2 (Digits.decimal n)

def renderFraction (nanosecond : Nat) : List Char :=
  if nanosecond = 0 then []
  else
    let digits := Digits.padded 9 (Digits.decimal nanosecond)
    '.' :: (digits.reverse.dropWhile (· == '0')).reverse

def TimeOfDay.render (t : TimeOfDay) : List Char :=
  twoDigits t.hour ++ ':' :: twoDigits t.minute ++ ':' :: twoDigits t.second
    ++ renderFraction t.nanosecond

def Offset.render : Offset → List Char
  | utc => ['Z']
  | minutes n =>
    (if n < 0 then '-' else '+') :: twoDigits (n.natAbs / 60) ++ ':' :: twoDigits (n.natAbs % 60)

def Datetime.render : Datetime → List Char
  | date d => d.render
  | time t => t.render
  | both d t offset => d.render ++ 'T' :: t.render ++ (offset.map Offset.render).getD []

def readFixed? (width : Nat) (s : List Char) : Option (Nat × List Char) :=
  match (s.take width).mapM (Digits.value? 10) with
  | some digits => if digits.length = width then some (Digits.toNat 10 digits, s.drop width) else none
  | none => none

def readTwo? (most : Nat) (s : List Char) : Option (Nat × List Char) :=
  match readFixed? 2 s with
  | some (n, s) => if n ≤ most then some (n, s) else none
  | none => none

def skip? (c : Char) : List Char → Option (List Char)
  | d :: s => if d = c then some s else none
  | [] => none

def readDate? (s : List Char) : Option (Date × List Char) := do
  let (year, s) ← readFixed? 4 s
  let s ← skip? '-' s
  let (month, s) ← readTwo? 12 s
  let s ← skip? '-' s
  let (day, s) ← readTwo? 31 s
  let date : Date := ⟨year, month, day⟩
  if date.isValid then some (date, s) else none

def readFraction (s : List Char) : Nat × List Char :=
  match s with
  | '.' :: rest =>
    match Digits.span 10 rest with
    | ([], _) => (0, s)
    | (digits, rest) =>
      let nine := digits.take 9
      (Digits.toNat 10 nine * Nat.pow 10 (9 - nine.length), rest)
  | _ => (0, s)

def readTime? (s : List Char) : Option (TimeOfDay × List Char) := do
  let (hour, s) ← readTwo? 23 s
  let s ← skip? ':' s
  let (minute, s) ← readTwo? 59 s
  let s ← skip? ':' s
  let (second, s) ← readTwo? 60 s
  let (nanosecond, s) := readFraction s
  return (⟨hour, minute, second, nanosecond⟩, s)

def readMinutes? (s : List Char) : Option (Nat × List Char) := do
  let (hours, s) ← readTwo? 23 s
  let s ← skip? ':' s
  let (minutes, s) ← readTwo? 59 s
  return (60 * hours + minutes, s)

def readOffset? : List Char → Option (Offset × List Char)
  | 'Z' :: s | 'z' :: s => some (.utc, s)
  | '+' :: s => (readMinutes? s).map fun (n, s) => (.minutes n, s)
  | '-' :: s => (readMinutes? s).map fun (n, s) => (.minutes (-(n : Int)), s)
  | _ => none

def readTimeAfterDate? : List Char → Option (TimeOfDay × List Char)
  | 'T' :: s | 't' :: s | ' ' :: s => readTime? s
  | _ => none

def readDatetime? (s : List Char) : Option (Datetime × List Char) :=
  match readDate? s with
  | none => (readTime? s).map fun (t, s) => (.time t, s)
  | some (d, s) =>
    match readTimeAfterDate? s with
    | none => some (.date d, s)
    | some (t, s) =>
      match readOffset? s with
      | none => some (.both d t none, s)
      | some (offset, s) => some (.both d t (some offset), s)

def Datetime.parse? (s : List Char) : Option Datetime :=
  match readDatetime? s with
  | some (d, []) => some d
  | _ => none

end SourceCookie.Toml
