import SourceCookie.Text.Digits

/-!
Binary floating-point numbers of 64 bits: rounding a decimal to the nearest one, the shortest decimal
that reads back as a given one, and rounding to whole numbers. All arithmetic is exact.
-/

namespace SourceCookie

inductive Binary64 where
  | nan
  | infinity (negative : Bool)
  /-- The number `mantissa * 2 ^ exponent`, or its negative. -/
  | finite (negative : Bool) (mantissa : Nat) (exponent : Int)
  deriving DecidableEq

namespace Binary64

def mantissaBound : Nat := Nat.pow 2 53

def leastExponent : Int := -1074

def greatestExponent : Int := 971

def power (base : Nat) (exponent : Int) : Nat × Nat :=
  (base.pow exponent.toNat, base.pow (-exponent).toNat)

def roundEven (num den : Nat) : Nat :=
  let q := num / den
  let twice := 2 * (num % den)
  if den < twice ∨ (twice = den ∧ q % 2 = 1) then q + 1 else q

def unitExponent (num den : Nat) : Int :=
  let estimate : Int := (num.log2 : Int) - den.log2 - 53
  let (up, down) := power 2 estimate
  let e := if mantissaBound * (den * up) ≤ num * down then estimate + 1 else estimate
  max e leastExponent

def ofQuotient (negative : Bool) (num den : Nat) : Binary64 :=
  let e := unitExponent num den
  let (up, down) := power 2 e
  let m := roundEven (num * down) (den * up)
  let (m, e) := if m = mantissaBound then (m / 2, e + 1) else (m, e)
  if greatestExponent < e then infinity negative else finite negative m e

def ofDecimal (negative : Bool) (digits : Nat) (exponent : Int) : Binary64 :=
  let magnitude := exponent + (Digits.decimal digits).length
  if digits = 0 ∨ magnitude < -330 then finite negative 0 leastExponent
  else if 310 < magnitude then infinity negative
  else
    let (up, down) := power 10 exponent
    ofQuotient negative (digits * up) down

/--
Whether `digits * 10 ^ exponent` rounds to `mantissa * 2 ^ e`: it lies no farther than halfway to a
neighbour, and halfway only from an even mantissa.
-/
def readsBack (mantissa : Nat) (e : Int) (digits : Nat) (exponent : Int) : Bool :=
  let (up2, down2) := power 2 e
  let (up10, down10) := power 10 exponent
  let value := 4 * digits * up10 * down2
  let unit := up2 * down10
  let narrow := 2 * mantissa = mantissaBound ∧ leastExponent < e
  let low := (if narrow then 4 * mantissa - 1 else 4 * mantissa - 2) * unit
  let high := (4 * mantissa + 2) * unit
  if mantissa % 2 = 0 then low ≤ value && value ≤ high else low < value && value < high

/--
The number of digits before the point of a positive quotient. Below one, it is at most zero and counts
the zeros after the point; it is not asked about a quotient of `1 / 10 ^ n`, as a binary fraction is none.
-/
def decimalPlaces (num den : Nat) : Int :=
  if den ≤ num then (Digits.decimal (num / den)).length
  else 1 - (Digits.decimal (den / num)).length

def decimal? (mantissa : Nat) (e : Int) (n : Nat) : Option (Nat × Int) :=
  let (up2, down2) := power 2 e
  let exponent := decimalPlaces (mantissa * up2) down2 - n
  let (up10, down10) := power 10 exponent
  let num := mantissa * up2 * down10
  let den := down2 * up10
  let below := num / den
  let lower := if readsBack mantissa e below exponent then some below else none
  let upper := if readsBack mantissa e (below + 1) exponent then some (below + 1) else none
  let best := match lower, upper with
    | some a, some b => some (if 2 * (num % den) < den then a else b)
    | some a, none => some a
    | none, b => b
  best.map (·, exponent)

def shortest (mantissa : Nat) (e : Int) : Nat × Int :=
  match (List.range' 1 17).findSome? (decimal? mantissa e) with
  | some d => d
  | none => (0, 0)

def positional (digits : Nat) (exponent : Int) : List Char :=
  if 0 ≤ exponent then Digits.decimal digits ++ List.replicate exponent.toNat '0'
  else
    let places := (-exponent).toNat
    let all := Digits.padded (places + 1) (Digits.decimal digits)
    all.take (all.length - places) ++ '.' :: all.drop (all.length - places)

def trimZeros : Nat → Nat → Int → Nat × Int
  | 0, digits, exponent => (digits, exponent)
  | fuel + 1, digits, exponent =>
    if digits ≠ 0 ∧ digits % 10 = 0 then trimZeros fuel (digits / 10) (exponent + 1)
    else (digits, exponent)

def render : Binary64 → String
  | nan => "NaN"
  | infinity negative => if negative then "-inf" else "inf"
  | finite negative mantissa e =>
    let body :=
      if mantissa = 0 then ['0']
      else
        let (digits, exponent) := shortest mantissa e
        let (digits, exponent) := trimZeros 20 digits exponent
        positional digits exponent
    String.ofList (if negative then '-' :: body else body)

def isNonzero : Binary64 → Bool
  | finite _ 0 _ => false
  | _ => true

/--
The nearest natural number below `bound`; a tie goes up. What is too large becomes the greatest one,
and what is negative or no number becomes zero.
-/
def toNatBelow (bound : Nat) : Binary64 → Nat
  | nan => 0
  | infinity negative => if negative then 0 else bound - 1
  | finite true _ _ => 0
  | finite false mantissa e =>
    let (up, down) := power 2 e
    min ((2 * mantissa * up + down) / (2 * down)) (bound - 1)

def readFraction (s : List Char) : List Nat × List Char :=
  match s with
  | '.' :: rest => Digits.span 10 rest
  | _ => ([], s)

def readExponent? (s : List Char) : Option (Int × List Char) :=
  match s with
  | 'e' :: rest | 'E' :: rest =>
    let (negative, rest) := match rest with
      | '-' :: rest => (true, rest)
      | '+' :: rest => (false, rest)
      | _ => (false, rest)
    match Digits.span 10 rest with
    | ([], _) => none
    | (digits, rest) =>
      let n : Int := Digits.toNat 10 digits
      some (if negative then -n else n, rest)
  | _ => some (0, s)

def readDecimal? (negative : Bool) (s : List Char) : Option (Binary64 × List Char) :=
  let (whole, s) := Digits.span 10 s
  let (fraction, s) := readFraction s
  if whole.isEmpty && fraction.isEmpty then none
  else
    (readExponent? s).map fun (exponent, s) =>
      (ofDecimal negative (Digits.toNat 10 (whole ++ fraction)) (exponent - fraction.length), s)

def ofName? (negative : Bool) (s : List Char) : Option Binary64 :=
  let name := s.map Char.toLower
  if name = "inf".toList ∨ name = "infinity".toList then some (infinity negative)
  else if name = "nan".toList then some nan
  else none

def parse? (s : List Char) : Option Binary64 :=
  let (negative, s) := match s with
    | '-' :: rest => (true, rest)
    | '+' :: rest => (false, rest)
    | _ => (false, s)
  match readDecimal? negative s with
  | some (x, []) => some x
  | _ => ofName? negative s

end Binary64

end SourceCookie
