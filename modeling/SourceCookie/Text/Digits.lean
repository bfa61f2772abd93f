/-!
Natural numbers as digits: reading a run of digits in a base up to 16, and writing in decimal.
-/

namespace SourceCookie.Digits

def value? (base : Nat) (c : Char) : Option Nat :=
  let n :=
    if '0' ≤ c ∧ c ≤ '9' then c.toNat - '0'.toNat
    else if 'a' ≤ c ∧ c ≤ 'f' then c.toNat - 'a'.toNat + 10
    else if 'A' ≤ c ∧ c ≤ 'F' then c.toNat - 'A'.toNat + 10
    else base
  if n < base then some n else none

def span (base : Nat) : List Char → List Nat × List Char
  | [] => ([], [])
  | c :: rest =>
    match value? base c with
    | some d => let (ds, after) := span base rest; (d :: ds, after)
    | none => ([], c :: rest)

def toNat (base : Nat) (digits : List Nat) : Nat :=
  digits.foldl (fun n d => base * n + d) 0

structure Form where
  base : Nat
  maxDigits : Option Nat
  bound : Nat
  leadingZeros : Bool
  deriving DecidableEq

def Form.accepts (form : Form) (digits : List Nat) : Bool :=
  !digits.isEmpty
    && (match form.maxDigits with
        | some most => digits.length ≤ most
        | none => true)
    && (form.leadingZeros || digits.head? != some 0 || digits.length == 1)
    && toNat form.base digits < form.bound

def Form.read? (form : Form) (s : List Char) : Option (Nat × List Char) :=
  let (digits, rest) := span form.base s
  if form.accepts digits then some (toNat form.base digits, rest) else none

def decimal (n : Nat) : List Char :=
  Nat.toDigits 10 n

def hexadecimal (n : Nat) : List Char :=
  Nat.toDigits 16 n

def padded (width : Nat) (digits : List Char) : List Char :=
  List.replicate (width - digits.length) '0' ++ digits

def decimal? (s : List Char) : Option Nat :=
  match span 10 s with
  | ([], _) => none
  | (ds, []) => some (toNat 10 ds)
  | _ => none

end SourceCookie.Digits
