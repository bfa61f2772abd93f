import SourceCookie.Net.Ipv4

/-!
IPv6 addresses, their octets and bits, and their text. Writing is canonical: the longest run of at
least two zero groups is compressed, the first one on a tie, and only IPv4-mapped addresses are
written with a dotted tail. Reading takes every form of the grammar that it is given.
-/

namespace SourceCookie

structure Ipv6 where
  groups : List UInt16
  length_groups : groups.length = 8
  deriving DecidableEq

namespace Ipv6

instance : Inhabited Ipv6 := ⟨⟨List.replicate 8 0, rfl⟩⟩

@[ext]
theorem ext {a b : Ipv6} (h : a.groups = b.groups) : a = b := by
  cases a; cases b; simp_all

def octets (ip : Ipv6) : List UInt8 :=
  ip.groups.flatMap fun (g : UInt16) => [(g >>> 8).toUInt8, g.toUInt8]

def toNat (ip : Ipv6) : Nat :=
  ip.groups.foldl (fun n g => 65536 * n + g.toNat) 0

def bit (ip : Ipv6) (i : Nat) : Bool :=
  ip.toNat.testBit (127 - i)

def ofGroups (groups : List UInt16) : Ipv6 where
  groups := groups.take 8 ++ List.replicate (8 - groups.length) 0
  length_groups := by simp; omega

def joinGroups (groups : List UInt16) : List Char :=
  [':'].intercalate (groups.map fun g => Digits.hexadecimal g.toNat)

def zeroRun (groups : List UInt16) : Nat :=
  (groups.takeWhile (· == 0)).length

def longestZeroRun (groups : List UInt16) : Nat × Nat :=
  (List.range groups.length).foldl
    (fun best i =>
      let n := zeroRun (groups.drop i)
      if best.2 < n then (i, n) else best)
    (0, 0)

def mapped? (ip : Ipv6) : Option Ipv4 :=
  match ip.groups with
  | [0, 0, 0, 0, 0, 0xffff, high, low] =>
    some ⟨(high >>> 8).toUInt8, high.toUInt8, (low >>> 8).toUInt8, low.toUInt8⟩
  | _ => none

def render (ip : Ipv6) : List Char :=
  match ip.mapped? with
  | some ip4 => "::ffff:".toList ++ ip4.render
  | none =>
    let (start, length) := longestZeroRun ip.groups
    if length < 2 then joinGroups ip.groups
    else
      joinGroups (ip.groups.take start) ++ ':' :: ':' :: joinGroups (ip.groups.drop (start + length))

structure Grammar where
  octetZeros : Bool
  emptyRun : Bool
  deriving DecidableEq

/-- Addresses on their own: octets without leading zeros, and a double colon stands for a group. -/
def Grammar.strict : Grammar := ⟨false, false⟩

/-- Addresses of prefixes: octets may have leading zeros, and a double colon may be empty. -/
def Grammar.lenient : Grammar := ⟨true, true⟩

def groupForm : Digits.Form := ⟨16, some 4, 65536, true⟩

/--
Reads at most `limit` groups with colons between them. A dotted tail counts for two groups and ends
the run; the second component tells whether there was one.
-/
def readGroups (grammar : Grammar) : Nat → Bool → List Char → List UInt16 × Bool × List Char
  | 0, _, s => ([], false, s)
  | limit + 1, first, s =>
    let body := match first, s with
      | true, s => some s
      | false, ':' :: rest => some rest
      | false, _ => none
    match body with
    | none => ([], false, s)
    | some body =>
      match if limit = 0 then none else Ipv4.read? grammar.octetZeros body with
      | some (ip, rest) =>
        ([.ofNat (ip.a.toNat * 256 + ip.b.toNat), .ofNat (ip.c.toNat * 256 + ip.d.toNat)], true, rest)
      | none =>
        match groupForm.read? body with
        | none => ([], false, s)
        | some (g, rest) =>
          let (groups, dotted, rest) := readGroups grammar limit false rest
          (.ofNat g :: groups, dotted, rest)

def read? (grammar : Grammar) (s : List Char) : Option (Ipv6 × List Char) :=
  let (head, dotted, rest) := readGroups grammar 8 true s
  if h : head.length = 8 then some (⟨head, h⟩, rest)
  else if dotted then none
  else
    match rest with
    | ':' :: ':' :: rest =>
      let limit := (if grammar.emptyRun then 8 else 7) - head.length
      let (tail, _, rest) := readGroups grammar limit true rest
      let zeros := List.replicate (8 - head.length - tail.length) 0
      some (ofGroups (head ++ zeros ++ tail), rest)
    | _ => none

def parse? (s : List Char) : Option Ipv6 :=
  match read? .strict s with
  | some (ip, []) => some ip
  | _ => none

end Ipv6

end SourceCookie
