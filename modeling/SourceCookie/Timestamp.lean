/-!
Seconds on a node's clock. Entries are only ever compared with times of the same clock, so a time is
a plain count, and moving past either end of the count stops there.
-/

namespace SourceCookie

abbrev Timestamp := UInt64

namespace Timestamp

def last : Nat := UInt64.size - 1

def later (t : Timestamp) (seconds : Nat) : Timestamp :=
  UInt64.ofNat (min (t.toNat + seconds) last)

def earlier (t : Timestamp) (seconds : Nat) : Timestamp :=
  UInt64.ofNat (t.toNat - seconds)

@[simp]
theorem toNat_later (t : Timestamp) (seconds : Nat)
    : (t.later seconds).toNat = min (t.toNat + seconds) last := by
  simp only [later, last, UInt64.size, UInt64.toNat_ofNat']
  omega

@[simp]
theorem toNat_earlier (t : Timestamp) (seconds : Nat)
    : (t.earlier seconds).toNat = t.toNat - seconds := by
  have := t.toNat_lt
  simp only [earlier, UInt64.toNat_ofNat']
  omega

def ofElapsed (elapsed : Nat) : Timestamp :=
  UInt64.ofNat (elapsed / 1000000000)

end Timestamp

end SourceCookie
