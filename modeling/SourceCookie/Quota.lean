/-!
A quota of uses per minute. A minute's worth may be used up at once; after that, the uses are made up
for one by one, evenly over the minute. Times are in nanoseconds.
-/

namespace SourceCookie

structure Quota where
  burst : Nat
  /-- The time that makes up for one use. -/
  spacing : Nat
  /-- The time that makes up for all uses up to now; nothing before the first one. -/
  backlog : Option Nat
  deriving DecidableEq

namespace Quota

def minute : Nat := 60000000000

def perMinute (burst : Nat) : Quota := ⟨burst, minute / burst, none⟩

def tolerance (q : Quota) : Nat := q.burst * q.spacing

/-- Asks for a use, and takes it if it is admitted. The first one is charged twice. -/
def use (q : Quota) : Bool × Quota :=
  let backlog := q.backlog.getD q.spacing
  if backlog ≤ q.tolerance then (true, { q with backlog := some (backlog + q.spacing) })
  else (false, q)

def elapse (q : Quota) (nanoseconds : Nat) : Quota :=
  { q with backlog := q.backlog.map (· - nanoseconds) }

end Quota

end SourceCookie
