/-!
A channel that hands everything published to every subscriber. It keeps a limited number of values;
a subscriber that falls behind by more loses the oldest ones and is told how many.
-/

namespace SourceCookie

structure Channel (α : Type) where
  room : Nat
  published : List α

inductive Delivery (α : Type) where
  | value (a : α)
  | lagged (missed : Nat)
  deriving DecidableEq

namespace Channel

variable {α : Type}

/-- A channel with room for `capacity` values, rounded up to a power of two. -/
def create (capacity : Nat) : Channel α :=
  ⟨(max capacity 1).nextPowerOfTwo, []⟩

def publish (c : Channel α) (a : α) : Channel α :=
  { c with published := c.published ++ [a] }

def subscribe (c : Channel α) : Nat := c.published.length

def receiveAll (c : Channel α) (position : Nat) : List (Delivery α) × Nat :=
  let oldest := c.published.length - c.room
  let lost := if position < oldest then [Delivery.lagged (oldest - position)] else []
  (lost ++ (c.published.drop (max position oldest)).map .value, c.published.length)

end Channel

end SourceCookie
