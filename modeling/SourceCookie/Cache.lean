import SourceCookie.Entry

/-!
The bounded table of a node's entries. Entries live in slots; an index finds the slot of a peer, a
queue holds the occupied slots in the order in which their entries were made, and a stack holds the
others. When all slots are taken, a new peer takes the place of the oldest entry, however recently
that one was used.
-/

namespace SourceCookie

structure Cache where
  slots : Array (Option Entry)
  index : List (Ipv6 × Nat)
  /-- The occupied slots, oldest entry first. -/
  order : List Nat
  /-- The other slots, next one to be taken first. -/
  free : List Nat
  deriving DecidableEq

namespace Cache

def empty (capacity : Nat) : Cache where
  slots := Array.replicate (max capacity 1) none
  index := []
  order := []
  free := List.range (max capacity 1)

/-- Bytes of one slot: an address, a cookie, a time and three more bytes, padded to words. -/
def slotBytes : Nat := 40

def allocationLimit : Nat := Nat.pow 2 63 - 1

/-- Sets up a table, which fails if its slots are more than can be allocated at once. -/
def create? (capacity : Nat) : Option Cache :=
  if slotBytes * max capacity 1 ≤ allocationLimit then some (empty capacity) else none

def capacity (c : Cache) : Nat := c.slots.size

def size (c : Cache) : Nat := c.index.length

def slot? (c : Cache) (i : Nat) : Option Entry := c.slots[i]?.join

def toList (c : Cache) : List Entry := c.order.filterMap c.slot?

def lookup? (c : Cache) (peer : Ipv6) : Option Entry := do
  c.slot? (← c.index.lookup peer)

def modify (c : Cache) (peer : Ipv6) (f : Entry → Entry) : Cache :=
  match c.index.lookup peer with
  | none => c
  | some i => { c with slots := c.slots.modify i (Option.map f) }

def unindex (c : Cache) (peer : Ipv6) : List (Ipv6 × Nat) :=
  c.index.filter (·.1 != peer)

def evictOldest? (c : Cache) : Option (Nat × Cache) :=
  match c.order with
  | [] => none
  | i :: order =>
    let index := match c.slot? i with
      | some e => c.unindex e.peer
      | none => c.index
    some (i, { c with slots := c.slots.setIfInBounds i none, index, order })

def takeSlot? (c : Cache) : Option (Nat × Cache) :=
  match c.free with
  | i :: free => some (i, { c with free })
  | [] => c.evictOldest?

def insert (c : Cache) (peer : Ipv6) (policyDisables : Bool) (cookie : Cookie) (now : Timestamp)
    : Entry × Cache :=
  match c.lookup? peer with
  | some e => (e, c)
  | none =>
    let e := Entry.fresh peer policyDisables cookie now
    match c.takeSlot? with
    | none => (e, c)
    | some (i, c) =>
      (e, { c with
        slots := c.slots.setIfInBounds i (some e)
        index := (peer, i) :: c.index
        order := c.order ++ [i] })

def remove (c : Cache) (peer : Ipv6) : Option Entry × Cache :=
  match c.index.lookup peer with
  | none => (none, c)
  | some i =>
    (c.slot? i, { c with
      slots := c.slots.setIfInBounds i none
      index := c.unindex peer
      order := c.order.filter (· != i)
      free := i :: c.free })

end Cache

end SourceCookie
