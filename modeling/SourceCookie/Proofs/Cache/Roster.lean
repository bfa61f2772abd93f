import SourceCookie.Proofs.Cache.WellFormed

/-!
What the table of entries is to its users: a list of entries of distinct peers, oldest first, with room
for a number of them. An entry joins at the end, and where there is no room the head leaves.
-/

namespace SourceCookie

inductive Entry.Mutator where
  | setCookie (cookie : Cookie)
  | touch (now : Timestamp)
  | setLifetime (log2 : UInt8)
  | backdate (now : Timestamp)
  | setDisable (flag : Bool)
  | setExpecting (flag : Bool)
  deriving DecidableEq

namespace Entry

def Mutator.apply (e : Entry) : Mutator → Entry
  | .setCookie cookie => e.setCookie cookie
  | .touch now => e.touch now
  | .setLifetime log2 => e.setLifetime log2
  | .backdate now => e.backdate now
  | .setDisable flag => e.setDisable flag
  | .setExpecting flag => e.setExpecting flag

def mutate (e : Entry) (mutators : List Mutator) : Entry := mutators.foldl Mutator.apply e

@[simp]
theorem peer_mutate (e : Entry) (mutators : List Mutator) : (e.mutate mutators).peer = e.peer := by
  unfold mutate
  induction mutators generalizing e with
  | nil => rfl
  | cons m mutators ih =>
    rw [List.foldl_cons, ih]
    cases m <;> rfl

end Entry

/-- A use of the table. To change an entry that an insertion hands out is to change it in place afterwards. -/
inductive Cache.Access where
  | insert (peer : Ipv6) (policyDisables : Bool) (cookie : Cookie) (now : Timestamp)
  | lookup (peer : Ipv6)
  | mutate (peer : Ipv6) (mutators : List Entry.Mutator)
  | remove (peer : Ipv6)
  | iterate
  deriving DecidableEq

inductive Cache.Response where
  | entry (e : Entry)
  | found (e : Option Entry)
  | entries (es : List Entry)
  deriving DecidableEq

structure Roster where
  room : Nat
  entries : List Entry
  room_pos : 0 < room
  length_le_room : entries.length ≤ room
  nodup_peers : (entries.map Entry.peer).Nodup

namespace Roster

def empty (capacity : Nat) : Roster where
  room := max capacity 1
  entries := []
  room_pos := by omega
  length_le_room := Nat.zero_le _
  nodup_peers := List.nodup_nil

def find? (r : Roster) (peer : Ipv6) : Option Entry := r.entries.find? (·.peer = peer)

theorem find?_eq_none_iff {r : Roster} {peer : Ipv6}
    : r.find? peer = none ↔ ∀ e ∈ r.entries, e.peer ≠ peer := by
  simp [find?]

def remaining (r : Roster) : List Entry :=
  if r.entries.length = r.room then r.entries.tail else r.entries

theorem length_remaining_lt (r : Roster) : r.remaining.length < r.room := by
  have hpos := r.room_pos
  have hle := r.length_le_room
  unfold remaining
  split
  . rw [List.length_tail]
    omega
  . omega

theorem remaining_sublist (r : Roster) : r.remaining.Sublist r.entries := by
  unfold remaining
  split
  . exact List.tail_sublist r.entries
  . exact List.Sublist.refl _

def append (r : Roster) (e : Entry) (hnew : r.find? e.peer = none) : Roster where
  room := r.room
  entries := r.remaining ++ [e]
  room_pos := r.room_pos
  length_le_room := by
    rw [List.length_append, List.length_singleton]
    exact r.length_remaining_lt
  nodup_peers := by
    rw [List.map_append, List.map_singleton, List.nodup_append]
    refine ⟨r.nodup_peers.sublist (r.remaining_sublist.map _), List.nodup_singleton _, ?_⟩
    intro peer hpeer other hother heq
    rw [List.mem_singleton] at hother
    obtain ⟨e', he', hpeer'⟩ := List.mem_map.1 hpeer
    apply find?_eq_none_iff.1 hnew e' (r.remaining_sublist.subset he')
    rw [hpeer', heq, hother]

def insert (r : Roster) (peer : Ipv6) (policyDisables : Bool) (cookie : Cookie) (now : Timestamp)
    : Entry × Roster :=
  match h : r.find? peer with
  | some e => (e, r)
  | none =>
    let e := Entry.fresh peer policyDisables cookie now
    (e, r.append e h)

def mutate (r : Roster) (peer : Ipv6) (mutators : List Entry.Mutator) : Roster where
  room := r.room
  entries := r.entries.map fun e => if e.peer = peer then e.mutate mutators else e
  room_pos := r.room_pos
  length_le_room := by
    rw [List.length_map]
    exact r.length_le_room
  nodup_peers := by
    have hpeers : (Entry.peer ∘ fun e => if e.peer = peer then e.mutate mutators else e) = Entry.peer := by
      funext e
      rw [Function.comp_apply]
      split
      . apply Entry.peer_mutate
      . rfl
    rw [List.map_map, hpeers]
    exact r.nodup_peers

def remove (r : Roster) (peer : Ipv6) : Roster where
  room := r.room
  entries := r.entries.filter (·.peer != peer)
  room_pos := r.room_pos
  length_le_room := Nat.le_trans (List.length_filter_le _ _) r.length_le_room
  nodup_peers := r.nodup_peers.sublist (List.filter_sublist.map _)

def access (r : Roster) : Cache.Access → Cache.Response × Roster
  | .insert peer policyDisables cookie now =>
    let (e, r) := r.insert peer policyDisables cookie now
    (.entry e, r)
  | .lookup peer => (.found (r.find? peer), r)
  | .mutate peer mutators => (.found (r.find? peer), r.mutate peer mutators)
  | .remove peer => (.found (r.find? peer), r.remove peer)
  | .iterate => (.entries r.entries, r)

def perform (r : Roster) : List Cache.Access → List Cache.Response × Roster
  | [] => ([], r)
  | a :: rest =>
    let (response, r) := r.access a
    let (responses, r) := r.perform rest
    (response :: responses, r)

theorem room_access (r : Roster) (a : Cache.Access) : (r.access a).2.room = r.room := by
  cases a with
  | insert peer policyDisables cookie now =>
    unfold access insert
    simp only
    split <;> rfl
  | _ => rfl

theorem room_perform (r : Roster) (accesses : List Cache.Access)
    : (r.perform accesses).2.room = r.room := by
  induction accesses generalizing r with
  | nil => rfl
  | cons a rest ih => exact (ih _).trans (r.room_access a)

end Roster

end SourceCookie
