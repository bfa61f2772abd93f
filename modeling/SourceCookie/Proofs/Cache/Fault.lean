import SourceCookie.Proofs.Cache.Contents
import SourceCookie.Proofs.Cache.Roster

/-!
The accesses to the table once more, with every point at which one could fail: a slot that does not exist,
an index that points to a slot without an entry, a full table in which no entry is the oldest. In a
well-formed table none of them fails, and each does what the access does by definition.
-/

namespace SourceCookie

namespace Cache

inductive Fault where
  | outOfBounds (slot : Nat)
  | vacant (slot : Nat)
  | noOldest
  deriving DecidableEq

def tryRead (slots : Array (Option Entry)) (i : Nat) : Except Fault (Option Entry) :=
  if h : i < slots.size then .ok slots[i] else .error (.outOfBounds i)

def tryWrite (slots : Array (Option Entry)) (i : Nat) (content : Option Entry)
    : Except Fault (Array (Option Entry)) :=
  if h : i < slots.size then .ok (slots.set i content h) else .error (.outOfBounds i)

def tryReadEntry (slots : Array (Option Entry)) (i : Nat) : Except Fault Entry := do
  match ← tryRead slots i with
  | some e => return e
  | none => .error (.vacant i)

def tryLookup (c : Cache) (peer : Ipv6) : Except Fault (Option Entry) :=
  match c.index.lookup peer with
  | none => .ok none
  | some i => tryRead c.slots i

def tryMutate (c : Cache) (peer : Ipv6) (mutators : List Entry.Mutator)
    : Except Fault (Option Entry × Cache) :=
  match c.index.lookup peer with
  | none => .ok (none, c)
  | some i => do
    let found ← tryRead c.slots i
    let slots ← tryWrite c.slots i (found.map (·.mutate mutators))
    return (found, { c with slots })

def tryEvictOldest (c : Cache) : Except Fault (Nat × Cache) :=
  match c.order with
  | [] => .error .noOldest
  | i :: order => do
    let evicted ← tryRead c.slots i
    let slots ← tryWrite c.slots i none
    let index := match evicted with
      | some e => c.unindex e.peer
      | none => c.index
    return (i, { c with slots, index, order })

def tryTakeSlot (c : Cache) : Except Fault (Nat × Cache) :=
  match c.free with
  | i :: free => .ok (i, { c with free })
  | [] => c.tryEvictOldest

def tryInsert (c : Cache) (peer : Ipv6) (policyDisables : Bool) (cookie : Cookie) (now : Timestamp)
    : Except Fault (Entry × Cache) :=
  match c.index.lookup peer with
  | some i => do
    let e ← tryReadEntry c.slots i
    return (e, c)
  | none => do
    let (i, c) ← c.tryTakeSlot
    let slots ← tryWrite c.slots i (some (.fresh peer policyDisables cookie now))
    let e ← tryReadEntry slots i
    return (e, { c with slots, index := (peer, i) :: c.index, order := c.order ++ [i] })

def tryRemove (c : Cache) (peer : Ipv6) : Except Fault (Option Entry × Cache) :=
  match c.index.lookup peer with
  | none => .ok (none, c)
  | some i => do
    let removed ← tryRead c.slots i
    let slots ← tryWrite c.slots i none
    return (removed, { c with
      slots
      index := c.unindex peer
      order := c.order.filter (· != i)
      free := i :: c.free })

def tryToList (c : Cache) : Except Fault (List Entry) := do
  let contents ← c.order.mapM (tryRead c.slots)
  return contents.filterMap id

def tryAccess (c : Cache) : Access → Except Fault (Response × Cache)
  | .insert peer policyDisables cookie now => do
    let (e, c) ← c.tryInsert peer policyDisables cookie now
    return (.entry e, c)
  | .lookup peer => do
    let e ← c.tryLookup peer
    return (.found e, c)
  | .mutate peer mutators => do
    let (e, c) ← c.tryMutate peer mutators
    return (.found e, c)
  | .remove peer => do
    let (e, c) ← c.tryRemove peer
    return (.found e, c)
  | .iterate => do
    let es ← c.tryToList
    return (.entries es, c)

def tryPerform (c : Cache) : List Access → Except Fault (List Response × Cache)
  | [] => .ok ([], c)
  | a :: rest => do
    let (response, c) ← c.tryAccess a
    let (responses, c) ← c.tryPerform rest
    return (response :: responses, c)

def access (c : Cache) : Access → Response × Cache
  | .insert peer policyDisables cookie now =>
    let (e, c) := c.insert peer policyDisables cookie now
    (.entry e, c)
  | .lookup peer => (.found (c.lookup? peer), c)
  | .mutate peer mutators => (.found (c.lookup? peer), c.modify peer (·.mutate mutators))
  | .remove peer =>
    let (e, c) := c.remove peer
    (.found e, c)
  | .iterate => (.entries c.toList, c)

def perform (c : Cache) : List Access → List Response × Cache
  | [] => ([], c)
  | a :: rest =>
    let (response, c) := c.access a
    let (responses, c) := c.perform rest
    (response :: responses, c)

variable {c : Cache} {i : Nat}

theorem ok_bind {α β : Type} (a : α) (f : α → Except Fault β) : (Except.ok a >>= f) = f a := rfl

theorem tryRead_eq (hi : i < c.slots.size) : tryRead c.slots i = .ok (c.slot? i) := by
  simp [tryRead, slot?, hi]

theorem tryWrite_eq {slots : Array (Option Entry)} (hi : i < slots.size) (content : Option Entry)
    : tryWrite slots i content = .ok (slots.setIfInBounds i content) := by
  simp [tryWrite, Array.setIfInBounds, hi]

theorem tryReadEntry_eq {e : Entry} (he : c.slot? i = some e) : tryReadEntry c.slots i = .ok e := by
  unfold tryReadEntry
  rw [tryRead_eq (lt_size_of_slot?_eq_some he), he]
  rfl

theorem mapM_tryRead_eq {slots : List Nat} (h : ∀ i ∈ slots, i < c.slots.size)
    : slots.mapM (tryRead c.slots) = .ok (slots.map c.slot?) := by
  induction slots with
  | nil => rfl
  | cons i slots ih =>
    rw [List.forall_mem_cons] at h
    rw [List.mapM_cons, tryRead_eq h.1, ih h.2]
    rfl

theorem modify_slots_eq (c : Cache) (i : Nat) (f : Entry → Entry)
    : c.slots.modify i (Option.map f) = c.slots.setIfInBounds i ((c.slot? i).map f) := by
  apply Array.ext_getElem?
  intro j
  rw [Array.getElem?_modify, Array.getElem?_setIfInBounds]
  by_cases hij : i = j
  . subst hij
    rw [if_pos rfl, if_pos rfl, slot?]
    split
    . next hi => simp [hi]
    . next hi => simp [hi]
  . rw [if_neg hij, if_neg hij]

namespace WellFormed

theorem lt_size_of_lookup_index (h : c.WellFormed) {peer : Ipv6} (hi : c.index.lookup peer = some i)
    : i < c.slots.size := by
  obtain ⟨e, he, _⟩ := h.lookup_index_iff.1 hi
  exact lt_size_of_slot?_eq_some he

theorem tryToList_eq (h : c.WellFormed) : c.tryToList = .ok c.toList := by
  have hsize : ∀ i ∈ c.order, i < c.slots.size := fun i hi => h.lt_size_iff.2 (Or.inl hi)
  unfold tryToList toList
  rw [mapM_tryRead_eq hsize, ok_bind, List.filterMap_map, Function.id_comp]
  rfl

theorem tryLookup_eq (h : c.WellFormed) (peer : Ipv6) : c.tryLookup peer = .ok (c.lookup? peer) := by
  unfold tryLookup lookup?
  cases hindex : c.index.lookup peer with
  | none => rfl
  | some i => exact tryRead_eq (h.lt_size_of_lookup_index hindex)

theorem tryMutate_eq (h : c.WellFormed) (peer : Ipv6) (mutators : List Entry.Mutator)
    : c.tryMutate peer mutators = .ok (c.lookup? peer, c.modify peer (·.mutate mutators)) := by
  unfold tryMutate lookup? Cache.modify
  cases hindex : c.index.lookup peer with
  | none => rfl
  | some i =>
    have hi := h.lt_size_of_lookup_index hindex
    simp only [tryRead_eq hi, ok_bind, tryWrite_eq hi, modify_slots_eq]
    rfl

theorem tryRemove_eq (h : c.WellFormed) (peer : Ipv6) : c.tryRemove peer = .ok (c.remove peer) := by
  unfold tryRemove Cache.remove
  cases hindex : c.index.lookup peer with
  | none => rfl
  | some i =>
    have hi := h.lt_size_of_lookup_index hindex
    simp only [tryRead_eq hi, ok_bind, tryWrite_eq hi]
    rfl

theorem tryEvictOldest_eq (h : c.WellFormed) {i : Nat} {evicted : Cache}
    (hevict : c.evictOldest? = some (i, evicted))
    : c.tryEvictOldest = .ok (i, evicted) := by
  unfold evictOldest? at hevict
  unfold tryEvictOldest
  cases horder : c.order with
  | nil => simp [horder] at hevict
  | cons j order =>
    have hj : j < c.slots.size := h.lt_size_iff.2 (Or.inl (by simp [horder]))
    simp only [horder, Option.some.injEq] at hevict
    simp only [tryRead_eq hj, ok_bind, tryWrite_eq hj, ← hevict]
    rfl

theorem tryTakeSlot_eq (h : c.WellFormed) {i : Nat} {taken : Cache}
    (htake : c.takeSlot? = some (i, taken))
    : c.tryTakeSlot = .ok (i, taken) := by
  unfold takeSlot? at htake
  unfold tryTakeSlot
  cases hfree : c.free with
  | cons j free =>
    simp only [hfree, Option.some.injEq] at htake ⊢
    rw [htake]
  | nil =>
    simp only [hfree] at htake ⊢
    exact h.tryEvictOldest_eq htake

theorem tryInsert_eq (h : c.WellFormed) (peer : Ipv6) (policyDisables : Bool) (cookie : Cookie)
    (now : Timestamp)
    : c.tryInsert peer policyDisables cookie now = .ok (c.insert peer policyDisables cookie now) := by
  unfold tryInsert
  cases hindex : c.index.lookup peer with
  | some i =>
    obtain ⟨e, he, hpeer⟩ := h.lookup_index_iff.1 hindex
    have hlookup : c.lookup? peer = some e := by
      rw [h.lookup?_eq_some_iff, h.mem_toList_iff]
      exact ⟨⟨i, he⟩, hpeer⟩
    rw [insert_of_lookup?_eq_some hlookup]
    simp only [tryReadEntry_eq he, ok_bind]
    rfl
  | none =>
    have hlookup : c.lookup? peer = none := by simp [lookup?, hindex]
    obtain ⟨i, free, hfree, htake⟩ := h.takeSlot?_eq
    have hi : i < c.makeRoom.slots.size := h.makeRoom.lt_size_iff.2 (Or.inr (by simp [hfree]))
    have hmade := slot?_occupy c.makeRoom hi free (.fresh peer policyDisables cookie now) i
    rw [if_pos rfl] at hmade
    -- the new entry is read back from the slot that it was just written to
    have hread : tryReadEntry (c.makeRoom.slots.setIfInBounds i
          (some (.fresh peer policyDisables cookie now))) i
        =
      .ok (.fresh peer policyDisables cookie now) :=
      tryReadEntry_eq hmade
    unfold Cache.insert
    rw [hlookup, htake, h.tryTakeSlot_eq htake]
    simp only [ok_bind, tryWrite_eq hi, hread]
    rfl

theorem tryAccess_eq (h : c.WellFormed) (a : Access) : c.tryAccess a = .ok (c.access a) := by
  unfold tryAccess Cache.access
  cases a with
  | insert peer policyDisables cookie now => simp only [h.tryInsert_eq]; rfl
  | lookup peer => simp only [h.tryLookup_eq]; rfl
  | mutate peer mutators => simp only [h.tryMutate_eq]; rfl
  | remove peer => simp only [h.tryRemove_eq]; rfl
  | iterate => simp only [h.tryToList_eq]; rfl

end WellFormed

end Cache

end SourceCookie
