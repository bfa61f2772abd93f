import Mathlib.Data.List.Nodup
import SourceCookie.Cache

/-!
The invariant of the table of entries: queue and stack together hold every slot once, the slots of the
queue are the taken ones, and the index finds each of them by the peer of its entry. Every operation
keeps the invariant, so a slot that is looked for is always there.
-/

namespace SourceCookie

namespace Cache

structure WellFormed (c : Cache) : Prop where
  slots_perm : (c.order ++ c.free).Perm (List.range c.slots.size)
  size_pos : 0 < c.slots.size
  occupied : ∀ i ∈ c.order, ∃ e, c.slot? i = some e
  vacant : ∀ i ∈ c.free, c.slot? i = none
  mem_index_iff : ∀ peer i, (peer, i) ∈ c.index ↔ ∃ e, c.slot? i = some e ∧ e.peer = peer
  nodup_index : (c.index.map Prod.fst).Nodup

theorem lookup_index_eq_some_iff {index : List (Ipv6 × Nat)} (h : (index.map Prod.fst).Nodup)
    {peer : Ipv6} {i : Nat}
    : index.lookup peer = some i ↔ (peer, i) ∈ index := by
  induction index with
  | nil => simp
  | cons head rest ih =>
    obtain ⟨other, j⟩ := head
    simp only [List.map_cons, List.nodup_cons] at h
    rw [List.lookup_cons]
    by_cases hpeer : peer = other
    . subst hpeer
      have habsent : (peer, i) ∉ rest := by
        intro hmem
        apply h.1
        exact List.mem_map_of_mem hmem
      simp [habsent, eq_comm]
    . rw [beq_eq_false_iff_ne.2 hpeer]
      simp [ih h.2, hpeer]

theorem lt_size_of_slot?_eq_some {c : Cache} {i : Nat} {e : Entry} (h : c.slot? i = some e)
    : i < c.slots.size := by
  rcases Nat.lt_or_ge i c.slots.size with hlt | hge
  . exact hlt
  . simp [slot?, Array.getElem?_eq_none hge] at h

namespace WellFormed

variable {c : Cache}

theorem nodup_slots (h : c.WellFormed) : (c.order ++ c.free).Nodup := by
  rw [h.slots_perm.nodup_iff]
  exact List.nodup_range

theorem nodup_order (h : c.WellFormed) : c.order.Nodup :=
  (List.nodup_append.1 h.nodup_slots).1

theorem lt_size_iff (h : c.WellFormed) {i : Nat}
    : i < c.slots.size ↔ i ∈ c.order ∨ i ∈ c.free := by
  rw [← List.mem_append, h.slots_perm.mem_iff, List.mem_range]

theorem mem_order_iff (h : c.WellFormed) {i : Nat} : i ∈ c.order ↔ ∃ e, c.slot? i = some e := by
  constructor
  . exact h.occupied i
  . rintro ⟨e, he⟩
    rcases h.lt_size_iff.1 (lt_size_of_slot?_eq_some he) with horder | hfree
    . exact horder
    . rw [h.vacant i hfree] at he
      contradiction

theorem lookup_index_iff (h : c.WellFormed) {peer : Ipv6} {i : Nat}
    : c.index.lookup peer = some i ↔ ∃ e, c.slot? i = some e ∧ e.peer = peer := by
  rw [lookup_index_eq_some_iff h.nodup_index]
  apply h.mem_index_iff

theorem slot_eq_of_peer_eq (h : c.WellFormed) {i j : Nat} {e e' : Entry} (hi : c.slot? i = some e)
    (hj : c.slot? j = some e') (hpeer : e.peer = e'.peer)
    : i = j := by
  have hi := h.lookup_index_iff.2 ⟨e, hi, rfl⟩
  have hj := h.lookup_index_iff.2 ⟨e', hj, rfl⟩
  rw [hpeer, hj] at hi
  injection hi with hi
  exact hi.symm

end WellFormed

theorem slot?_empty (capacity i : Nat) : (empty capacity).slot? i = none := by
  simp only [slot?, empty, Array.getElem?_replicate]
  split <;> rfl

theorem wellFormed_empty (capacity : Nat) : (empty capacity).WellFormed where
  slots_perm := by simp [empty]
  size_pos := by
    simp only [empty, Array.size_replicate]
    omega
  occupied := by simp [empty]
  vacant := by
    intro i _
    apply slot?_empty
  mem_index_iff := by
    intro peer i
    rw [slot?_empty]
    simp [empty]
  nodup_index := by simp [empty]

theorem slot?_modify (c : Cache) (peer : Ipv6) (f : Entry → Entry) (j : Nat)
    : (c.modify peer f).slot? j
        =
      if c.index.lookup peer = some j then (c.slot? j).map f else c.slot? j := by
  unfold modify
  split
  . next hnone => simp [hnone]
  . next i hsome =>
    simp only [slot?, Array.getElem?_modify, hsome, Option.some.injEq]
    split
    . cases c.slots[j]? <;> simp
    . rfl

@[simp]
theorem size_slots_modify (c : Cache) (peer : Ipv6) (f : Entry → Entry)
    : (c.modify peer f).slots.size = c.slots.size := by
  unfold modify
  split <;> simp

@[simp]
theorem order_modify (c : Cache) (peer : Ipv6) (f : Entry → Entry)
    : (c.modify peer f).order = c.order := by
  unfold modify
  split <;> rfl

@[simp]
theorem free_modify (c : Cache) (peer : Ipv6) (f : Entry → Entry)
    : (c.modify peer f).free = c.free := by
  unfold modify
  split <;> rfl

@[simp]
theorem index_modify (c : Cache) (peer : Ipv6) (f : Entry → Entry)
    : (c.modify peer f).index = c.index := by
  unfold modify
  split <;> rfl

theorem WellFormed.modify {c : Cache} (h : c.WellFormed) (peer : Ipv6) {f : Entry → Entry}
    (hf : ∀ e, e.peer = peer → (f e).peer = peer)
    : (c.modify peer f).WellFormed where
  slots_perm := by simpa using h.slots_perm
  size_pos := by simpa using h.size_pos
  occupied := by
    intro i hi
    rw [order_modify] at hi
    obtain ⟨e, he⟩ := h.occupied i hi
    rw [slot?_modify, he]
    split <;> simp
  vacant := by
    intro i hi
    rw [free_modify] at hi
    rw [slot?_modify, h.vacant i hi]
    split <;> rfl
  mem_index_iff := by
    intro other i
    rw [index_modify, h.mem_index_iff, slot?_modify]
    split
    . next hlookup =>
      obtain ⟨e, he, hpeer⟩ := h.lookup_index_iff.1 hlookup
      simp [he, hpeer, hf e hpeer]
    . rfl
  nodup_index := by simpa using h.nodup_index

def vacate (c : Cache) (i : Nat) (peer : Ipv6) : Cache where
  slots := c.slots.setIfInBounds i none
  index := c.unindex peer
  order := c.order.filter (· != i)
  free := i :: c.free

def occupy (c : Cache) (i : Nat) (free : List Nat) (e : Entry) : Cache where
  slots := c.slots.setIfInBounds i (some e)
  index := (e.peer, i) :: c.index
  order := c.order ++ [i]
  free := free

theorem slot?_vacate (c : Cache) (i : Nat) (peer : Ipv6) (j : Nat)
    : (c.vacate i peer).slot? j = if i = j then none else c.slot? j := by
  simp only [slot?, vacate, Array.getElem?_setIfInBounds]
  split
  . split <;> rfl
  . rfl

theorem slot?_occupy (c : Cache) {i : Nat} (hi : i < c.slots.size) (free : List Nat) (e : Entry)
    (j : Nat)
    : (c.occupy i free e).slot? j = if i = j then some e else c.slot? j := by
  simp only [slot?, occupy, Array.getElem?_setIfInBounds, hi]
  split <;> rfl

namespace WellFormed

variable {c : Cache}

theorem vacate (h : c.WellFormed) {i : Nat} {e : Entry} (he : c.slot? i = some e)
    : (c.vacate i e.peer).WellFormed where
  slots_perm := by
    have hi : i ∈ c.order := h.mem_order_iff.2 ⟨e, he⟩
    have herase : c.order.filter (· != i) = c.order.erase i := (h.nodup_order.erase_eq_filter i).symm
    simp only [Cache.vacate, herase, Array.size_setIfInBounds]
    refine List.Perm.trans ?_ h.slots_perm
    refine List.Perm.trans List.perm_middle ?_
    exact (List.perm_cons_erase hi).symm.append_right c.free
  size_pos := by simpa [Cache.vacate] using h.size_pos
  occupied := by
    intro j hj
    simp only [Cache.vacate, List.mem_filter, bne_iff_ne] at hj
    obtain ⟨e', he'⟩ := h.occupied j hj.1
    exact ⟨e', by simp [slot?_vacate, he', hj.2.symm]⟩
  vacant := by
    intro j hj
    rw [slot?_vacate]
    split
    . rfl
    . next hne =>
      apply h.vacant
      simpa [Cache.vacate, Ne.symm hne] using hj
  mem_index_iff := by
    intro peer j
    have hindex : (peer, j) ∈ (c.vacate i e.peer).index ↔ (peer, j) ∈ c.index ∧ peer ≠ e.peer := by
      simp [Cache.vacate, unindex]
    rw [hindex, h.mem_index_iff, slot?_vacate]
    -- the slots other than `i` are those with another peer, as no peer has two entries
    by_cases hij : i = j
    . subst hij
      simp [he, eq_comm]
    . simp only [hij, ↓reduceIte, and_iff_left_iff_imp, forall_exists_index, and_imp]
      intro e' he' hpeer heq
      apply hij
      exact h.slot_eq_of_peer_eq he he' (by rw [hpeer, heq])
  nodup_index := h.nodup_index.sublist (List.Sublist.map _ List.filter_sublist)

theorem occupy (h : c.WellFormed) {i : Nat} {free : List Nat} (hfree : c.free = i :: free) {e : Entry}
    (hnew : ∀ j e', c.slot? j = some e' → e'.peer ≠ e.peer)
    : (c.occupy i free e).WellFormed := by
  have hi : i < c.slots.size := h.lt_size_iff.2 (Or.inr (by simp [hfree]))
  have hslot := slot?_occupy c hi free e
  have hvacant : c.slot? i = none := h.vacant i (by simp [hfree])
  exact {
    slots_perm := by
      have hperm := h.slots_perm
      rw [hfree] at hperm
      simpa [Cache.occupy] using hperm
    size_pos := by simpa [Cache.occupy] using h.size_pos
    occupied := by
      intro j hj
      rw [hslot]
      split
      . exact ⟨e, rfl⟩
      . next hne =>
        apply h.occupied
        simpa [Cache.occupy, Ne.symm hne] using hj
    vacant := by
      intro j hj
      -- slot `i` was free once only, so it is not among the remaining free slots
      have hnodup := (List.nodup_append.1 h.nodup_slots).2.1
      rw [hfree, List.nodup_cons] at hnodup
      have hne : i ≠ j := by
        intro heq
        subst heq
        exact hnodup.1 hj
      rw [hslot, if_neg hne]
      apply h.vacant
      rw [hfree]
      exact List.mem_cons_of_mem i hj
    mem_index_iff := by
      intro peer j
      have hindex : (peer, j) ∈ (c.occupy i free e).index
          ↔ (peer = e.peer ∧ j = i) ∨ (peer, j) ∈ c.index := by
        simp [Cache.occupy]
      rw [hindex, h.mem_index_iff, hslot]
      by_cases hij : i = j
      . subst hij
        simp [hvacant, eq_comm]
      . simp [hij, Ne.symm hij]
    nodup_index := by
      simp only [Cache.occupy, List.map_cons, List.nodup_cons]
      refine ⟨?_, h.nodup_index⟩
      intro hmem
      obtain ⟨⟨peer, j⟩, hmem, hpeer⟩ := List.mem_map.1 hmem
      obtain ⟨e', he', hpeer'⟩ := (h.mem_index_iff peer j).1 hmem
      exact hnew j e' he' (hpeer'.trans hpeer)
  }

end WellFormed

end Cache

end SourceCookie
