import SourceCookie.Proofs.Cache.WellFormed

/-!
The table as the list of its entries, oldest first. Looking up reads this list, changing an entry maps
over it, and a new entry goes to its end while the first one leaves if all slots are taken.
-/

namespace SourceCookie

namespace Cache

variable {c : Cache}

namespace WellFormed

theorem mem_toList_iff (h : c.WellFormed) {e : Entry} : e ∈ c.toList ↔ ∃ i, c.slot? i = some e := by
  simp only [toList, List.mem_filterMap]
  constructor
  . rintro ⟨i, _, he⟩
    exact ⟨i, he⟩
  . rintro ⟨i, he⟩
    exact ⟨i, h.mem_order_iff.2 ⟨e, he⟩, he⟩

theorem lookup?_eq_some_iff (h : c.WellFormed) {peer : Ipv6} {e : Entry}
    : c.lookup? peer = some e ↔ e ∈ c.toList ∧ e.peer = peer := by
  rw [h.mem_toList_iff]
  unfold lookup?
  constructor
  . intro hlookup
    obtain ⟨i, hi, he⟩ := Option.bind_eq_some_iff.1 hlookup
    obtain ⟨e', he', hpeer⟩ := h.lookup_index_iff.1 hi
    rw [he] at he'
    injection he' with heq
    exact ⟨⟨i, he⟩, by rw [heq, hpeer]⟩
  . rintro ⟨⟨i, he⟩, hpeer⟩
    rw [h.lookup_index_iff.2 ⟨e, he, hpeer⟩]
    exact he

theorem lookup?_eq_none_iff (h : c.WellFormed) {peer : Ipv6}
    : c.lookup? peer = none ↔ ∀ e ∈ c.toList, e.peer ≠ peer := by
  rw [Option.eq_none_iff_forall_ne_some]
  constructor
  . intro hnone e he hpeer
    exact hnone e (h.lookup?_eq_some_iff.2 ⟨he, hpeer⟩)
  . intro hnone e he
    obtain ⟨hmem, hpeer⟩ := h.lookup?_eq_some_iff.1 he
    exact hnone e hmem hpeer

theorem lookup_index_iff_peer (h : c.WellFormed) {peer : Ipv6} {i : Nat} {e : Entry}
    (he : c.slot? i = some e)
    : c.index.lookup peer = some i ↔ e.peer = peer := by
  rw [h.lookup_index_iff]
  simp [he]

theorem length_toList (h : c.WellFormed) : c.toList.length = c.order.length := by
  unfold toList
  rw [List.filterMap_length_eq_length]
  intro i hi
  obtain ⟨e, he⟩ := h.occupied i hi
  simp [he]

theorem nodup_peers (h : c.WellFormed) : (c.toList.map Entry.peer).Nodup := by
  unfold toList
  rw [List.map_filterMap]
  apply h.nodup_order.filterMap
  intro i j peer hi hj
  simp only [Option.mem_def, Option.map_eq_some_iff] at hi hj
  obtain ⟨e, he, hpeer⟩ := hi
  obtain ⟨e', he', hpeer'⟩ := hj
  exact h.slot_eq_of_peer_eq he he' (hpeer.trans hpeer'.symm)

end WellFormed

@[simp]
theorem lookup?_empty (capacity : Nat) (peer : Ipv6) : (empty capacity).lookup? peer = none := rfl

theorem WellFormed.toList_modify (h : c.WellFormed) (peer : Ipv6) (f : Entry → Entry)
    : (c.modify peer f).toList = c.toList.map fun e => if e.peer = peer then f e else e := by
  unfold toList
  rw [order_modify, List.map_filterMap]
  apply List.filterMap_congr
  intro i hi
  obtain ⟨e, he⟩ := h.occupied i hi
  rw [slot?_modify, he]
  simp only [h.lookup_index_iff_peer he, Option.map_some]
  split <;> rfl

theorem lookup?_modify_self (c : Cache) (peer : Ipv6) (f : Entry → Entry)
    : (c.modify peer f).lookup? peer = (c.lookup? peer).map f := by
  unfold lookup?
  rw [index_modify]
  cases hindex : c.index.lookup peer with
  | none => rfl
  | some i => simp [slot?_modify, hindex]

theorem WellFormed.lookup?_modify_of_ne (h : c.WellFormed) {peer other : Ipv6} (hne : other ≠ peer)
    (f : Entry → Entry)
    : (c.modify peer f).lookup? other = c.lookup? other := by
  unfold lookup?
  rw [index_modify]
  cases hindex : c.index.lookup other with
  | none => rfl
  | some i =>
    obtain ⟨e, he, hpeer⟩ := h.lookup_index_iff.1 hindex
    have hother : c.index.lookup peer ≠ some i := by
      rw [ne_eq, h.lookup_index_iff_peer he, hpeer]
      exact hne
    simp [slot?_modify, hother]

theorem WellFormed.length_toList_le (h : c.WellFormed) : c.toList.length ≤ c.capacity := by
  have hlength := h.slots_perm.length_eq
  rw [List.length_append, List.length_range] at hlength
  rw [h.length_toList, capacity, ← hlength]
  apply Nat.le_add_right

section Split

variable {before after : List Entry} {e : Entry}

theorem WellFormed.peer_ne_of_split (h : c.WellFormed) (hsplit : c.toList = before ++ e :: after)
    : (∀ e' ∈ before, e'.peer ≠ e.peer) ∧ ∀ e' ∈ after, e'.peer ≠ e.peer := by
  have hnodup := h.nodup_peers
  rw [hsplit, List.map_append, List.map_cons, List.nodup_middle, List.nodup_cons, ← List.map_append]
    at hnodup
  rw [← List.forall_mem_append]
  intro e' he' hpeer
  apply hnodup.1
  rw [← hpeer]
  exact List.mem_map_of_mem he'

theorem WellFormed.filter_peer_toList (h : c.WellFormed) (hsplit : c.toList = before ++ e :: after)
    : c.toList.filter (·.peer = e.peer) = [e] := by
  obtain ⟨hbefore, hafter⟩ := h.peer_ne_of_split hsplit
  have hnone : ∀ es : List Entry, (∀ e' ∈ es, e'.peer ≠ e.peer) → es.filter (·.peer = e.peer) = [] := by
    intro es hes
    simpa [List.filter_eq_nil_iff] using hes
  rw [hsplit, List.filter_append, List.filter_cons_of_pos (by simp), hnone before hbefore, hnone after hafter]
  rfl

theorem WellFormed.toList_modify_of_split (h : c.WellFormed) (hsplit : c.toList = before ++ e :: after)
    (f : Entry → Entry)
    : (c.modify e.peer f).toList = before ++ f e :: after := by
  obtain ⟨hbefore, hafter⟩ := h.peer_ne_of_split hsplit
  have hkept : ∀ es : List Entry, (∀ e' ∈ es, e'.peer ≠ e.peer) →
      es.map (fun e' => if e'.peer = e.peer then f e' else e') = es := by
    intro es hes
    conv_rhs => rw [← List.map_id es]
    apply List.map_congr_left
    intro e' he'
    rw [if_neg (hes e' he'), id]
  rw [h.toList_modify, hsplit, List.map_append, List.map_cons, if_pos rfl, hkept before hbefore,
    hkept after hafter]

end Split

theorem WellFormed.toList_vacate (h : c.WellFormed) {i : Nat} {e : Entry} (he : c.slot? i = some e)
    : (c.vacate i e.peer).toList = c.toList.filter (·.peer != e.peer) := by
  have horder : (c.vacate i e.peer).order = c.order.filter (· != i) := rfl
  unfold toList
  rw [horder, List.filter_filterMap, List.filterMap_filter]
  apply List.filterMap_congr
  intro j hj
  obtain ⟨e', he'⟩ := h.occupied j hj
  rw [slot?_vacate, he']
  by_cases hij : i = j
  . subst hij
    rw [he] at he'
    injection he' with heq
    simp [heq, Option.filter]
  . have hpeer : e'.peer ≠ e.peer := by
      intro hpeer
      exact hij (h.slot_eq_of_peer_eq he he' hpeer.symm)
    simp [hij, Ne.symm hij, Option.filter, hpeer]

theorem WellFormed.toList_occupy (h : c.WellFormed) {i : Nat} {free : List Nat}
    (hfree : c.free = i :: free) (e : Entry)
    : (c.occupy i free e).toList = c.toList ++ [e] := by
  have hi : i < c.slots.size := h.lt_size_iff.2 (Or.inr (by simp [hfree]))
  have horder : (c.occupy i free e).order = c.order ++ [i] := rfl
  unfold toList
  rw [horder, List.filterMap_append]
  have hold : c.order.filterMap (c.occupy i free e).slot? = c.order.filterMap c.slot? := by
    apply List.filterMap_congr
    intro j hj
    have hne : i ≠ j := by
      intro hij
      subst hij
      exact (List.nodup_append.1 h.nodup_slots).2.2 i hj i (by simp [hfree]) rfl
    rw [slot?_occupy c hi, if_neg hne]
  rw [hold]
  simp [slot?_occupy c hi]

def makeRoom (c : Cache) : Cache :=
  match c.free, c.order with
  | [], i :: _ =>
    match c.slot? i with
    | some e => c.vacate i e.peer
    | none => c
  | _, _ => c

theorem WellFormed.makeRoom (h : c.WellFormed) : c.makeRoom.WellFormed := by
  unfold Cache.makeRoom
  split
  . split
    . next he => exact h.vacate he
    . exact h
  . exact h

theorem size_slots_makeRoom (c : Cache) : c.makeRoom.slots.size = c.slots.size := by
  unfold makeRoom
  split
  . split <;> simp [vacate]
  . rfl

theorem WellFormed.takeSlot?_eq (h : c.WellFormed)
    : ∃ i free, c.makeRoom.free = i :: free ∧ c.takeSlot? = some (i, { c.makeRoom with free }) := by
  unfold takeSlot? Cache.makeRoom evictOldest?
  cases hfree : c.free with
  | cons i free => exact ⟨i, free, by simp [hfree], by simp⟩
  | nil =>
    cases horder : c.order with
    | nil =>
      -- a table has at least one slot, which is free or occupied
      have hlength := h.slots_perm.length_eq
      have hpos := h.size_pos
      simp [hfree, horder] at hlength
      omega
    | cons i order =>
      obtain ⟨e, he⟩ := h.occupied i (by simp [horder])
      have hnodup := h.nodup_order
      rw [horder, List.nodup_cons] at hnodup
      have hrest : (i :: order).filter (· != i) = order := by
        simp only [List.filter_cons, bne_self_eq_false, Bool.false_eq_true, ↓reduceIte]
        rw [List.filter_eq_self]
        intro j hj
        simp only [bne_iff_ne]
        intro hji
        subst hji
        exact hnodup.1 hj
      refine ⟨i, [], ?_, ?_⟩
      . simp [he, Cache.vacate, hfree]
      . simp [he, Cache.vacate, horder, hrest]

theorem WellFormed.toList_makeRoom (h : c.WellFormed)
    : c.makeRoom.toList = if c.toList.length < c.capacity then c.toList else c.toList.tail := by
  have hlength := h.slots_perm.length_eq
  simp only [List.length_append, List.length_range] at hlength
  rw [h.length_toList, capacity]
  unfold Cache.makeRoom
  cases hfree : c.free with
  | cons i free =>
    have hroom : c.order.length < c.slots.size := by
      rw [← hlength, hfree, List.length_cons]
      omega
    simp [hroom]
  | nil =>
    rw [hfree, List.length_nil, Nat.add_zero] at hlength
    rw [hlength, if_neg (Nat.lt_irrefl _)]
    cases horder : c.order with
    | nil => simp [toList, horder]
    | cons i order =>
      obtain ⟨e, he⟩ := h.occupied i (by simp [horder])
      have hlist : c.toList = e :: order.filterMap c.slot? := by simp [toList, horder, he]
      have hnodup := h.nodup_peers
      rw [hlist, List.map_cons, List.nodup_cons] at hnodup
      -- no other entry is of the oldest one's peer, so vacating its slot drops the head alone
      simp only [he]
      rw [h.toList_vacate he, hlist, List.tail_cons]
      simp only [List.filter_cons, bne_self_eq_false, Bool.false_eq_true, ↓reduceIte]
      rw [List.filter_eq_self]
      intro e' he'
      simp only [bne_iff_ne]
      intro hpeer
      apply hnodup.1
      rw [← hpeer]
      exact List.mem_map_of_mem he'

section Insert

variable {peer : Ipv6} {policyDisables : Bool} {cookie : Cookie} {now : Timestamp}

theorem insert_of_lookup?_eq_some {e : Entry} (he : c.lookup? peer = some e)
    : c.insert peer policyDisables cookie now = (e, c) := by
  unfold insert
  rw [he]

theorem WellFormed.insert_of_lookup?_eq_none (h : c.WellFormed) (hnone : c.lookup? peer = none)
    : ∃ i free, c.makeRoom.free = i :: free ∧
        c.insert peer policyDisables cookie now
          =
        (.fresh peer policyDisables cookie now,
          c.makeRoom.occupy i free (.fresh peer policyDisables cookie now)) := by
  obtain ⟨i, free, hfree, htake⟩ := h.takeSlot?_eq
  refine ⟨i, free, hfree, ?_⟩
  unfold insert
  rw [hnone, htake]
  rfl

theorem WellFormed.ne_of_mem_makeRoom (h : c.WellFormed) (hnone : c.lookup? peer = none) (j : Nat)
    (e : Entry) (he : c.makeRoom.slot? j = some e)
    : e.peer ≠ peer := by
  apply h.lookup?_eq_none_iff.1 hnone
  have hmem := h.makeRoom.mem_toList_iff.2 ⟨j, he⟩
  rw [h.toList_makeRoom] at hmem
  split at hmem
  . exact hmem
  . exact List.mem_of_mem_tail hmem

theorem WellFormed.insert (h : c.WellFormed)
    : (c.insert peer policyDisables cookie now).2.WellFormed := by
  cases hlookup : c.lookup? peer with
  | some e =>
    rw [insert_of_lookup?_eq_some hlookup]
    exact h
  | none =>
    obtain ⟨i, free, hfree, hinsert⟩ := h.insert_of_lookup?_eq_none hlookup
    rw [hinsert]
    apply h.makeRoom.occupy hfree
    apply h.ne_of_mem_makeRoom hlookup

theorem WellFormed.insert_fst (h : c.WellFormed) (hnone : c.lookup? peer = none)
    : (c.insert peer policyDisables cookie now).1 = .fresh peer policyDisables cookie now := by
  obtain ⟨i, free, hfree, hinsert⟩ := h.insert_of_lookup?_eq_none hnone
  rw [hinsert]

theorem WellFormed.toList_insert (h : c.WellFormed) (hnone : c.lookup? peer = none)
    : (c.insert peer policyDisables cookie now).2.toList
        =
      (if c.toList.length < c.capacity then c.toList else c.toList.tail)
        ++ [.fresh peer policyDisables cookie now] := by
  obtain ⟨i, free, hfree, hinsert⟩ := h.insert_of_lookup?_eq_none hnone
  rw [hinsert, h.makeRoom.toList_occupy hfree, h.toList_makeRoom]

theorem WellFormed.toList_insert_eq_ite (h : c.WellFormed) (hnone : c.lookup? peer = none)
    : (c.insert peer policyDisables cookie now).2.toList
        =
      (if c.toList.length = c.capacity then c.toList.tail else c.toList)
        ++ [.fresh peer policyDisables cookie now] := by
  have hle := h.length_toList_le
  rw [h.toList_insert hnone]
  split
  . next hlt => rw [if_neg (Nat.ne_of_lt hlt)]
  . next hge => rw [if_pos (by omega)]

theorem WellFormed.lookup?_insert_self (h : c.WellFormed) (hnone : c.lookup? peer = none)
    : (c.insert peer policyDisables cookie now).2.lookup? peer
        =
      some (.fresh peer policyDisables cookie now) := by
  rw [h.insert.lookup?_eq_some_iff, h.toList_insert hnone]
  exact ⟨by simp, rfl⟩

theorem WellFormed.size_slots_insert (h : c.WellFormed)
    : (c.insert peer policyDisables cookie now).2.slots.size = c.slots.size := by
  cases hlookup : c.lookup? peer with
  | some e => rw [insert_of_lookup?_eq_some hlookup]
  | none =>
    obtain ⟨i, free, _, hinsert⟩ := h.insert_of_lookup?_eq_none hlookup
    rw [hinsert]
    simp [Cache.occupy, size_slots_makeRoom]

theorem WellFormed.lookup?_insert_of_room (h : c.WellFormed) (hnone : c.lookup? peer = none)
    (hroom : c.toList.length < c.capacity) {other : Ipv6} (hne : other ≠ peer)
    : (c.insert peer policyDisables cookie now).2.lookup? other = c.lookup? other := by
  apply Option.ext
  intro e
  rw [h.insert.lookup?_eq_some_iff, h.lookup?_eq_some_iff, h.toList_insert hnone, if_pos hroom,
    List.mem_append, List.mem_singleton]
  constructor
  . rintro ⟨hold | hnew, hpeer⟩
    . exact ⟨hold, hpeer⟩
    . subst hnew
      exact absurd hpeer.symm hne
  . rintro ⟨hold, hpeer⟩
    exact ⟨Or.inl hold, hpeer⟩

theorem WellFormed.lookup?_insert_of_ne (h : c.WellFormed) (hnone : c.lookup? peer = none)
    {other : Ipv6} (hne : other ≠ peer)
    : (c.insert peer policyDisables cookie now).2.lookup? other = c.lookup? other ∨
      (c.insert peer policyDisables cookie now).2.lookup? other = none := by
  cases hlookup : (c.insert peer policyDisables cookie now).2.lookup? other with
  | none => exact Or.inr rfl
  | some e =>
    apply Or.inl
    symm
    rw [h.insert.lookup?_eq_some_iff, h.toList_insert hnone, List.mem_append] at hlookup
    rw [h.lookup?_eq_some_iff]
    obtain ⟨hold | hnew, hpeer⟩ := hlookup
    . refine ⟨?_, hpeer⟩
      split at hold
      . exact hold
      . exact List.mem_of_mem_tail hold
    . rw [List.mem_singleton] at hnew
      subst hnew
      exact absurd hpeer.symm hne

end Insert

end Cache

end SourceCookie
