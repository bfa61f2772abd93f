import SourceCookie.Proofs.Cache.Fault

/-!
The table of entries is a bounded list of entries of distinct peers: access for access it hands out what
the list hands out, and no access fails. Slots, index, queue and stack stay consistent throughout.
-/

namespace SourceCookie

namespace Roster

theorem find?_eq_some_iff {r : Roster} {peer : Ipv6} {e : Entry}
    : r.find? peer = some e ↔ e ∈ r.entries ∧ e.peer = peer := by
  constructor
  . intro hfound
    refine ⟨List.mem_of_find?_eq_some hfound, ?_⟩
    simpa using List.find?_some hfound
  . rintro ⟨hmem, hpeer⟩
    cases hfound : r.find? peer with
    | none => exact absurd hpeer (find?_eq_none_iff.1 hfound e hmem)
    | some e' =>
      have hpeer' : e'.peer = peer := by simpa using List.find?_some hfound
      have hmem' : e' ∈ r.entries := List.mem_of_find?_eq_some hfound
      rw [List.inj_on_of_nodup_map r.nodup_peers hmem' hmem (hpeer'.trans hpeer.symm)]

variable {r : Roster} {peer : Ipv6} {policyDisables : Bool} {cookie : Cookie} {now : Timestamp}

theorem insert_of_find?_eq_some {e : Entry} (he : r.find? peer = some e)
    : r.insert peer policyDisables cookie now = (e, r) := by
  unfold insert
  split
  . next e' he' =>
    rw [he, Option.some.injEq] at he'
    rw [he']
  . next hnone =>
    rw [he] at hnone
    contradiction

theorem insert_of_find?_eq_none (hnone : r.find? peer = none)
    : r.insert peer policyDisables cookie now
        =
      (.fresh peer policyDisables cookie now,
        r.append (.fresh peer policyDisables cookie now) hnone) := by
  unfold insert
  split
  . next e he =>
    rw [hnone] at he
    contradiction
  . rfl

end Roster

namespace Cache

variable {c : Cache}

structure Represents (c : Cache) (r : Roster) : Prop where
  wellFormed : c.WellFormed
  size_slots : c.slots.size = r.room
  toList_eq : c.toList = r.entries

namespace Represents

variable {r : Roster}

theorem empty (capacity : Nat) : Represents (.empty capacity) (.empty capacity) where
  wellFormed := wellFormed_empty capacity
  size_slots := by simp [Cache.empty, Roster.empty]
  toList_eq := rfl

theorem lookup?_eq (h : Represents c r) (peer : Ipv6) : c.lookup? peer = r.find? peer := by
  apply Option.ext
  intro e
  rw [h.wellFormed.lookup?_eq_some_iff, Roster.find?_eq_some_iff, h.toList_eq]

theorem insert (h : Represents c r) (peer : Ipv6) (policyDisables : Bool) (cookie : Cookie)
    (now : Timestamp)
    : (c.insert peer policyDisables cookie now).1 = (r.insert peer policyDisables cookie now).1 ∧
      Represents (c.insert peer policyDisables cookie now).2
        (r.insert peer policyDisables cookie now).2 := by
  cases hlookup : c.lookup? peer with
  | some e =>
    have hfind : r.find? peer = some e := by rw [← h.lookup?_eq, hlookup]
    rw [insert_of_lookup?_eq_some hlookup, Roster.insert_of_find?_eq_some hfind]
    exact ⟨rfl, h⟩
  | none =>
    have hfind : r.find? peer = none := by rw [← h.lookup?_eq, hlookup]
    rw [Roster.insert_of_find?_eq_none hfind]
    refine ⟨h.wellFormed.insert_fst hlookup, h.wellFormed.insert, ?_, ?_⟩
    . exact (h.wellFormed.size_slots_insert).trans h.size_slots
    . rw [h.wellFormed.toList_insert_eq_ite hlookup]
      unfold capacity
      rw [h.toList_eq, h.size_slots]
      rfl

theorem mutate (h : Represents c r) (peer : Ipv6) (mutators : List Entry.Mutator)
    : Represents (c.modify peer (·.mutate mutators)) (r.mutate peer mutators) where
  wellFormed := by
    apply h.wellFormed.modify
    intro e he
    rw [Entry.peer_mutate, he]
  size_slots := by
    rw [size_slots_modify]
    exact h.size_slots
  toList_eq := by
    rw [h.wellFormed.toList_modify, h.toList_eq]
    rfl

theorem remove (h : Represents c r) (peer : Ipv6)
    : (c.remove peer).1 = r.find? peer ∧ Represents (c.remove peer).2 (r.remove peer) := by
  rw [← h.lookup?_eq]
  unfold Cache.remove
  cases hindex : c.index.lookup peer with
  | none =>
    have hlookup : c.lookup? peer = none := by simp [lookup?, hindex]
    refine ⟨hlookup.symm, h.wellFormed, h.size_slots, ?_⟩
    -- no entry is of the peer, so the list keeps all of them
    have hpeers := h.wellFormed.lookup?_eq_none_iff.1 hlookup
    rw [h.toList_eq] at hpeers ⊢
    symm
    simpa [Roster.remove, List.filter_eq_self] using hpeers
  | some i =>
    obtain ⟨e, he, hpeer⟩ := h.wellFormed.lookup_index_iff.1 hindex
    subst hpeer
    refine ⟨by simp [lookup?, hindex], h.wellFormed.vacate he, ?_, ?_⟩
    . rw [Array.size_setIfInBounds, h.size_slots]
      rfl
    . show (c.vacate i e.peer).toList = _
      rw [h.wellFormed.toList_vacate he, h.toList_eq]
      rfl

theorem access (h : Represents c r) (a : Access)
    : (c.access a).1 = (r.access a).1 ∧ Represents (c.access a).2 (r.access a).2 := by
  cases a with
  | insert peer policyDisables cookie now =>
    obtain ⟨hentry, hrepresents⟩ := h.insert peer policyDisables cookie now
    exact ⟨congrArg Response.entry hentry, hrepresents⟩
  | lookup peer => exact ⟨congrArg Response.found (h.lookup?_eq peer), h⟩
  | mutate peer mutators =>
    exact ⟨congrArg Response.found (h.lookup?_eq peer), h.mutate peer mutators⟩
  | remove peer =>
    obtain ⟨hfound, hrepresents⟩ := h.remove peer
    exact ⟨congrArg Response.found hfound, hrepresents⟩
  | iterate => exact ⟨congrArg Response.entries h.toList_eq, h⟩

theorem perform (h : Represents c r) (accesses : List Access)
    : c.tryPerform accesses = .ok (c.perform accesses) ∧
      (c.perform accesses).1 = (r.perform accesses).1 ∧
      Represents (c.perform accesses).2 (r.perform accesses).2 := by
  induction accesses generalizing c r with
  | nil => exact ⟨rfl, rfl, h⟩
  | cons a rest ih =>
    obtain ⟨hresponse, hnext⟩ := h.access a
    obtain ⟨htry, hresponses, hrepresents⟩ := ih hnext
    refine ⟨?_, ?_, hrepresents⟩
    . unfold tryPerform
      simp only [h.wellFormed.tryAccess_eq, ok_bind, htry]
      rfl
    . unfold Cache.perform Roster.perform
      simp only
      rw [hresponse, hresponses]

end Represents

/-- Whatever is done with a table, it hands out what the list of its entries does, no access of it fails,
the index leads from each peer of the list to the slot of its entry, and queue and stack hold every slot
once. -/
theorem perform_eq_roster_perform (capacity : Nat) (accesses : List Access)
    : ∃ responses c r,
        (empty capacity).perform accesses = (responses, c) ∧
        (empty capacity).tryPerform accesses = .ok (responses, c) ∧
        (Roster.empty capacity).perform accesses = (responses, r) ∧
        r.room = max capacity 1 ∧
        c.toList = r.entries ∧
        (∀ peer i, c.index.lookup peer = some i
          ↔
        ∃ e, e ∈ r.entries ∧ e.peer = peer ∧ c.slot? i = some e) ∧
        c.slots.size = max capacity 1 ∧
        (c.order ++ c.free).Perm (List.range (max capacity 1)) := by
  obtain ⟨htry, hresponses, hrepresents⟩ := (Represents.empty capacity).perform accesses
  have h := hrepresents.wellFormed
  have hroom := (Roster.empty capacity).room_perform accesses
  have hsize : ((empty capacity).perform accesses).2.slots.size = max capacity 1 :=
    hrepresents.size_slots.trans hroom
  refine ⟨_, _, _, rfl, htry, ?_, hroom, hrepresents.toList_eq, ?_, hsize, ?_⟩
  . rw [hresponses]
  . intro peer i
    rw [h.lookup_index_iff, ← hrepresents.toList_eq]
    constructor
    . rintro ⟨e, he, hpeer⟩
      exact ⟨e, h.mem_toList_iff.2 ⟨i, he⟩, hpeer, he⟩
    . rintro ⟨e, _, hpeer, he⟩
      exact ⟨e, he, hpeer⟩
  . rw [← hsize]
    exact h.slots_perm

end Cache

end SourceCookie
