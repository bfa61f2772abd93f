/-!
Lists of values by name, in the order in which the names came. `put` keeps names distinct, and looking
a name up after it gives the value that was put.
-/

namespace SourceCookie.Keyed

variable {α : Type}

def put (name : String) (a : α) : List (String × α) → List (String × α)
  | [] => [(name, a)]
  | (n, b) :: rest => if n = name then (name, a) :: rest else (n, b) :: put name a rest

def erase (name : String) (members : List (String × α)) : List (String × α) :=
  members.filter fun (n, _) => n != name

theorem lookup_put_self (name : String) (a : α) (members : List (String × α))
    : (put name a members).lookup name = some a := by
  induction members with
  | nil => simp [put]
  | cons m rest ih =>
    obtain ⟨n, b⟩ := m
    by_cases h : n = name
    . simp [put, h]
    . simp [put, h, List.lookup_cons, ih, beq_eq_false_iff_ne.2 (Ne.symm h)]

theorem lookup_put_of_ne {name other : String} (h : other ≠ name) (a : α)
    (members : List (String × α))
    : (put name a members).lookup other = members.lookup other := by
  induction members with
  | nil => simp [put, List.lookup_cons, beq_eq_false_iff_ne.2 h]
  | cons m rest ih =>
    obtain ⟨n, b⟩ := m
    by_cases hn : n = name
    . subst hn
      simp [put, List.lookup_cons, beq_eq_false_iff_ne.2 h]
    . simp [put, hn, List.lookup_cons, ih]

theorem lookup_eq_none_iff {name : String} {members : List (String × α)}
    : members.lookup name = none ↔ name ∉ members.map Prod.fst := by
  rw [List.lookup_eq_none_iff]
  simp only [bne_iff_ne, List.mem_map, not_exists, not_and]
  constructor
  . intro h m hm heq
    exact h m hm heq.symm
  . intro h m hm heq
    exact h m hm heq.symm

theorem put_of_lookup_eq_none {name : String} {members : List (String × α)}
    (h : members.lookup name = none) (a : α)
    : put name a members = members ++ [(name, a)] := by
  rw [lookup_eq_none_iff] at h
  induction members with
  | nil => rfl
  | cons m rest ih =>
    simp only [List.map_cons, List.mem_cons, not_or] at h
    simp [put, ih h.2, Ne.symm h.1]

theorem put_append_singleton {name : String} {members : List (String × α)}
    (h : members.lookup name = none) (a b : α)
    : put name a (members ++ [(name, b)]) = members ++ [(name, a)] := by
  rw [lookup_eq_none_iff] at h
  induction members with
  | nil => simp [put]
  | cons m rest ih =>
    simp only [List.map_cons, List.mem_cons, not_or] at h
    simp [put, ih h.2, Ne.symm h.1]

theorem lookup_map {β : Type} {key : β → String} (f : β → α) {items : List β}
    (h : (items.map key).Nodup) {b : β} (hb : b ∈ items)
    : (items.map fun b => (key b, f b)).lookup (key b) = some (f b) := by
  induction items with
  | nil => contradiction
  | cons item items ih =>
    rw [List.map_cons, List.nodup_cons] at h
    rcases List.mem_cons.1 hb with rfl | hb
    . simp
    . have hne : key b ≠ key item := by
        intro heq
        exact h.1 (heq ▸ List.mem_map_of_mem hb)
      rw [List.map_cons, List.lookup_cons, beq_eq_false_iff_ne.2 hne]
      exact ih h.2 hb

end SourceCookie.Keyed
