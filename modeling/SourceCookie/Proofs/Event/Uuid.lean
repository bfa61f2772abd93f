import SourceCookie.Event.Uuid

/-!
Identifiers that are written are read back. The hyphens tell the written form from the other three.
-/

namespace SourceCookie

namespace Uuid

variable {digits : List Char}

theorem ungroup?_append {a b c d e : List Char} (ha : a.length = 8) (hb : b.length = 4) (hc : c.length = 4)
    (hd : d.length = 4)
    : ungroup? (a ++ '-' :: b ++ '-' :: c ++ '-' :: d ++ '-' :: e) = some (a ++ b ++ c ++ d ++ e) := by
  unfold ungroup?
  simp [List.getElem?_append, List.drop_append, List.drop_of_length_le, ha, hb, hc, hd]

theorem ofGroups?_render (u : Uuid) : ofGroups? u.render = some u := by
  have hlength : (Hex.encode u.bytes).length = 32 := by rw [Hex.length_encode, u.length_bytes]
  have hdigits : ungroup? u.render = some (Hex.encode u.bytes) := by
    unfold render
    simp only
    rw [ungroup?_append]
    . rw [← List.take_add, ← List.take_add, ← List.take_add, List.take_append_drop]
    all_goals simp [hlength]
  have hread : ofDigits? (Hex.encode u.bytes) = some u := by
    unfold ofDigits?
    simp [Hex.decode?_encode, u.length_bytes]
  unfold ofGroups?
  rw [hdigits, Option.bind_some, hread, if_pos]
  simp [render, hlength]

theorem not_isPrefixOf_render (u : Uuid) : urnLead.isPrefixOf (u.render.map Char.toLower) = false := by
  obtain ⟨b, bytes, hbytes⟩ := List.exists_cons_of_length_eq_add_one u.length_bytes
  have hall : ∀ i : Fin 16, (Nat.digitChar i).toLower ≠ 'u' := by decide
  have hlt := b.toNat_lt
  have hdigit := hall ⟨b.toNat / 16, by omega⟩
  have hlead : urnLead = 'u' :: ['r', 'n', ':', 'u', 'u', 'i', 'd', ':'] := rfl
  obtain ⟨rest, hrest⟩ : ∃ rest, u.render = Nat.digitChar (b.toNat / 16) :: rest := by
    unfold render
    rw [hbytes, Hex.encode_cons, Hex.encodeByte]
    exact ⟨_, rfl⟩
  rw [hrest, hlead, List.map_cons, List.isPrefixOf_cons_cons, beq_eq_false_iff_ne.2 hdigit.symm,
    Bool.false_and]

theorem parse?_render (u : Uuid) : parse? u.render = some u := by
  have hlength : u.render.length = 36 := by
    simp [render, Hex.length_encode, u.length_bytes]
  unfold parse?
  simp [hlength, u.not_isPrefixOf_render, u.ofGroups?_render]

end Uuid

end SourceCookie
