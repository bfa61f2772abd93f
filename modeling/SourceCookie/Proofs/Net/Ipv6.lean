import SourceCookie.Net.Ipv6
import SourceCookie.Proofs.Run
import SourceCookie.Proofs.Text.Digits

/-!
Addresses as numbers and as text. The number of an address holds the bits of its groups. Addresses that are
written are read back, in every grammar: the groups before and after a double colon are read as they stand,
and the double colon makes up for the zeros that were left out.
-/

namespace SourceCookie

open Digits

variable {s rest : List Char}

namespace Ipv4

theorem read?_octet (leadingZeros : Bool) (b : UInt8)
    (hrest : ∀ c, rest.head? = some c → value? 10 c = none)
    : (octetForm leadingZeros).read? (decimal b.toNat ++ rest) = some (b.toNat, rest) := by
  have hlt : b.toNat < 256 := b.toNat_lt
  refine Form.read?_toDigits ⟨?_, ?_⟩ hlt ?_ hrest
  . show 1 < 10
    decide
  . show 10 ≤ 16
    decide
  . intro most hmost
    obtain rfl : 3 = most := Option.some_inj.1 hmost
    show 0 < 3 ∧ b.toNat < 10 ^ 3
    omega

theorem read?_octet_dot (leadingZeros : Bool) (b : UInt8) (u : List Char)
    : (octetForm leadingZeros).read? (decimal b.toNat ++ '.' :: u) = some (b.toNat, '.' :: u) :=
  read?_octet leadingZeros b (value?_of_head?_cons (by decide) u)

theorem read?_render (leadingZeros : Bool) (ip : Ipv4)
    (hrest : ∀ c, rest.head? = some c → value? 10 c = none)
    : read? leadingZeros (ip.render ++ rest) = some (ip, rest) := by
  unfold read? render
  simp only [List.append_assoc, List.cons_append, read?_octet_dot, read?_octet _ _ hrest,
    Option.bind_eq_bind, Option.bind_some, UInt8.ofNat_toNat, Option.pure_def]

theorem read?_eq_none {leadingZeros : Bool} (h : (span 10 s).2.head? ≠ some '.')
    : read? leadingZeros s = none := by
  unfold read?
  cases hread : (octetForm leadingZeros).read? s with
  | none => simp only [hread, Option.bind_eq_bind, Option.bind_none]
  | some read =>
    obtain ⟨a, after⟩ := read
    have hafter : after = (span 10 s).2 := Form.eq_span_of_read? hread
    simp only [hread, Option.bind_eq_bind, Option.bind_some]
    split
    . rw [← hafter] at h
      contradiction
    . rfl

end Ipv4

namespace Ipv6

variable {grammar : Grammar} {gs : List UInt16} {limit : Nat}

def Stops (rest : List Char) : Prop :=
  ∀ c, rest.head? = some c → value? 16 c = none ∧ c ≠ '.'

theorem stops_nil : Stops [] := by
  intro c hc
  contradiction

theorem stops_cons {c : Char} (hdigit : value? 16 c = none) (hdot : c ≠ '.') (u : List Char)
    : Stops (c :: u) := by
  intro d hd
  rw [← Option.some_inj.1 hd]
  exact ⟨hdigit, hdot⟩

section Groups

theorem Stops.head?_span_map {digits : List Nat} (h : Stops rest) (hlt : ∀ d ∈ digits, d < 16)
    : (span 10 (digits.map Nat.digitChar ++ rest)).2.head? ≠ some '.' := by
  induction digits with
  | nil =>
    cases rest with
    | nil => simp [span]
    | cons c rest =>
      obtain ⟨hdigit, hdot⟩ := h c rfl
      simp [span, value?_eq_none_of_le (by decide : 10 ≤ 16) hdigit, hdot]
  | cons d digits ih =>
    obtain ⟨hd, hdigits⟩ := List.forall_mem_cons.1 hlt
    by_cases hdecimal : d < 10
    . simp [span, value?_digitChar (by decide : 10 ≤ 16) hdecimal, ih hdigits]
    . have hletter : value? 10 (Nat.digitChar d) = none ∧ Nat.digitChar d ≠ '.' := by
        interval_cases d <;> first | contradiction | decide
      simp [span, hletter]

theorem Stops.ipv4Read?_hexadecimal (h : Stops rest) (leadingZeros : Bool) (n : Nat)
    : Ipv4.read? leadingZeros (hexadecimal n ++ rest) = none := by
  obtain ⟨digits, hmap, hdigits⟩ := exists_toDigits_eq_map (by decide : 1 < 16) n
  rw [hexadecimal, hmap]
  exact Ipv4.read?_eq_none (h.head?_span_map hdigits.lt)

theorem Stops.ipv4Read? (h : Stops rest) (leadingZeros : Bool) : Ipv4.read? leadingZeros rest = none := by
  apply Ipv4.read?_eq_none
  exact @Stops.head?_span_map rest [] h (by simp)

theorem Stops.groupForm_read? (h : Stops rest) (g : UInt16)
    : groupForm.read? (hexadecimal g.toNat ++ rest) = some (g.toNat, rest) := by
  have hlt : g.toNat < 65536 := g.toNat_lt
  refine Form.read?_toDigits ⟨by decide, by decide⟩ hlt ?_ fun c hc => (h c hc).1
  intro most hmost
  obtain rfl : 4 = most := Option.some_inj.1 hmost
  exact ⟨by decide, hlt⟩

theorem Stops.groupForm_read?_eq_none (h : Stops rest) : groupForm.read? rest = none := by
  cases rest with
  | nil => rfl
  | cons c rest => simp [Form.read?, groupForm, span, (h c rfl).1, Form.accepts]

theorem Stops.readGroups_succ (h : Stops rest) (g : UInt16)
    : readGroups grammar (limit + 1) true (hexadecimal g.toNat ++ rest)
        =
      (g :: (readGroups grammar limit false rest).1, (readGroups grammar limit false rest).2) ∧
      readGroups grammar (limit + 1) false (':' :: (hexadecimal g.toNat ++ rest))
        =
      (g :: (readGroups grammar limit false rest).1, (readGroups grammar limit false rest).2) := by
  constructor
  all_goals
    simp [readGroups, h.ipv4Read?_hexadecimal, h.groupForm_read?]

theorem Stops.readGroups_eq_nil (h : Stops rest) (first : Bool)
    (hcolon : ∀ u, rest = ':' :: u → u.head? = some ':')
    : readGroups grammar limit first rest = ([], false, rest) := by
  cases limit with
  | zero => rfl
  | succ limit =>
    cases first with
    | true => simp [readGroups, h.ipv4Read?, h.groupForm_read?_eq_none]
    | false =>
      cases rest with
      | nil => rfl
      | cons c u =>
        by_cases hc : c = ':'
        . subst hc
          have hu : Stops u := by
            intro d hd
            rw [hcolon u rfl] at hd
            rw [← Option.some_inj.1 hd]
            decide
          simp [readGroups, hu.ipv4Read?, hu.groupForm_read?_eq_none]
        . simp [readGroups, hc]

theorem joinGroups_cons (g : UInt16) (gs : List UInt16)
    : joinGroups (g :: gs) = hexadecimal g.toNat ++ gs.flatMap fun g => ':' :: hexadecimal g.toNat := by
  induction gs generalizing g with
  | nil => simp [joinGroups]
  | cons g' gs ih =>
    rw [List.flatMap_cons, List.cons_append, ← ih g']
    simp [joinGroups]

theorem stops_flatMap (h : Stops rest) (gs : List UInt16)
    : Stops ((gs.flatMap fun g => ':' :: hexadecimal g.toNat) ++ rest) := by
  cases gs with
  | nil => exact h
  | cons g gs => exact stops_cons (by decide) (by decide) _

theorem Stops.readGroups_flatMap (h : Stops rest) (hcolon : ∀ u, rest = ':' :: u → u.head? = some ':')
    (hlength : gs.length ≤ limit)
    : readGroups grammar limit false ((gs.flatMap fun g => ':' :: hexadecimal g.toNat) ++ rest)
        =
      (gs, false, rest) := by
  induction gs generalizing limit with
  | nil => exact h.readGroups_eq_nil false hcolon
  | cons g gs ih =>
    cases limit with
    | zero => contradiction
    | succ limit =>
      rw [List.length_cons, Nat.add_le_add_iff_right] at hlength
      rw [List.flatMap_cons, List.cons_append, List.cons_append, List.append_assoc,
        ((stops_flatMap h gs).readGroups_succ g).2, ih hlength]

theorem Stops.readGroups_joinGroups (h : Stops rest) (hcolon : ∀ u, rest = ':' :: u → u.head? = some ':')
    (hlength : gs.length ≤ limit)
    : readGroups grammar limit true (joinGroups gs ++ rest) = (gs, false, rest) := by
  cases gs with
  | nil => exact h.readGroups_eq_nil true hcolon
  | cons g gs =>
    cases limit with
    | zero => contradiction
    | succ limit =>
      rw [List.length_cons, Nat.add_le_add_iff_right] at hlength
      rw [joinGroups_cons, List.append_assoc, ((stops_flatMap h gs).readGroups_succ g).1,
        h.readGroups_flatMap hcolon hlength]

end Groups

section Zeros

theorem take_of_le_zeroRun {n : Nat} (h : n ≤ zeroRun gs) : gs.take n = List.replicate n 0 := by
  induction gs generalizing n with
  | nil =>
    obtain rfl : n = 0 := Nat.le_zero.1 h
    rfl
  | cons g gs ih =>
    cases n with
    | zero => rfl
    | succ n =>
      unfold zeroRun at h
      rw [List.takeWhile_cons] at h
      split at h
      . next hzero =>
        rw [List.length_cons, Nat.add_le_add_iff_right] at h
        rw [List.take_succ_cons, ih h, List.replicate_succ, beq_iff_eq.1 hzero]
      . contradiction

theorem longestZeroRun_le (gs : List UInt16)
    : (longestZeroRun gs).2 ≤ zeroRun (gs.drop (longestZeroRun gs).1) := by
  unfold longestZeroRun
  refine foldl_preserves (fun best : Nat × Nat => best.2 ≤ zeroRun (gs.drop best.1)) ?_ (Nat.zero_le _)
  intro best i h
  simp only
  split
  . exact Nat.le_refl _
  . exact h

theorem drop_longestZeroRun (gs : List UInt16)
    : gs.drop (longestZeroRun gs).1
        =
      List.replicate (longestZeroRun gs).2 0 ++ gs.drop ((longestZeroRun gs).1 + (longestZeroRun gs).2) := by
  rw [← take_of_le_zeroRun (longestZeroRun_le gs), ← List.drop_drop, List.take_append_drop]

end Zeros

section Numbers

theorem eq_of_foldl_groups_eq {gs gs' : List UInt16} {m n : Nat} (hlength : gs.length = gs'.length)
    (h : gs.foldl (fun n g => 65536 * n + g.toNat) m = gs'.foldl (fun n g => 65536 * n + g.toNat) n)
    : m = n ∧ gs = gs' := by
  induction gs generalizing gs' m n with
  | nil =>
    obtain rfl := List.length_eq_zero_iff.1 hlength.symm
    exact ⟨h, rfl⟩
  | cons g gs ih =>
    obtain ⟨g', gs', rfl⟩ := List.exists_cons_of_length_eq_add_one hlength.symm
    obtain ⟨hfirst, rfl⟩ := ih (Nat.succ.inj hlength) h
    simp only at hfirst
    have hlt : g.toNat < 65536 := g.toNat_lt
    have hlt' : g'.toNat < 65536 := g'.toNat_lt
    have hg : g.toNat = g'.toNat := by omega
    exact ⟨by omega, by rw [UInt16.toNat_inj.1 hg]⟩

theorem toNat_inj {ip ip' : Ipv6} : ip.toNat = ip'.toNat ↔ ip = ip' := by
  constructor
  . intro h
    exact ext (eq_of_foldl_groups_eq (by rw [ip.length_groups, ip'.length_groups]) h).2
  . rintro rfl
    rfl

theorem foldl_groups_lt (gs : List UInt16)
    : gs.foldl (fun n g => 65536 * n + g.toNat) 0 < 2 ^ (16 * gs.length) := by
  induction gs using List.reverseRecOn with
  | nil => decide
  | append_singleton gs g ih =>
    have hlt : g.toNat < 65536 := g.toNat_lt
    rw [List.foldl_append, List.foldl_cons, List.foldl_nil, List.length_append, List.length_singleton,
      Nat.mul_add, Nat.pow_add]
    omega

theorem toNat_lt (ip : Ipv6) : ip.toNat < 2 ^ 128 := by
  have hlt := foldl_groups_lt ip.groups
  rw [ip.length_groups] at hlt
  exact hlt

theorem testBit_foldl_groups (gs : List UInt16) {i : Nat} (hi : i < 16 * gs.length)
    : gs[i / 16]?.map (fun g : UInt16 => g.toNat.testBit (15 - i % 16))
        =
      some ((gs.foldl (fun (n : Nat) g => 65536 * n + g.toNat) 0).testBit (16 * gs.length - 1 - i)) := by
  induction gs using List.reverseRecOn with
  | nil => simp at hi
  | append_singleton gs g ih =>
    have hlt : g.toNat < 2 ^ 16 := g.toNat_lt
    rw [List.length_append, List.length_singleton] at hi ⊢
    rw [List.foldl_append, List.foldl_cons, List.foldl_nil, show 65536 = 2 ^ 16 from rfl,
      Nat.testBit_two_pow_mul_add _ hlt]
    by_cases hlast : i < 16 * gs.length
    . rw [List.getElem?_append_left (by omega), ih hlast, if_neg (by omega)]
      congr 2
      omega
    . have hgroup : i / 16 = gs.length := by omega
      rw [hgroup, List.getElem?_concat_length, if_pos (by omega), Option.map_some]
      congr 2
      omega

theorem bit_eq (ip : Ipv6) {i : Nat} (hi : i < 128)
    : ip.groups[i / 16]?.map (fun g : UInt16 => g.toNat.testBit (15 - i % 16)) = some (ip.bit i) := by
  have hbit := testBit_foldl_groups ip.groups (by rw [ip.length_groups]; exact hi)
  rw [ip.length_groups] at hbit
  exact hbit

end Numbers

section Reading

theorem ofGroups_groups (ip : Ipv6) : ofGroups ip.groups = ip := by
  apply ext
  have htake : ip.groups.take 8 = ip.groups := List.take_of_length_le (Nat.le_of_eq ip.length_groups)
  simp [ofGroups, htake, ip.length_groups]

theorem ofNat_toUInt8 (g : UInt16)
    : UInt16.ofNat ((g >>> 8).toUInt8.toNat * 256 + g.toUInt8.toNat) = g := by
  have hlt : g.toNat < 65536 := g.toNat_lt
  have hhigh : (g >>> 8).toUInt8.toNat = g.toNat / 256 := by
    rw [UInt16.toNat_toUInt8, UInt16.toNat_shiftRight]
    show g.toNat >>> 8 % 256 = _
    rw [Nat.shiftRight_eq_div_pow]
    omega
  have hlow : g.toUInt8.toNat = g.toNat % 256 := UInt16.toNat_toUInt8 g
  rw [hhigh, hlow, Nat.div_add_mod', UInt16.ofNat_toNat]

theorem groups_eq_of_mapped? {ip : Ipv6} {ip4 : Ipv4} (h : ip.mapped? = some ip4)
    : ip.groups
        =
      [0, 0, 0, 0, 0, 0xffff, .ofNat (ip4.a.toNat * 256 + ip4.b.toNat),
        .ofNat (ip4.c.toNat * 256 + ip4.d.toNat)] := by
  unfold mapped? at h
  split at h
  . next high low hgroups =>
    rw [hgroups, ← Option.some_inj.1 h, ofNat_toUInt8, ofNat_toUInt8]
  . contradiction

theorem read?_compressed {ip : Ipv6} {head tail : List UInt16} {zeros : Nat} {dotted : Bool}
    {text : List Char} (hgroups : ip.groups = head ++ List.replicate zeros 0 ++ tail) (hzeros : 0 < zeros)
    (htail : ∀ limit, tail.length ≤ limit → readGroups grammar limit true text = (tail, dotted, rest))
    : read? grammar (joinGroups head ++ ':' :: ':' :: text) = some (ip, rest) := by
  have hlength := ip.length_groups
  rw [hgroups, List.length_append, List.length_append, List.length_replicate] at hlength
  have hstops : Stops (':' :: ':' :: text) := stops_cons (by decide) (by decide) _
  have hhead : readGroups grammar 8 true (joinGroups head ++ ':' :: ':' :: text)
      =
    (head, false, ':' :: ':' :: text) :=
    hstops.readGroups_joinGroups (by simp) (by omega)
  have hlimit : tail.length ≤ (if grammar.emptyRun then 8 else 7) - head.length := by
    split <;> omega
  have hshort : head.length ≠ 8 := by omega
  have hmissing : 8 - head.length - tail.length = zeros := by omega
  unfold read?
  simp only [hhead, hshort, ↓reduceDIte, Bool.false_eq_true, ↓reduceIte, htail _ hlimit, hmissing, ← hgroups,
    ofGroups_groups]

theorem readGroups_dotted (hrest : Stops rest) (ip4 : Ipv4) (hlimit : 3 ≤ limit)
    : readGroups grammar limit true (hexadecimal 0xffff ++ ':' :: (ip4.render ++ rest))
        =
      ([0xffff, .ofNat (ip4.a.toNat * 256 + ip4.b.toNat), .ofNat (ip4.c.toNat * 256 + ip4.d.toNat)], true,
        rest) := by
  obtain ⟨limit, rfl⟩ := Nat.exists_eq_add_of_le' hlimit
  have hstops : Stops (':' :: (ip4.render ++ rest)) := stops_cons (by decide) (by decide) _
  have hip4 : Ipv4.read? grammar.octetZeros (ip4.render ++ rest) = some (ip4, rest) := by
    apply Ipv4.read?_render
    intro c hc
    exact value?_eq_none_of_le (by decide) (hrest c hc).1
  have hgroups : readGroups grammar (limit + 2) false (':' :: (ip4.render ++ rest))
      =
    ([.ofNat (ip4.a.toNat * 256 + ip4.b.toNat), .ofNat (ip4.c.toNat * 256 + ip4.d.toNat)], true, rest) := by
    simp [readGroups, hip4]
  have hfirst := (@Stops.readGroups_succ _ grammar (limit + 2) hstops 0xffff).1
  rw [hgroups] at hfirst
  exact hfirst

theorem read?_render_of_mapped {ip : Ipv6} {ip4 : Ipv4} (h : ip.mapped? = some ip4) (grammar : Grammar)
    (hrest : Stops rest)
    : read? grammar (ip.render ++ rest) = some (ip, rest) := by
  have hrender : ip.render ++ rest = joinGroups [] ++ ':' :: ':' ::
      (hexadecimal 0xffff ++ ':' :: (ip4.render ++ rest)) := by
    unfold render
    rw [h]
    rfl
  rw [hrender]
  exact read?_compressed (groups_eq_of_mapped? h) (by decide : 0 < 5)
    fun limit hlimit => readGroups_dotted hrest ip4 hlimit

theorem read?_render_of_not_mapped {ip : Ipv6} (h : ip.mapped? = none) (grammar : Grammar)
    (hrest : Stops rest) (hcolon : rest.head? ≠ some ':')
    : read? grammar (ip.render ++ rest) = some (ip, rest) := by
  have hends : ∀ u, rest = ':' :: u → u.head? = some ':' := by
    rintro u rfl
    contradiction
  unfold render
  rw [h]
  simp only
  split
  . have hread := @Stops.readGroups_joinGroups rest grammar ip.groups 8 hrest hends
      (Nat.le_of_eq ip.length_groups)
    unfold read?
    simp [hread, ip.length_groups]
  . next hlong =>
    have hzeros : 0 < (longestZeroRun ip.groups).2 := by omega
    have hgroups := List.take_append_drop (longestZeroRun ip.groups).1 ip.groups
    rw [drop_longestZeroRun, ← List.append_assoc] at hgroups
    rw [List.append_assoc, List.cons_append, List.cons_append]
    exact read?_compressed hgroups.symm hzeros
      fun limit hlimit => hrest.readGroups_joinGroups hends hlimit

theorem read?_render (ip : Ipv6) (grammar : Grammar) (hrest : Stops rest) (hcolon : rest.head? ≠ some ':')
    : read? grammar (ip.render ++ rest) = some (ip, rest) := by
  cases h : ip.mapped? with
  | some ip4 => exact read?_render_of_mapped h grammar hrest
  | none => exact read?_render_of_not_mapped h grammar hrest hcolon

theorem ipv4Read?_render (ip : Ipv6) (leadingZeros : Bool) (hrest : Stops rest)
    : Ipv4.read? leadingZeros (ip.render ++ rest) = none := by
  have hcolons : ∀ u : List Char, Stops (':' :: u) := stops_cons (by decide) (by decide)
  have hjoined : ∀ gs : List UInt16, ∀ u, Stops u →
      Ipv4.read? leadingZeros (joinGroups gs ++ u) = none := by
    intro gs u hu
    cases gs with
    | nil => exact hu.ipv4Read? leadingZeros
    | cons g gs =>
      rw [joinGroups_cons, List.append_assoc]
      exact (stops_flatMap hu gs).ipv4Read?_hexadecimal leadingZeros g.toNat
  unfold render
  split
  . exact (hcolons _).ipv4Read? leadingZeros
  . simp only
    split
    . exact hjoined _ _ hrest
    . rw [List.append_assoc]
      exact hjoined _ _ (hcolons _)

theorem parse?_render (ip : Ipv6) : parse? ip.render = some ip := by
  have hread := ip.read?_render .strict stops_nil (by simp)
  rw [List.append_nil] at hread
  rw [parse?, hread]

end Reading

end Ipv6

end SourceCookie
