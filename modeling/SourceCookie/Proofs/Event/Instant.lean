import SourceCookie.Event.Instant
import SourceCookie.Proofs.Date
import SourceCookie.Proofs.Text.Digits

/-!
Instants as points of time and as text. The instant that a text denotes is its local time less the offset,
the date carried over where that is needed. An instant that was read is read back from its text.
-/

namespace SourceCookie

namespace Instant

variable {t : Instant} {s rest : List Char} {n : Nat}

structure WellFormed (t : Instant) : Prop where
  date : t.date.isValid = true
  secondOfDay : t.secondOfDay < 86400
  nanosecond : t.nanosecond < 2 * second
  leap : second ≤ t.nanosecond → t.secondOfDay % 60 = 59

section Blanks

theorem blank_digitChar {d : Nat} (h : d < 10) : CharClass.blank.contains (Nat.digitChar d) = false := by
  interval_cases d <;> decide

theorem trimStart_digits {digits : List Nat} (hnil : digits ≠ []) (hlt : ∀ d ∈ digits, d < 10)
    : Blank.trimStart (digits.map Nat.digitChar ++ rest) = digits.map Nat.digitChar ++ rest := by
  obtain ⟨d, digits, rfl⟩ := List.exists_cons_of_ne_nil hnil
  simp [Blank.trimStart, blank_digitChar (hlt d List.mem_cons_self)]

theorem skip?_cons {c : Char} (hblank : CharClass.blank.contains c = false) (s : List Char)
    : skip? c (c :: s) = some s := by
  simp [skip?, Blank.trimStart, hblank]

end Blanks

section Reading

theorem readNumber?_padded {most : Nat} (hmost : 0 < most) (hn : n < 10 ^ most)
    : readNumber? most (Digits.padded most (Digits.decimal n) ++ rest) = some (n, rest) := by
  obtain ⟨digits, hmap, hnil, hlt, htoNat, hlength⟩ := Digits.exists_padded_eq_map n most
  have hlength := hlength hn hmost
  have htake : (digits.map Nat.digitChar ++ rest).take most = digits.map Nat.digitChar ++ [] := by
    rw [List.append_nil]
    exact List.take_left' (by rw [List.length_map, hlength])
  have hdrop : (digits.map Nat.digitChar ++ rest).drop digits.length = rest :=
    List.drop_left' (List.length_map _)
  unfold readNumber?
  simp only [hmap, trimStart_digits hnil hlt, htake]
  rw [Digits.span_map (by decide) hlt (by simp)]
  simp [hnil, htoNat, hdrop]

theorem readField?_padded {first last : Nat} (hfirst : first ≤ n) (hlast : n ≤ last) (hlt : n < 100)
    : readField? first last (Digits.padded 2 (Digits.decimal n) ++ rest) = some (n, rest) := by
  unfold readField?
  rw [readNumber?_padded (by decide) hlt]
  exact if_pos ⟨hfirst, hlast⟩

theorem readYear?_renderYear (year : Int)
    : readYear? (Date.renderYear year ++ '-' :: rest) = some (year, '-' :: rest) := by
  obtain ⟨digits, hmap, hnil, hlt, htoNat, _⟩ := Digits.exists_padded_eq_map year.natAbs 4
  obtain ⟨d, digits, rfl⟩ := List.exists_cons_of_ne_nil hnil
  unfold Date.renderYear
  simp only
  split
  -- four digits without a sign, or a sign and all digits there are
  . next hrange =>
    have hread := @readNumber?_padded ('-' :: rest) year.natAbs 4 (by decide) (by omega)
    have hsign : Nat.digitChar d ≠ '-' ∧ Nat.digitChar d ≠ '+' := by
      have hd := hlt d List.mem_cons_self
      interval_cases d <;> decide
    unfold readYear?
    rw [hmap] at hread ⊢
    rw [trimStart_digits hnil hlt]
    simp only [List.map_cons, List.cons_append] at hread ⊢
    split
    . next heq => exact absurd (List.cons.inj heq).1 hsign.1
    . next heq => exact absurd (List.cons.inj heq).1 hsign.2
    . rw [hread, Option.map_some, Int.natAbs_of_nonneg hrange.1]
  . have hspan : Digits.span 10 ((d :: digits).map Nat.digitChar ++ '-' :: rest)
        =
      (d :: digits, '-' :: rest) :=
      Digits.span_map (by decide) hlt (Digits.value?_of_head?_cons (by decide) rest)
    rw [hmap, List.cons_append]
    rw [List.map_cons, List.cons_append] at hspan ⊢
    have hminus : CharClass.blank.contains '-' = false := by decide
    have hplus : CharClass.blank.contains '+' = false := by decide
    split
    . next hneg =>
      simp [readYear?, Blank.trimStart, hminus, hspan, htoNat, -Nat.cast_natAbs]
      omega
    . next hpos =>
      simp [readYear?, Blank.trimStart, hplus, hspan, htoNat, -Nat.cast_natAbs]
      omega

theorem readDate?_render {d : Date} (h : d.isValid = true)
    : readDate? (d.render ++ 'T' :: rest) = some (d, 'T' :: rest) := by
  obtain ⟨_, hmonth, hmonth', hday, hday'⟩ := Date.isValid_iff.1 h
  have hlong := Date.daysInMonth_le d.year d.month
  unfold readDate? Date.render
  simp only [List.append_assoc, List.cons_append, readYear?_renderYear, Option.bind_eq_bind,
    Option.bind_some, skip?_cons (by decide : CharClass.blank.contains '-' = false)]
  rw [readField?_padded hmonth hmonth' (by omega)]
  simp only [Option.bind_some, skip?_cons (by decide : CharClass.blank.contains '-' = false)]
  rw [readField?_padded hday (by omega) (by omega)]
  rfl

theorem readFraction?_padded {width : Nat} (hwidth : 0 < width) (hwidth' : width ≤ 9) (hn : n < 10 ^ width)
    : readFraction? ('.' :: (Digits.padded width (Digits.decimal n) ++ ['Z']))
        =
      some (n * Nat.pow 10 (9 - width), ['Z']) := by
  obtain ⟨digits, hmap, hnil, hlt, htoNat, hlength⟩ := Digits.exists_padded_eq_map n width
  have hlength := hlength hn hwidth
  have hspan : Digits.span 10 (digits.map Nat.digitChar ++ ['Z']) = (digits, ['Z']) :=
    Digits.span_map (by decide) hlt (Digits.value?_of_head?_cons (by decide) [])
  obtain ⟨d, digits, rfl⟩ := List.exists_cons_of_ne_nil hnil
  have hnine : (d :: digits).take 9 = d :: digits := List.take_of_length_le (by omega)
  unfold readFraction?
  simp only [hmap, hspan, hnine, htoNat, hlength]

theorem readFraction?_renderFraction (hn : n < second)
    : readFraction? (renderFraction n ++ ['Z']) = some (n, ['Z']) := by
  unfold second at hn
  unfold renderFraction
  split
  . next hzero =>
    rw [hzero]
    rfl
  . split
    . rw [List.cons_append, readFraction?_padded (by decide) (by decide) (by omega), Option.some_inj,
        Prod.mk.injEq]
      refine ⟨?_, rfl⟩
      show n / 1000000 * 1000000 = n
      omega
    . split
      . rw [List.cons_append, readFraction?_padded (by decide) (by decide) (by omega), Option.some_inj,
          Prod.mk.injEq]
        refine ⟨?_, rfl⟩
        show n / 1000 * 1000 = n
        omega
      . rw [List.cons_append, readFraction?_padded (by decide) (by decide) (by omega)]
        simp

theorem readTime?_render (h : t.WellFormed)
    : readTime? (Digits.padded 2 (Digits.decimal (t.secondOfDay / 3600)) ++
        ':' :: (Digits.padded 2 (Digits.decimal (t.secondOfDay / 60 % 60)) ++
        ':' :: (Digits.padded 2 (Digits.decimal (t.secondOfDay % 60 + t.nanosecond / second)) ++
        (renderFraction (t.nanosecond % second) ++ ['Z']))))
        =
      some ((t.secondOfDay, t.nanosecond), ['Z']) := by
  obtain ⟨_, hday, hnano, hleap⟩ := h
  have hfraction : t.nanosecond % second < second := Nat.mod_lt _ (by decide)
  unfold second at hnano hleap hfraction ⊢
  have hsecond : t.secondOfDay % 60 + t.nanosecond / 1000000000 ≤ 60 := by omega
  have hcolon : CharClass.blank.contains ':' = false := by decide
  unfold readTime?
  simp only [Option.bind_eq_bind]
  rw [readField?_padded (Nat.zero_le _) (by omega) (by omega)]
  simp only [Option.bind_some, skip?_cons hcolon]
  rw [readField?_padded (Nat.zero_le _) (by omega) (by omega)]
  simp only [Option.bind_some, skip?_cons hcolon]
  rw [readField?_padded (Nat.zero_le _) hsecond (by omega)]
  simp only [Option.bind_some, readFraction?_renderFraction hfraction, Option.pure_def, Option.some_inj,
    Prod.mk.injEq, and_true]
  unfold second
  -- a leap second is written as second 60, and read as a second that lasts longer
  by_cases hlong : 1000000000 ≤ t.nanosecond
  . have hlast := hleap hlong
    rw [if_pos (by omega)]
    omega
  . rw [if_neg (by omega)]
    omega

end Reading

structure Local where
  date : Date
  secondOfDay : Nat
  nanosecond : Nat
  offset : Int

def skipSeparator? : List Char → Option (List Char)
  | 'T' :: s | 't' :: s | ' ' :: s => some s
  | _ => none

def readLocal? (s : List Char) : Option Local := do
  let (date, s) ← readDate? s
  let s ← skipSeparator? s
  let ((secondOfDay, nanosecond), s) ← readTime? s
  let (offset, s) ← readOffset? s
  guard (Blank.trimStart s = [] ∧ date.isValid ∧ offset.natAbs < 86400)
  return ⟨date, secondOfDay, nanosecond, offset⟩

/-- The seconds from the day before the beginning of year 0, leap seconds not counted. -/
def seconds (t : Instant) : Int :=
  86400 * t.date.number + t.secondOfDay

def Local.seconds (l : Local) : Int :=
  86400 * l.date.number + l.secondOfDay - l.offset

structure Local.WellFormed (l : Local) : Prop where
  date : l.date.isValid = true
  secondOfDay : l.secondOfDay < 86400
  nanosecond : l.nanosecond < 2 * second
  leap : second ≤ l.nanosecond → l.secondOfDay % 60 = 59
  offset : l.offset.natAbs < 86400
  minutes : l.offset % 60 = 0

section Locals

variable {l : Local}

theorem parse?_eq_bind (s : List Char)
    : parse? s = (readLocal? s).bind fun l => ofLocal? l.date l.secondOfDay l.nanosecond l.offset := by
  unfold parse? readLocal?
  simp only [Option.bind_eq_bind, Option.bind_assoc]
  refine congrArg _ (funext fun ⟨date, s⟩ => ?_)
  unfold skipSeparator?
  simp only
  split
  all_goals simp

theorem readField?_le {first last : Nat} (h : readField? first last s = some (n, rest))
    : first ≤ n ∧ n ≤ last := by
  unfold readField? at h
  split at h
  . split at h
    . next hrange =>
      rw [← (Prod.mk.inj (Option.some_inj.1 h)).1]
      exact hrange
    . contradiction
  . contradiction

theorem readFraction?_lt (h : readFraction? s = some (n, rest)) : n < second := by
  unfold readFraction? at h
  split at h
  . next s =>
    split at h
    . contradiction
    . next digits after _ heq =>
      have hlt : ∀ d ∈ digits.take 9, d < 10 := by
        intro d hd
        apply Digits.lt_of_mem_span
        rw [heq]
        exact List.mem_of_mem_take hd
      have htoNat := Digits.toNat_lt hlt
      have hnine : (digits.take 9).length ≤ 9 := List.length_take_le 9 digits
      have hpow : 10 ^ (digits.take 9).length * 10 ^ (9 - (digits.take 9).length) = 10 ^ 9 := by
        rw [← Nat.pow_add, Nat.add_sub_cancel' hnine]
      rw [← (Prod.mk.inj (Option.some_inj.1 h)).1]
      calc Digits.toNat 10 (digits.take 9) * 10 ^ (9 - (digits.take 9).length)
          < 10 ^ (digits.take 9).length * 10 ^ (9 - (digits.take 9).length) :=
            Nat.mul_lt_mul_of_pos_right htoNat (Nat.pow_pos (by decide))
        _ = second := hpow
  . rw [← (Prod.mk.inj (Option.some_inj.1 h)).1]
    decide

theorem readTime?_ranges {secondOfDay nanosecond : Nat}
    (h : readTime? s = some ((secondOfDay, nanosecond), rest))
    : secondOfDay < 86400 ∧ nanosecond < 2 * second ∧ (second ≤ nanosecond → secondOfDay % 60 = 59) := by
  unfold readTime? at h
  simp only [Option.bind_eq_bind, Option.bind_eq_some_iff, Option.pure_def, Option.some_inj,
    Prod.mk.injEq] at h
  obtain ⟨⟨hour, _⟩, hhour, _, _, ⟨minute, _⟩, hminute, _, _, ⟨sec, _⟩, hsec, ⟨nanos, _⟩, hnanos,
    ⟨rfl, rfl⟩, _⟩ := h
  have hhour := (readField?_le hhour).2
  have hminute := (readField?_le hminute).2
  have hsec := (readField?_le hsec).2
  have hnanos := readFraction?_lt hnanos
  unfold second at hnanos ⊢
  simp only
  split
  . omega
  . omega

theorem readOffsetDigits?_mod (h : readOffsetDigits? s = some (n, rest)) : n % 60 = 0 := by
  unfold readOffsetDigits? at h
  split at h
  . simp only [Option.bind_eq_bind, Option.bind_eq_some_iff] at h
    obtain ⟨h1, _, h0, _, h⟩ := h
    split at h
    . simp only [Option.bind_eq_some_iff, Option.pure_def, Option.some_inj, Prod.mk.injEq] at h
      obtain ⟨m1, _, m0, _, rfl, _⟩ := h
      omega
    . contradiction
  . contradiction

theorem readOffset?_mod {offset : Int} (h : readOffset? s = some (offset, rest)) : offset % 60 = 0 := by
  have hsigned : ∀ {s : List Char} {f : Nat → Int}, (∀ n, f n % 60 = n % 60 ∨ f n % 60 = -n % 60) →
      (readOffsetDigits? s).map (fun x => (f x.1, x.2)) = some (offset, rest) → offset % 60 = 0 := by
    intro s f hf h
    obtain ⟨⟨n, _⟩, hn, heq⟩ := Option.map_eq_some_iff.1 h
    have hmod := readOffsetDigits?_mod hn
    have hf := hf n
    rw [← (Prod.mk.inj heq).1]
    simp only
    omega
  unfold readOffset? at h
  split at h
  . cases h
    rfl
  . cases h
    rfl
  . exact hsigned (fun n => .inl rfl) h
  . exact hsigned (fun n => .inr rfl) h
  . exact hsigned (fun n => .inr rfl) h
  . split at h
    . cases h
      rfl
    . contradiction
  . contradiction

theorem Local.WellFormed.instant (h : l.WellFormed) {date : Date} {secondOfDay : Int}
    (hdate : date.isValid = true) (hfirst : 0 ≤ secondOfDay) (hlast : secondOfDay < 86400)
    (hseconds : 86400 * date.number + secondOfDay = l.seconds)
    : (⟨date, secondOfDay.toNat, l.nanosecond⟩ : Instant).WellFormed ∧
        (⟨date, secondOfDay.toNat, l.nanosecond⟩ : Instant).seconds = l.seconds := by
  obtain ⟨_, _, hnano, hleap, _, hminutes⟩ := h
  unfold Instant.seconds
  rw [← hseconds]
  unfold Local.seconds at hseconds
  refine ⟨⟨hdate, ?_, hnano, fun hlong => ?_⟩, ?_⟩
  all_goals simp only
  . omega
  -- offsets are whole minutes, so the last second of a minute stays the last one
  . have hminute := hleap hlong
    omega
  . omega

theorem Local.WellFormed.ofLocal? (h : l.WellFormed)
    (ht : Instant.ofLocal? l.date l.secondOfDay l.nanosecond l.offset = some t)
    : t.WellFormed ∧ t.seconds = l.seconds ∧ t.nanosecond = l.nanosecond := by
  have hday := h.secondOfDay
  have hoffset := h.offset
  have hseconds : l.seconds = 86400 * l.date.number + (l.secondOfDay - l.offset) := Int.add_sub_assoc ..
  unfold Instant.ofLocal? at ht
  simp only [Option.ite_none_right_eq_some, Option.some_inj] at ht
  obtain ⟨hyear, rfl⟩ := ht
  -- the offset leads to the day before, to the day after, or to neither
  by_cases hbefore : (l.secondOfDay : Int) - l.offset < 0
  . have hnumber := Date.number_previous h.date
    simp only [if_pos hbefore] at hyear ⊢
    have hinstant := h.instant (Date.isValid_previous h.date hyear)
      (by omega : 0 ≤ (l.secondOfDay : Int) - l.offset + 86400) (by omega) (by omega)
    exact ⟨hinstant.1, hinstant.2, trivial⟩
  . by_cases hafter : 86400 ≤ (l.secondOfDay : Int) - l.offset
    . have hnumber := Date.number_next h.date
      simp only [if_neg hbefore, if_pos hafter] at hyear ⊢
      have hinstant := h.instant (Date.isValid_next h.date hyear)
        (by omega : 0 ≤ (l.secondOfDay : Int) - l.offset - 86400) (by omega) (by omega)
      exact ⟨hinstant.1, hinstant.2, trivial⟩
    . simp only [if_neg hbefore, if_neg hafter]
      have hinstant := h.instant h.date (Int.not_lt.1 hbefore) (Int.not_le.1 hafter) hseconds.symm
      exact ⟨hinstant.1, hinstant.2, trivial⟩

theorem wellFormed_of_readLocal? (h : readLocal? s = some l) : l.WellFormed := by
  unfold readLocal? at h
  simp only [Option.bind_eq_bind, Option.bind_eq_some_iff, Option.pure_def] at h
  obtain ⟨_, _, _, _, _, htime, _, hoffset, _, hguard, h⟩ := h
  obtain ⟨_, hdate, hday⟩ := (Option.guard_eq_some' _).1 hguard
  obtain ⟨hsecond, hnano, hleap⟩ := readTime?_ranges htime
  cases h
  exact ⟨hdate, hsecond, hnano, hleap, hday, readOffset?_mod hoffset⟩

theorem readLocal?_render (h : t.WellFormed)
    : readLocal? t.render = some ⟨t.date, t.secondOfDay, t.nanosecond, 0⟩ := by
  have hzone : readOffset? ['Z'] = some (0, []) := rfl
  have hguard : (guard (Blank.trimStart [] = [] ∧ t.date.isValid ∧ (0 : Int).natAbs < 86400) : Option Unit)
      =
    some () := (Option.guard_eq_some' ()).2 ⟨rfl, h.date, by decide⟩
  unfold readLocal? render
  simp only [List.append_assoc, List.cons_append]
  rw [readDate?_render h.date]
  simp only [Option.bind_eq_bind, Option.bind_some, skipSeparator?]
  rw [readTime?_render h]
  simp only [Option.bind_some, hzone, hguard, Option.pure_def]

theorem ofLocal?_zero (h : t.WellFormed) : ofLocal? t.date t.secondOfDay t.nanosecond 0 = some t := by
  obtain ⟨hyear, _⟩ := Date.isValid_iff.1 h.date
  have hday := h.secondOfDay
  have hbefore : ¬(t.secondOfDay : Int) < 0 := by omega
  have hafter : ¬86400 ≤ (t.secondOfDay : Int) := by omega
  unfold ofLocal?
  simp only [Int.sub_zero, if_neg hbefore, if_neg hafter, if_pos hyear, Int.toNat_natCast]

theorem exists_local_of_parse? (h : parse? s = some t)
    : ∃ l, readLocal? s = some l ∧ t.WellFormed ∧ t.seconds = l.seconds ∧ t.nanosecond = l.nanosecond := by
  rw [parse?_eq_bind, Option.bind_eq_some_iff] at h
  obtain ⟨l, hl, ht⟩ := h
  exact ⟨l, hl, (wellFormed_of_readLocal? hl).ofLocal? ht⟩

theorem parse?_render (h : t.WellFormed) : parse? t.render = some t := by
  rw [parse?_eq_bind, readLocal?_render h, Option.bind_some, ofLocal?_zero h]

theorem WellFormed.eq_of_seconds_eq {t' : Instant} (h : t.WellFormed) (h' : t'.WellFormed)
    (hseconds : t.seconds = t'.seconds) (hnano : t.nanosecond = t'.nanosecond)
    : t = t' := by
  have hday := h.secondOfDay
  have hday' := h'.secondOfDay
  unfold seconds at hseconds
  have hdate := Date.eq_of_number_eq h.date h'.date (by omega)
  rw [hdate] at hseconds
  obtain ⟨date, secondOfDay, nanosecond⟩ := t
  obtain ⟨date', secondOfDay', nanosecond'⟩ := t'
  simp only at hdate hnano hseconds
  rw [hdate, hnano, show secondOfDay = secondOfDay' by omega]

end Locals

end Instant

end SourceCookie
