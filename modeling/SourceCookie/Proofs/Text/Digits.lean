import Mathlib.Data.List.Basic
import Mathlib.Data.List.Induction
import Mathlib.Tactic.IntervalCases
import Mathlib.Tactic.Ring
import SourceCookie.Text.Digits

/-!
Digits that are written and read again, in any base up to 16. A number written in a fixed number of places
is read as digits of that number, and one without leading zeros as digits that start with a zero only if it
is their only one.
-/

namespace SourceCookie.Digits

variable {base n width : Nat} {digits ds : List Nat} {rest : List Char}

section Values

theorem value?_digitChar {d : Nat} (hbase : base ≤ 16) (h : d < base)
    : value? base (Nat.digitChar d) = some d := by
  have hall : ∀ b : Fin 17, ∀ d : Fin 16, d.val < b.val → value? b (Nat.digitChar d) = some d.val := by
    decide
  exact hall ⟨base, by omega⟩ ⟨d, by omega⟩ h

theorem isDigit_digitChar {d : Nat} (h : d < 10) : (Nat.digitChar d).isDigit = true := by
  interval_cases d <;> decide

theorem toNat_append (base : Nat) (ds digits : List Nat)
    : toNat base (ds ++ digits) = base ^ digits.length * toNat base ds + toNat base digits := by
  induction digits using List.reverseRecOn with
  | nil => simp [toNat]
  | append_singleton digits d ih =>
    have hlast : ∀ es : List Nat, toNat base (es ++ [d]) = base * toNat base es + d := by
      intro es
      simp [toNat]
    rw [← List.append_assoc, hlast, hlast, ih, List.length_append, List.length_singleton, Nat.pow_succ]
    ring

theorem toNat_cons (base d : Nat) (digits : List Nat)
    : toNat base (d :: digits) = base ^ digits.length * d + toNat base digits := by
  rw [← List.singleton_append, toNat_append]
  simp [toNat]

theorem toNat_replicate_zero_append (base k : Nat) (digits : List Nat)
    : toNat base (List.replicate k 0 ++ digits) = toNat base digits := by
  induction k with
  | zero => rfl
  | succ k ih => rw [List.replicate_succ, List.cons_append, toNat_cons, ih, Nat.mul_zero, Nat.zero_add]

theorem toNat_lt (h : ∀ d ∈ digits, d < base) : toNat base digits < base ^ digits.length := by
  induction digits with
  | nil => exact Nat.one_pos
  | cons d digits ih =>
    obtain ⟨hd, hdigits⟩ := List.forall_mem_cons.1 h
    have hlt := ih hdigits
    have hle : base ^ digits.length * (d + 1) ≤ base ^ digits.length * base := Nat.mul_le_mul_left _ hd
    rw [toNat_cons, List.length_cons, Nat.pow_succ]
    rw [Nat.mul_succ] at hle
    omega

end Values

section Writing

structure Denote (base n : Nat) (digits : List Nat) : Prop where
  ne_nil : digits ≠ []
  lt : ∀ d ∈ digits, d < base
  leading : digits.head? = some 0 → digits = [0]
  toNat_eq : toNat base digits = n

theorem Denote.append_digit (h : Denote base n digits) (hn : n ≠ 0) {d : Nat} (hd : d < base)
    : Denote base (base * n + d) (digits ++ [d]) := by
  obtain ⟨ne_nil, lt, leading, toNat_eq⟩ := h
  refine ⟨by simp, ?_, ?_, ?_⟩
  . intro e he
    rcases List.mem_append.1 he with he | he
    . exact lt e he
    . rw [List.mem_singleton.1 he]
      exact hd
  . intro hhead
    rw [List.head?_append_of_ne_nil _ ne_nil] at hhead
    rw [leading hhead] at toNat_eq
    exact absurd toNat_eq.symm hn
  . rw [← toNat_eq]
    simp [toNat]

theorem exists_toDigits_eq_map (hbase : 1 < base) (n : Nat)
    : ∃ digits, Nat.toDigits base n = digits.map Nat.digitChar ∧ Denote base n digits := by
  induction n using Nat.strong_induction_on with
  | _ n ih =>
    by_cases hlt : n < base
    . refine ⟨[n], ?_, ?_⟩
      . exact Nat.toDigits_of_lt_base hlt
      . exact ⟨by simp, by simpa using hlt, by simp, by simp [toNat]⟩
    . have hpos : 0 < n / base := Nat.div_pos (Nat.le_of_not_lt hlt) (by omega)
      obtain ⟨digits, hmap, hdigits⟩ := ih (n / base) (Nat.div_lt_self (by omega) hbase)
      refine ⟨digits ++ [n % base], ?_, ?_⟩
      . rw [List.map_append, ← hmap]
        exact Nat.toDigits_of_base_le hbase (Nat.le_of_not_lt hlt)
      . have happend := hdigits.append_digit (by omega) (Nat.mod_lt n (by omega : 0 < base))
        rwa [Nat.div_add_mod] at happend

theorem exists_decimal_eq_map (n : Nat)
    : ∃ digits, decimal n = digits.map Nat.digitChar ∧ Denote 10 n digits :=
  exists_toDigits_eq_map (by decide) n

theorem Denote.length_le (h : Denote base n digits) (hn : n < base ^ width) (hwidth : 0 < width)
    : digits.length ≤ width := by
  obtain ⟨ne_nil, lt, leading, toNat_eq⟩ := h
  cases digits with
  | nil => contradiction
  | cons d digits =>
    by_cases hzero : d = 0
    . rw [leading (by rw [hzero]; rfl)]
      exact hwidth
    . -- the first digit counts for more than a number of `width` digits
      refine Nat.lt_of_not_le fun hlong => ?_
      have hbase : 0 < base := Nat.zero_lt_of_lt (lt d List.mem_cons_self)
      have hpow : base ^ width ≤ base ^ digits.length := Nat.pow_le_pow_right hbase hlong
      have hdigit : base ^ digits.length ≤ base ^ digits.length * d :=
        Nat.le_mul_of_pos_right _ (Nat.pos_of_ne_zero hzero)
      rw [toNat_cons] at toNat_eq
      omega

theorem exists_padded_eq_map (n width : Nat)
    : ∃ digits, padded width (decimal n) = digits.map Nat.digitChar ∧ digits ≠ [] ∧
        (∀ d ∈ digits, d < 10) ∧ toNat 10 digits = n ∧
        (n < 10 ^ width → 0 < width → digits.length = width) := by
  obtain ⟨digits, hmap, hdigits⟩ := exists_decimal_eq_map n
  have hlength : (decimal n).length = digits.length := by rw [hmap, List.length_map]
  refine ⟨List.replicate (width - digits.length) 0 ++ digits, ?_, ?_, ?_, ?_, ?_⟩
  . rw [padded, hlength, hmap, List.map_append, List.map_replicate]
    rfl
  . simp [hdigits.ne_nil]
  . intro d hd
    rcases List.mem_append.1 hd with hd | hd
    . rw [(List.mem_replicate.1 hd).2]
      decide
    . exact hdigits.lt d hd
  . rw [toNat_replicate_zero_append, hdigits.toNat_eq]
  . intro hn hwidth
    have hle := hdigits.length_le hn hwidth
    rw [List.length_append, List.length_replicate]
    omega

end Writing

section Reading

theorem value?_of_head?_cons {c : Char} (h : value? base c = none) (rest : List Char)
    : ∀ d, (c :: rest).head? = some d → value? base d = none := by
  intro d hd
  rw [← Option.some_inj.1 hd]
  exact h

theorem span_map (hbase : base ≤ 16) (hlt : ∀ d ∈ digits, d < base)
    (hrest : ∀ c, rest.head? = some c → value? base c = none)
    : span base (digits.map Nat.digitChar ++ rest) = (digits, rest) := by
  induction digits with
  | nil =>
    cases rest with
    | nil => rfl
    | cons c rest => simp [span, hrest c rfl]
  | cons d digits ih =>
    obtain ⟨hd, hdigits⟩ := List.forall_mem_cons.1 hlt
    simp [span, value?_digitChar hbase hd, ih hdigits]

theorem value?_lt {c : Char} {d : Nat} (h : value? base c = some d) : d < base := by
  unfold value? at h
  grind

theorem lt_of_mem_span {s : List Char} : ∀ d ∈ (span base s).1, d < base := by
  induction s with
  | nil => simp [span]
  | cons c s ih =>
    unfold span
    split
    . next d hd => exact List.forall_mem_cons.2 ⟨value?_lt hd, ih⟩
    . simp

theorem Form.read?_toDigits {form : Form} (hform : 1 < form.base ∧ form.base ≤ 16) (hn : n < form.bound)
    (hwidth : ∀ most, form.maxDigits = some most → 0 < most ∧ n < form.base ^ most)
    (hrest : ∀ c, rest.head? = some c → value? form.base c = none)
    : form.read? (Nat.toDigits form.base n ++ rest) = some (n, rest) := by
  obtain ⟨digits, hmap, h⟩ := exists_toDigits_eq_map hform.1 n
  have haccepts : form.accepts digits = true := by
    have hleading : digits.head? ≠ some 0 ∨ digits.length = 1 := by
      refine Decidable.or_iff_not_imp_left.2 fun hhead => ?_
      rw [h.leading (Decidable.not_not.1 hhead)]
      rfl
    unfold accepts
    rw [h.toNat_eq]
    cases hmost : form.maxDigits with
    | none => simp [h.ne_nil, hn, or_assoc, hleading]
    | some most =>
      obtain ⟨hpos, hlt⟩ := hwidth most hmost
      simp [h.ne_nil, hn, or_assoc, hleading, h.length_le hlt hpos]
  unfold read?
  rw [hmap, span_map hform.2 h.lt hrest]
  simp [haccepts, h.toNat_eq]

theorem Form.eq_span_of_read? {form : Form} {s : List Char} (h : form.read? s = some (n, rest))
    : rest = (span form.base s).2 := by
  unfold read? at h
  simp only at h
  split at h
  . exact (Prod.mk.inj (Option.some_inj.1 h)).2.symm
  . contradiction

theorem Form.lt_bound_of_read? {form : Form} {s : List Char} (h : form.read? s = some (n, rest))
    : n < form.bound := by
  unfold read? at h
  simp only at h
  split at h
  . next haccepts =>
    unfold accepts at haccepts
    rw [← (Prod.mk.inj (Option.some_inj.1 h)).1]
    exact of_decide_eq_true (Bool.and_eq_true_iff.1 haccepts).2
  . contradiction

theorem value?_eq_none_of_le {base' : Nat} {c : Char} (hbase : base ≤ base') (h : value? base' c = none)
    : value? base c = none := by
  unfold value? at h ⊢
  grind

end Reading

end SourceCookie.Digits
