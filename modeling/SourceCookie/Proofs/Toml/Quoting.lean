import Mathlib.Data.List.Infix
import Mathlib.Tactic.IntervalCases
import SourceCookie.Toml.Literal
import SourceCookie.Toml.Render

/-!
Strings that are written are read back. Escapes can hold any text, so the two forms in double quotes fit
every string. The two forms in single quotes hold a text as it is, and fit the strings that do not end them
early; the form that is chosen for a string fits it.
-/

namespace SourceCookie.Toml

variable {c : Char} {s rest text : List Char} {run : Nat}

def Unquoted (rest : List Char) : Prop := ∀ c ∈ rest.head?, c ≠ '\x22' ∧ c ≠ '\x27'

theorem Unquoted.ne_double (h : Unquoted rest) (u : List Char) : rest ≠ '\x22' :: u := by
  rintro rfl
  exact (h '\x22' rfl).1 rfl

theorem Unquoted.ne_single (h : Unquoted rest) (u : List Char) : rest ≠ '\x27' :: u := by
  rintro rfl
  exact (h '\x27' rfl).2 rfl

theorem unquoted_cons (hdouble : c ≠ '\x22') (hsingle : c ≠ '\x27') (rest : List Char)
    : Unquoted (c :: rest) := by
  intro d hd
  obtain rfl : c = d := by simpa using hd
  exact ⟨hdouble, hsingle⟩

theorem isPlain_iff : isPlain c = true ↔ needsEscape c = false ∧ c ≠ '\n' := by
  have hnewline : '\n' < ' ' := by decide
  have htab : '\t' < ' ' := by decide
  have hdelete : ' ' ≤ '\x7f' := by decide
  unfold isPlain needsEscape
  by_cases hlow : c < ' '
  . have hhigh : ¬ ' ' ≤ c := Char.not_le.2 hlow
    have hne : c ≠ '\x7f' := by
      rintro rfl
      exact hhigh hdelete
    by_cases hc : c = '\t'
    . subst hc
      decide
    . by_cases hc' : c = '\n' <;> simp [hlow, hhigh, hne, hc, hc']
  . have hhigh : ' ' ≤ c := Char.not_lt.1 hlow
    have hne : c ≠ '\n' ∧ c ≠ '\t' := by
      constructor
      . rintro rfl
        exact hlow hnewline
      . rintro rfl
        exact hlow htab
    simp [hlow, hhigh, hne]

theorem ne_of_isPlain (h : isPlain c = true) : c ≠ '\n' ∧ c ≠ '\r' := by
  refine ⟨(isPlain_iff.1 h).2, ?_⟩
  rintro rfl
  revert h
  decide

inductive Spelling (c : Char) : List Char → Prop where
  | plain (hplain : isPlain c = true) (hquote : c ≠ '\x22') (hbackslash : c ≠ '\x5c') : Spelling c [c]
  | letter {e : Char} (h : escaped? e = some c) : Spelling c ['\x5c', e]
  | codePoint {p q r t : Char} (h : ofCodePoint? [p, q, r, t] = some c)
    : Spelling c ['\x5c', 'u', p, q, r, t]

theorem ne_of_escaped?_eq_some {e : Char} (h : escaped? e = some c)
    : e ≠ 'u' ∧ e ≠ 'U' ∧ e ≠ ' ' ∧ e ≠ '\t' ∧ e ≠ '\n' ∧ e ≠ '\r' := by
  refine ⟨?_, ?_, ?_, ?_, ?_, ?_⟩
  all_goals
    rintro rfl
    simp [escaped?] at h

theorem spelling_codePointDigits (h : needsEscape c = true)
    : Spelling c ('\x5c' :: 'u' :: codePointDigits c) := by
  have hall : ∀ n : Fin 128, needsEscape (Char.ofNat n) = true →
      (codePointDigits (Char.ofNat n)).length = 4 ∧
        ofCodePoint? (codePointDigits (Char.ofNat n)) = some (Char.ofNat n) := by
    decide +kernel
  have hlt : c.toNat < 128 := by
    unfold needsEscape at h
    simp only [Bool.or_eq_true, Bool.and_eq_true, decide_eq_true_eq, beq_iff_eq] at h
    rcases h with ⟨⟨hlow, _⟩, _⟩ | hdelete
    . have hlow : c.toNat < 32 := hlow
      omega
    . rw [hdelete]
      decide
  have hdigits := hall ⟨c.toNat, hlt⟩
  simp only [Char.ofNat_toNat] at hdigits
  obtain ⟨hlength, hread⟩ := hdigits h
  match codePointDigits c, hlength, hread with
  | [p, q, r, t], _, hread => exact .codePoint hread

theorem spelling_escapeChar {long : Bool} (hquote : c ≠ '\x22') (hline : long = false ∨ c ≠ '\n')
    : Spelling c (escapeChar long c) := by
  unfold escapeChar
  split
  . exact .letter rfl
  . exact .letter rfl
  . simp only [ne_eq, not_true_eq_false, or_false] at hline
    rw [hline]
    exact .letter rfl
  . exact .letter rfl
  . exact .letter rfl
  . exact .letter rfl
  . next hnewline _ _ hbackslash =>
    split
    . next hneeds => exact spelling_codePointDigits hneeds
    . next hneeds =>
      rw [Bool.not_eq_true] at hneeds
      exact .plain (isPlain_iff.2 ⟨hneeds, hnewline⟩) hquote hbackslash

theorem spelling_quote : Spelling '\x22' ['\x5c', '\x22'] := .letter rfl

theorem Spelling.ne_cons (h : Spelling c text) (rest u : List Char)
    : text ++ rest ≠ '\x22' :: u ∧ text ++ rest ≠ '\n' :: u ∧ text ++ rest ≠ '\r' :: u := by
  cases h with
  | plain hplain hquote =>
    refine ⟨?_, ?_, ?_⟩
    . rintro ⟨⟩
      exact hquote rfl
    . rintro ⟨⟩
      exact (ne_of_isPlain hplain).1 rfl
    . rintro ⟨⟩
      exact (ne_of_isPlain hplain).2 rfl
  | letter => simp
  | codePoint => simp

theorem escapeText_ne_cons {long : Bool} (hs : s ≠ [])
    (h : long = false ∨ run = 2 ∨ s.head? ≠ some '\x22') (rest u : List Char)
    : escapeText long run s ++ rest ≠ '\x22' :: u := by
  cases s with
  | nil => contradiction
  | cons c s =>
    rw [escapeText]
    split
    . next hc =>
      subst hc
      rcases h with hlong | hrun | hhead
      . simp [hlong]
      . simp [hrun]
      . simp at hhead
    . next hc =>
      by_cases hline : c = '\n'
      . cases long <;> simp [hline, escapeChar]
      . rw [List.append_assoc]
        exact ((spelling_escapeChar hc (Or.inr hline)).ne_cons _ u).1

section Basic

theorem readBasic?_of_spelling (h : Spelling c text) (rest : List Char)
    : readBasic? (text ++ rest) = consRead (some c) (readBasic? rest) := by
  cases h with
  | plain hplain hquote hbackslash =>
    rw [List.singleton_append, readBasic?]
    . simp [hplain, hbackslash]
    all_goals simp [hquote, hbackslash]
  | letter h =>
    rw [List.cons_append, List.singleton_append, readBasic?, h]
    all_goals simp [ne_of_escaped?_eq_some h]
  | codePoint h =>
    simp only [List.cons_append, List.nil_append]
    rw [readBasic?, h]

theorem readBasic?_escapeText (s rest : List Char) (run : Nat)
    : readBasic? (escapeText false run s ++ '\x22' :: rest) = some (s, rest) := by
  induction s generalizing run with
  | nil =>
    rw [escapeText, List.nil_append, readBasic?]
  | cons c s ih =>
    rw [escapeText]
    split
    . next hc =>
      subst hc
      have hread := readBasic?_of_spelling spelling_quote (escapeText false 0 s ++ '\x22' :: rest)
      rw [ih] at hread
      exact hread
    . next hc =>
      rw [List.append_assoc, readBasic?_of_spelling (spelling_escapeChar hc (Or.inl rfl)), ih]
      rfl

end Basic

section LongBasic

theorem readLongBasic?_of_spelling (h : Spelling c text) (rest : List Char)
    : readLongBasic? .inText (text ++ rest) = consRead (some c) (readLongBasic? .inText rest) := by
  cases h with
  | plain hplain hquote hbackslash =>
    rw [List.singleton_append, readLongBasic?]
    . simp [hplain, hbackslash]
    all_goals simp [hquote, hbackslash, ne_of_isPlain hplain]
  | letter h =>
    rw [List.cons_append, List.singleton_append, readLongBasic?, h]
    all_goals simp [ne_of_escaped?_eq_some h]
  | codePoint h =>
    simp only [List.cons_append, List.nil_append]
    rw [readLongBasic?, h]
    simp

theorem readLongBasic?_close {n : Nat} (h : n ≤ 2) (hrest : Unquoted rest)
    : readLongBasic? .inText (List.replicate n '\x22' ++ ['\x22', '\x22', '\x22'] ++ rest)
        =
      some (List.replicate n '\x22', rest) := by
  interval_cases n
  . show readLongBasic? .inText ('\x22' :: '\x22' :: '\x22' :: rest) = _
    rw [readLongBasic?]
    all_goals simp [hrest.ne_double]
  . show readLongBasic? .inText ('\x22' :: '\x22' :: '\x22' :: '\x22' :: rest) = _
    rw [readLongBasic?]
    all_goals simp [hrest.ne_double]
  . show readLongBasic? .inText ('\x22' :: '\x22' :: '\x22' :: '\x22' :: '\x22' :: rest) = _
    rw [readLongBasic?]
    all_goals simp

theorem readLongBasic?_quote (h : ∀ u, text ≠ '\x22' :: '\x22' :: u)
    : readLongBasic? .inText ('\x22' :: text) = consRead (some '\x22') (readLongBasic? .inText text) := by
  rw [readLongBasic?]
  all_goals simp [h]

theorem escapeText_ne_cons_cons (hrun : run < 2) (hs : ¬ (s = [] ∨ s = ['\x22'] ∧ run = 0))
    (rest u : List Char)
    : escapeText true (run + 1) s ++ rest ≠ '\x22' :: '\x22' :: u := by
  cases s with
  | nil => simp at hs
  | cons c s =>
    by_cases hquote : c = '\x22' ∧ run = 0
    . obtain ⟨rfl, rfl⟩ := hquote
      have hs : s ≠ [] := by simpa using hs
      have hne : escapeText true 2 s ++ rest ≠ '\x22' :: u :=
        escapeText_ne_cons hs (Or.inr (Or.inl rfl)) rest u
      simpa [escapeText] using hne
    . apply escapeText_ne_cons (by simp)
      by_cases hc : c = '\x22'
      . have hzero : run ≠ 0 := by simpa [hc] using hquote
        apply Or.inr
        apply Or.inl
        omega
      . apply Or.inr
        apply Or.inr
        simpa using hc

theorem readLongBasic?_escapeText (s : List Char) (run : Nat) (hrun : run ≤ 2) (hrest : Unquoted rest)
    : readLongBasic? .inText (escapeText true run s ++ ['\x22', '\x22', '\x22'] ++ rest)
        =
      some (s, rest) := by
  -- `run` quotes stand right before the text, and there are never three in a row
  induction s generalizing run with
  | nil => exact readLongBasic?_close (Nat.zero_le 2) hrest
  | cons c s ih =>
    rw [escapeText]
    split
    . next hc =>
      subst hc
      simp only [Bool.true_and, decide_eq_true_eq]
      split
      . next hlt =>
        -- the quotes at the very end are read together with the closing ones
        by_cases hend : s = [] ∨ (s = ['\x22'] ∧ run = 0)
        . rcases hend with rfl | ⟨rfl, rfl⟩
          . exact readLongBasic?_close (n := 1) (by omega) hrest
          . exact readLongBasic?_close (n := 2) (by omega) hrest
        . have hread := readLongBasic?_quote
            (escapeText_ne_cons_cons hlt hend (['\x22', '\x22', '\x22'] ++ rest))
          rw [← List.append_assoc, ih (run + 1) hlt] at hread
          exact hread
      . have hread := readLongBasic?_of_spelling spelling_quote
          (escapeText true 0 s ++ ['\x22', '\x22', '\x22'] ++ rest)
        rw [ih 0 (Nat.zero_le 2)] at hread
        exact hread
    . next hc =>
      by_cases hline : c = '\n'
      . subst hline
        show readLongBasic? .inText ('\n' :: (escapeText true 0 s ++ _ ++ rest)) = _
        rw [readLongBasic?, ih 0 (Nat.zero_le 2)]
        all_goals simp [consRead]
      . rw [List.append_assoc, List.append_assoc, ← List.append_assoc (escapeText true 0 s),
          readLongBasic?_of_spelling (spelling_escapeChar hc (Or.inr hline)), ih 0 (Nat.zero_le 2)]
        rfl

end LongBasic

section Literal

theorem readLiteral?_append (hs : ∀ c ∈ s, isPlain c = true ∧ c ≠ '\x27') (rest : List Char)
    : readLiteral? (s ++ '\x27' :: rest) = some (s, rest) := by
  induction s with
  | nil => rw [List.nil_append, readLiteral?]
  | cons c s ih =>
    obtain ⟨hplain, hquote⟩ := hs c List.mem_cons_self
    rw [List.cons_append, readLiteral?, ih]
    . simp [hplain, consRead]
    . intro c hc
      exact hs c (List.mem_cons_of_mem _ hc)
    . exact hquote

theorem readLongLiteral?_close {n : Nat} (h : n ≤ 2) (hrest : Unquoted rest)
    : readLongLiteral? (List.replicate n '\x27' ++ ['\x27', '\x27', '\x27'] ++ rest)
        =
      some (List.replicate n '\x27', rest) := by
  interval_cases n
  . show readLongLiteral? ('\x27' :: '\x27' :: '\x27' :: rest) = _
    rw [readLongLiteral?]
    all_goals simp [hrest.ne_single]
  . show readLongLiteral? ('\x27' :: '\x27' :: '\x27' :: '\x27' :: rest) = _
    rw [readLongLiteral?]
    all_goals simp [hrest.ne_single]
  . show readLongLiteral? ('\x27' :: '\x27' :: '\x27' :: '\x27' :: '\x27' :: rest) = _
    rw [readLongLiteral?]
    rfl

theorem readLongLiteral?_plain (hplain : isPlain c = true)
    (h : c = '\x27' → ∀ u, text ≠ '\x27' :: '\x27' :: u)
    : readLongLiteral? (c :: text) = consRead (some c) (readLongLiteral? text) := by
  rw [readLongLiteral?]
  . simp [hplain]
  . rintro u hc rfl
    exact h hc _ rfl
  . rintro u hc rfl
    exact h hc _ rfl
  . rintro u hc rfl
    exact h hc _ rfl
  . exact (ne_of_isPlain hplain).1
  . simp [ne_of_isPlain hplain]

theorem readLongLiteral?_append (hs : ∀ c ∈ s, isPlain c = true ∨ c = '\n')
    (hruns : ¬ List.replicate 3 '\x27' <:+: s) (hrest : Unquoted rest)
    : readLongLiteral? (s ++ ['\x27', '\x27', '\x27'] ++ rest) = some (s, rest) := by
  induction s with
  | nil => exact readLongLiteral?_close (Nat.zero_le 2) hrest
  | cons c s ih =>
    by_cases hend : c = '\x27' ∧ (s = [] ∨ s = ['\x27'])
    . obtain ⟨rfl, rfl | rfl⟩ := hend
      . exact readLongLiteral?_close (n := 1) (by omega) hrest
      . exact readLongLiteral?_close (n := 2) (by omega) hrest
    . have hread := ih (fun c hc => hs c (List.mem_cons_of_mem _ hc))
        (fun hrun => hruns (List.infix_cons hrun))
      rw [List.cons_append, List.cons_append]
      rcases hs c List.mem_cons_self with hplain | rfl
      . rw [readLongLiteral?_plain hplain, hread]
        . rfl
        . rintro rfl u hu
          -- two more quotes would make a run of three, or be the last ones of the text
          match s, hend, hruns, hu with
          | [], hend, _, _ => simp at hend
          | [d], hend, _, hu => simp_all
          | d :: d' :: s, _, hruns, hu =>
            simp only [List.cons_append, List.cons.injEq] at hu
            obtain ⟨rfl, rfl, _⟩ := hu
            exact hruns ⟨[], s, rfl⟩
      . rw [readLongLiteral?, hread]
        rfl

end Literal

section LongestRun

def countRun (c : Char) (runs : Nat × Nat) (d : Char) : Nat × Nat :=
  if d = c then (max runs.1 (runs.2 + 1), runs.2 + 1) else (runs.1, 0)

theorem longestRun_eq_foldl : longestRun c s = (s.foldl (countRun c) (0, 0)).1 := rfl

theorem le_foldl_countRun_of_prefix {best n : Nat} (hrun : run ≤ best)
    (h : List.replicate n c <+: s)
    : max best (run + n) ≤ (s.foldl (countRun c) (best, run)).1 := by
  -- a run at the start of the text goes on from the `run` characters before it
  induction s generalizing best run n with
  | nil =>
    obtain rfl : n = 0 := by simpa using h
    simpa using hrun
  | cons d s ih =>
    rw [List.foldl_cons, countRun]
    split
    . show _ ≤ (s.foldl (countRun c) (max best (run + 1), run + 1)).1
      have hbest : run + 1 ≤ max best (run + 1) := Nat.le_max_right best (run + 1)
      cases n with
      | zero =>
        have hle := ih (n := 0) hbest (by simp)
        omega
      | succ n =>
        rw [List.replicate_succ, List.cons_prefix_cons] at h
        have hle := ih hbest h.2
        omega
    . next hd =>
      cases n with
      | zero =>
        have hle := ih (n := 0) (Nat.zero_le best) (by simp)
        simp only [Nat.add_zero] at hle ⊢
        omega
      | succ n =>
        rw [List.replicate_succ, List.cons_prefix_cons] at h
        exact absurd h.1.symm hd

theorem le_foldl_countRun_of_infix {best n : Nat} (hrun : run ≤ best)
    (h : List.replicate n c <:+: s)
    : n ≤ (s.foldl (countRun c) (best, run)).1 := by
  induction s generalizing best run with
  | nil =>
    obtain rfl : n = 0 := by simpa using h
    exact Nat.zero_le _
  | cons d s ih =>
    rcases List.infix_cons_iff.1 h with hprefix | hinfix
    . have hle := le_foldl_countRun_of_prefix hrun hprefix
      omega
    . rw [List.foldl_cons, countRun]
      split
      . exact ih (by simp) hinfix
      . exact ih (by simp) hinfix

theorem le_longestRun {n : Nat} (h : List.replicate n c <:+: s) : n ≤ longestRun c s := by
  rw [longestRun_eq_foldl]
  exact le_foldl_countRun_of_infix (Nat.le_refl 0) h

end LongestRun

section Style

def Style.Fits (s : List Char) : Style → Prop
  | .basic | .longBasic => True
  | .literal => ∀ c ∈ s, isPlain c = true ∧ c ≠ '\x27'
  | .longLiteral => (∀ c ∈ s, isPlain c = true ∨ c = '\n') ∧ ¬ List.replicate 3 '\x27' <:+: s

theorem fits_of_mem_plainStyles {style : Style} (h : style ∈ plainStyles s) : style.Fits s := by
  unfold plainStyles at h
  simp only at h
  split at h
  . contradiction
  . next hescape =>
    have hplain : ∀ c ∈ s, isPlain c = true ∨ c = '\n' := by
      intro c hc
      rw [isPlain_iff]
      by_cases hline : c = '\n'
      . exact Or.inr hline
      . apply Or.inl
        refine ⟨?_, hline⟩
        rw [Bool.not_eq_true, List.any_eq_false] at hescape
        simpa using hescape c hc
    cases style with
    | basic => trivial
    | longBasic => trivial
    | literal =>
      intro c hc
      obtain ⟨hsingles, hline⟩ : longestRun '\x27' s = 0 ∧ '\n' ∉ s := by
        simpa [List.mem_append] using h
      constructor
      . apply (hplain c hc).resolve_right
        rintro rfl
        exact hline hc
      . rintro rfl
        have hle : 1 ≤ longestRun '\x27' s := le_longestRun (n := 1) ((List.singleton_infix_iff _ _).2 hc)
        omega
    | longLiteral =>
      have hsingles : longestRun '\x27' s ≤ 2 := by
        simpa [List.mem_append] using h
      refine ⟨hplain, ?_⟩
      intro hrun
      have := le_longestRun hrun
      omega

theorem fits_styleOf (s : List Char) : (styleOf s).Fits s := by
  unfold styleOf
  cases hstyles : plainStyles s with
  | nil =>
    rw [List.headD_nil]
    split <;> trivial
  | cons style styles =>
    rw [List.headD_cons]
    apply fits_of_mem_plainStyles
    simp [hstyles]

end Style

section Roundtrip

theorem readString?_basic (hrest : Unquoted rest)
    : readString? ('\x22' :: (escapeText false 0 s ++ '\x22' :: rest)) = some (s, rest) := by
  rw [readString?, readBasic?_escapeText]
  intro u hu
  by_cases hs : s = []
  . subst hs
    simp only [escapeText, List.nil_append, List.cons.injEq, true_and] at hu
    exact hrest.ne_double u hu
  . exact escapeText_ne_cons hs (Or.inl rfl) _ _ hu

theorem readString?_literal (hfits : Style.literal.Fits s) (hrest : Unquoted rest)
    : readString? ('\x27' :: (s ++ '\x27' :: rest)) = some (s, rest) := by
  rw [readString?, readLiteral?_append hfits]
  intro u hu
  cases s with
  | nil =>
    simp only [List.nil_append, List.cons.injEq, true_and] at hu
    exact hrest.ne_single u hu
  | cons c s =>
    simp only [List.cons_append, List.cons.injEq] at hu
    exact (hfits c List.mem_cons_self).2 hu.1

theorem skipFirstNewline_eq_self (hnewline : ∀ u, text ≠ '\n' :: u) (hreturn : ∀ u, text ≠ '\r' :: u)
    : skipFirstNewline text = text := by
  unfold skipFirstNewline
  split
  . next u => exact absurd rfl (hnewline u)
  . next u => exact absurd rfl (hreturn _)
  . rfl

theorem skipFirstNewline_start {body : List Char}
    (hfirst : '\n' ∉ s → ∀ u, body ≠ '\n' :: u ∧ body ≠ '\r' :: u)
    : skipFirstNewline ((if s.contains '\n' then ['\n'] else []) ++ body) = body := by
  split
  . rfl
  . next hline =>
    have hline : '\n' ∉ s := by simpa using hline
    exact skipFirstNewline_eq_self (fun u => (hfirst hline u).1) (fun u => (hfirst hline u).2)

theorem escapeText_ne_newline (hline : '\n' ∉ s) (rest u : List Char)
    : escapeText true 0 s ++ '\x22' :: rest ≠ '\n' :: u
        ∧ escapeText true 0 s ++ '\x22' :: rest ≠ '\r' :: u := by
  cases s with
  | nil => simp [escapeText]
  | cons c s =>
    have hc : c ≠ '\n' := by
      rintro rfl
      exact hline List.mem_cons_self
    rw [escapeText]
    split
    . next hquote => simp [hquote]
    . next hquote =>
      rw [List.append_assoc]
      exact ((spelling_escapeChar hquote (Or.inr hc)).ne_cons _ u).2

theorem append_ne_newline (hfits : Style.longLiteral.Fits s) (hline : '\n' ∉ s) (rest u : List Char)
    : s ++ '\x27' :: rest ≠ '\n' :: u ∧ s ++ '\x27' :: rest ≠ '\r' :: u := by
  cases s with
  | nil => simp
  | cons c s =>
    have hplain : isPlain c = true := by
      apply (hfits.1 c List.mem_cons_self).resolve_right
      rintro rfl
      exact hline List.mem_cons_self
    constructor
    . rintro ⟨⟩
      exact (ne_of_isPlain hplain).1 rfl
    . rintro ⟨⟩
      exact (ne_of_isPlain hplain).2 rfl

theorem readString?_renderStringAs {style : Style} (hfits : style.Fits s) (hrest : Unquoted rest)
    : readString? (renderStringAs style s ++ rest) = some (s, rest) := by
  cases style with
  | basic =>
    have hread := readString?_basic (s := s) hrest
    simpa [renderStringAs, Style.quotes, Style.isLong] using hread
  | literal =>
    have hread := readString?_literal hfits hrest
    simpa [renderStringAs, Style.quotes, Style.isLong] using hread
  | longBasic =>
    have hread := readLongBasic?_escapeText s 0 (Nat.zero_le 2) hrest
    have hskip := skipFirstNewline_start (s := s)
      (fun hline u => escapeText_ne_newline hline ('\x22' :: '\x22' :: rest) u)
    simp only [List.append_assoc, List.cons_append, List.nil_append] at hread
    rw [← hskip] at hread
    simpa [renderStringAs, Style.quotes, Style.isLong, readString?] using hread
  | longLiteral =>
    have hread := readLongLiteral?_append hfits.1 hfits.2 hrest
    have hskip := skipFirstNewline_start (s := s)
      (fun hline u => append_ne_newline hfits hline ('\x27' :: '\x27' :: rest) u)
    simp only [List.append_assoc, List.cons_append, List.nil_append] at hread
    rw [← hskip] at hread
    simpa [renderStringAs, Style.quotes, Style.isLong, readString?] using hread

theorem readString?_renderString (s : String) (hrest : Unquoted rest)
    : readString? (renderString s ++ rest) = some (s.toList, rest) :=
  readString?_renderStringAs (fits_styleOf s.toList) hrest

end Roundtrip

end SourceCookie.Toml
