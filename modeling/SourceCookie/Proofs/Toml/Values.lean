import SourceCookie.Proofs.Text.Digits
import SourceCookie.Proofs.Toml.Quoting
import SourceCookie.Toml.Statement

/-!
Values that are written are read back: natural numbers that have room in an integer, truth values,
strings, and arrays of strings. None of them is taken for a value of another type.
-/

namespace SourceCookie

namespace Toml

variable {rest text : List Char} {digits : List Nat} {n depth : Nat}

theorem ne_of_isDigit {c e : Char} (hc : c.isDigit = true) (he : e.isDigit = false) : c ≠ e := by
  rintro rfl
  rw [hc] at he
  contradiction

section Numbers

theorem value?_ne_none_of_mapM {base : Nat} {s : List Char} {values : List Nat}
    (hvalues : s.mapM (Digits.value? base) = some values)
    : ∀ c ∈ s, Digits.value? base c ≠ none := by
  induction s generalizing values with
  | nil => simp
  | cons c s ih =>
    rw [List.mapM_cons] at hvalues
    cases hc : Digits.value? base c with
    | none => simp [hc] at hvalues
    | some d =>
      cases hs : s.mapM (Digits.value? base) with
      | none => simp [hc, hs] at hvalues
      | some ds =>
        intro e he
        rcases List.mem_cons.1 he with rfl | he
        . simp [hc]
        . exact ih hs e he

theorem eq_drop_of_readFixed? {width : Nat} {after : List Char}
    (hread : readFixed? width (text ++ '\n' :: rest) = some (n, after))
    : after = text.drop width ++ '\n' :: rest := by
  unfold readFixed? at hread
  split at hread
  . next values hvalues =>
    split at hread
    . simp only [Option.some.injEq, Prod.mk.injEq] at hread
      rw [← hread.2]
      by_cases hwidth : width ≤ text.length
      . exact List.drop_append_of_le_length hwidth
      . -- the newline would be among the characters that have a value
        have hmem : '\n' ∈ (text ++ '\n' :: rest).take width := by
          obtain ⟨k, hk⟩ : ∃ k, width - text.length = k + 1 := ⟨width - text.length - 1, by omega⟩
          simp [List.take_append, hk]
        exact absurd (by decide) (value?_ne_none_of_mapM hvalues _ hmem)
    . contradiction
  . contradiction

theorem skip?_eq_none {c : Char} (htext : ∀ d ∈ text, d.isDigit = true) (hc : c.isDigit = false)
    (hnewline : c ≠ '\n')
    : skip? c (text ++ '\n' :: rest) = none := by
  cases text with
  | nil => simp [skip?, hnewline.symm]
  | cons d text =>
    have hd := ne_of_isDigit (htext d List.mem_cons_self) hc
    simp [skip?, hd]

theorem readDatetime?_eq_none (htext : ∀ d ∈ text, d.isDigit = true)
    : readDatetime? (text ++ '\n' :: rest) = none := by
  have hdrop : ∀ width, ∀ d ∈ text.drop width, d.isDigit = true :=
    fun width d hd => htext d (List.mem_of_mem_drop hd)
  have hdate : readDate? (text ++ '\n' :: rest) = none := by
    unfold readDate?
    cases hread : readFixed? 4 (text ++ '\n' :: rest) with
    | none => rfl
    | some read =>
      obtain ⟨year, after⟩ := read
      rw [eq_drop_of_readFixed? hread]
      simp [skip?_eq_none (c := '-') (hdrop 4) (by decide) (by decide)]
  have htime : readTime? (text ++ '\n' :: rest) = none := by
    unfold readTime? readTwo?
    cases hread : readFixed? 2 (text ++ '\n' :: rest) with
    | none => rfl
    | some read =>
      obtain ⟨hour, after⟩ := read
      rw [eq_drop_of_readFixed? hread]
      by_cases hhour : hour ≤ 23
      . simp [hhour, skip?_eq_none (c := ':') (hdrop 2) (by decide) (by decide)]
      . simp [hhour]
  simp [readDatetime?, hdate, htime]

theorem isDigit_of_mem_map (hlt : ∀ d ∈ digits, d < 10)
    : ∀ c ∈ digits.map Nat.digitChar, c.isDigit = true := by
  intro c hc
  obtain ⟨d, hd, rfl⟩ := List.mem_map.1 hc
  exact Digits.isDigit_digitChar (hlt d hd)

theorem digitsTail_map (hlt : ∀ d ∈ digits, d < 10)
    : digitsTail 10 (digits.map Nat.digitChar ++ '\n' :: rest) = (digits, '\n' :: rest) := by
  induction digits with
  | nil =>
    have hnewline : Digits.value? 10 '\n' = none := by decide
    rw [List.map_nil, List.nil_append, digitsTail]
    . simp [hnewline]
    . simp
  | cons d digits ih =>
    obtain ⟨hd, hdigits⟩ := List.forall_mem_cons.1 hlt
    have hne : Nat.digitChar d ≠ '_' := ne_of_isDigit (Digits.isDigit_digitChar hd) (by decide)
    rw [List.map_cons, List.cons_append, digitsTail]
    . simp [Digits.value?_digitChar (by decide) hd, ih hdigits]
    . simp [hne]

theorem readNatural?_map (h : Digits.Denote 10 n digits)
    : readNatural? (digits.map Nat.digitChar ++ '\n' :: rest) = some (digits, '\n' :: rest) := by
  obtain ⟨hnil, hlt, hleading, -⟩ := h
  cases digits with
  | nil => contradiction
  | cons d digits =>
    obtain ⟨hd, hdigits⟩ := List.forall_mem_cons.1 hlt
    by_cases hzero : d = 0
    . subst hzero
      obtain rfl : digits = [] := by simpa using hleading rfl
      rfl
    . have hne : Nat.digitChar d ≠ '0' := by
        interval_cases d <;> simp_all
      rw [List.map_cons, List.cons_append, readNatural?]
      . simp [readDigits?, Digits.value?_digitChar (by decide) hd, digitsTail_map hdigits]
      . simp [hne]

theorem map_append_ne_cons {c : Char} (h : Digits.Denote 10 n digits) (hc : c.isDigit = false)
    (u : List Char)
    : digits.map Nat.digitChar ++ '\n' :: rest ≠ c :: u := by
  obtain ⟨d, digits, rfl⟩ := List.exists_cons_of_ne_nil h.ne_nil
  have hdigit := Digits.isDigit_digitChar (h.lt d List.mem_cons_self)
  intro heq
  exact ne_of_isDigit hdigit hc (List.cons.inj heq).1

theorem readSign_map (h : Digits.Denote 10 n digits)
    : readSign (digits.map Nat.digitChar ++ '\n' :: rest)
        =
      (false, digits.map Nat.digitChar ++ '\n' :: rest) := by
  rw [readSign]
  . intro u
    exact map_append_ne_cons h (by decide) u
  . intro u
    exact map_append_ne_cons h (by decide) u

theorem readDecimal?_map (h : Digits.Denote 10 n digits)
    : readDecimal? (digits.map Nat.digitChar ++ '\n' :: rest) = none := by
  simp [readDecimal?, readSign_map h, readNatural?_map h, readPower?]

theorem readNamed?_map (h : Digits.Denote 10 n digits)
    : readNamed? (digits.map Nat.digitChar ++ '\n' :: rest) = none := by
  unfold readNamed?
  rw [readSign_map h]
  split
  . next heq => exact absurd (Prod.mk.inj heq).2 (map_append_ne_cons h (by decide) _)
  . next heq => exact absurd (Prod.mk.inj heq).2 (map_append_ne_cons h (by decide) _)
  . rfl

theorem map_append_ne_cons_cons {c : Char} (h : Digits.Denote 10 n digits) (hc : c.isDigit = false)
    (hnewline : c ≠ '\n') (first : Char) (u : List Char)
    : digits.map Nat.digitChar ++ '\n' :: rest ≠ first :: c :: u := by
  intro heq
  match digits, h with
  | [], h => exact h.ne_nil rfl
  | [d], _ => exact hnewline (List.cons.inj (List.cons.inj heq).2).1.symm
  | d :: e :: digits, h =>
    have hdigit := Digits.isDigit_digitChar (h.lt e (by simp))
    exact ne_of_isDigit hdigit hc (List.cons.inj (List.cons.inj heq).2).1

theorem readInteger?_map (h : Digits.Denote 10 n digits) (hn : n < Nat.pow 2 63)
    : readInteger? (digits.map Nat.digitChar ++ '\n' :: rest) = some (.integer n, '\n' :: rest) := by
  unfold readInteger?
  split
  . next heq => exact absurd heq (map_append_ne_cons_cons h (by decide) (by decide) _ _)
  . next heq => exact absurd heq (map_append_ne_cons_cons h (by decide) (by decide) _ _)
  . next heq => exact absurd heq (map_append_ne_cons_cons h (by decide) (by decide) _ _)
  . simp [readSign_map h, readNatural?_map h, h.toNat_eq, integer?, hn]

theorem readScalar?_decimal (hn : n < Nat.pow 2 63)
    : readScalar? (Digits.decimal n ++ '\n' :: rest) = some (.integer n, '\n' :: rest) := by
  obtain ⟨digits, hmap, h⟩ := Digits.exists_decimal_eq_map n
  rw [hmap]
  unfold readScalar?
  split
  . next heq => exact absurd heq (map_append_ne_cons h (by decide) _)
  . next heq => exact absurd heq (map_append_ne_cons h (by decide) _)
  . next heq => exact absurd heq (map_append_ne_cons h (by decide) _)
  . next heq => exact absurd heq (map_append_ne_cons h (by decide) _)
  . simp [readDatetime?_eq_none (isDigit_of_mem_map h.lt), readDecimal?_map h, readNamed?_map h,
      readInteger?_map h hn]

end Numbers

theorem readValue?_eq_readScalar? (harray : ∀ u, text ≠ '[' :: u) (htable : ∀ u, text ≠ '\x7b' :: u)
    : readValue? depth text = readScalar? text := by
  cases depth with
  | zero => rw [readValue?]
  | succ depth =>
    rw [readValue?]
    . exact harray
    . exact htable

theorem readValue?_decimal (hn : n < Nat.pow 2 63)
    : readValue? depth (Digits.decimal n ++ '\n' :: rest) = some (.integer n, '\n' :: rest) := by
  rw [readValue?_eq_readScalar?, readScalar?_decimal hn]
  all_goals
    obtain ⟨digits, hmap, h⟩ := Digits.exists_decimal_eq_map n
    rw [hmap]
    exact map_append_ne_cons h (by decide)

theorem readValue?_renderBool (b : Bool)
    : readValue? depth (renderBool b ++ rest) = some (.boolean b, rest) := by
  cases b
  . show readValue? depth ('f' :: 'a' :: 'l' :: 's' :: 'e' :: rest) = _
    rw [readValue?_eq_readScalar?]
    . rfl
    all_goals simp
  . show readValue? depth ('t' :: 'r' :: 'u' :: 'e' :: rest) = _
    rw [readValue?_eq_readScalar?]
    . rfl
    all_goals simp

theorem renderString_eq_cons (s : String)
    : ∃ quote body, renderString s = quote :: body ∧ (quote = '\x22' ∨ quote = '\x27') := by
  unfold renderString renderStringAs
  cases styleOf s.toList <;> simp [Style.quotes]

theorem renderString_append_ne_cons {s : String} {c : Char} (hdouble : c ≠ '\x22') (hsingle : c ≠ '\x27')
    (rest u : List Char)
    : renderString s ++ rest ≠ c :: u := by
  obtain ⟨quote, body, htext, hquote⟩ := renderString_eq_cons s
  rw [htext]
  rintro ⟨⟩
  rcases hquote with hquote | hquote
  . exact hdouble hquote
  . exact hsingle hquote

theorem readScalar?_renderString (s : String) (hrest : Unquoted rest)
    : readScalar? (renderString s ++ rest) = some (.string s, rest) := by
  have hread := readString?_renderString s hrest
  obtain ⟨quote, body, htext, hquote⟩ := renderString_eq_cons s
  rw [htext, List.cons_append] at hread ⊢
  rcases hquote with rfl | rfl
  . rw [readScalar?, hread]
    simp
  . rw [readScalar?, hread]
    simp

theorem readValue?_renderString (s : String) (hrest : Unquoted rest)
    : readValue? depth (renderString s ++ rest) = some (.string s, rest) := by
  rw [readValue?_eq_readScalar?, readScalar?_renderString s hrest]
  . exact renderString_append_ne_cons (by decide) (by decide) rest
  . exact renderString_append_ne_cons (by decide) (by decide) rest

section Gaps

def Solid (text : List Char) : Prop :=
  ∃ c u, text = c :: u ∧ isSpace c = false ∧ c ≠ '#' ∧ c ≠ '\n' ∧ c ≠ '\r'

theorem solid_cons {c : Char} (hspace : isSpace c = false) (hc : c ≠ '#' ∧ c ≠ '\n' ∧ c ≠ '\r')
    (rest : List Char)
    : Solid (c :: rest) :=
  ⟨c, rest, rfl, hspace, hc⟩

theorem Solid.append (h : Solid text) (rest : List Char) : Solid (text ++ rest) := by
  obtain ⟨c, u, rfl, hc⟩ := h
  exact ⟨c, u ++ rest, rfl, hc⟩

theorem solid_renderString (s : String) : Solid (renderString s) := by
  obtain ⟨quote, body, htext, hquote⟩ := renderString_eq_cons s
  refine ⟨quote, body, htext, ?_⟩
  rcases hquote with rfl | rfl <;> decide

theorem Solid.skipSpaces_append (h : Solid text) (spaces : List Char)
    (hspaces : spaces.all isSpace = true)
    : skipSpaces (spaces ++ text) = text := by
  obtain ⟨c, u, rfl, hspace, -⟩ := h
  rw [skipSpaces, List.dropWhile_append_of_pos (List.all_eq_true.1 hspaces),
    List.dropWhile_cons_of_neg (by simp [hspace])]

theorem Solid.skipSpaces_eq (h : Solid text) : skipSpaces text = text :=
  h.skipSpaces_append [] rfl

theorem Solid.skipComment_eq (h : Solid text) : skipComment text = text := by
  obtain ⟨c, u, rfl, -, hcomment, -⟩ := h
  simp [skipComment, hcomment]

theorem Solid.readNewline?_eq (h : Solid text) : readNewline? text = none := by
  obtain ⟨c, u, rfl, -, -, hnewline, hreturn⟩ := h
  simp [readNewline?, hnewline, hreturn]

theorem Solid.skipGaps_append (h : Solid text) (fuel : Nat) (spaces : List Char)
    (hspaces : spaces.all isSpace = true)
    : skipGaps (fuel + 1) (spaces ++ text) = text := by
  rw [skipGaps, h.skipSpaces_append spaces hspaces, h.skipComment_eq, h.readNewline?_eq]

theorem Solid.skipGaps_eq (h : Solid text) (fuel : Nat) : skipGaps fuel text = text := by
  cases fuel with
  | zero => rw [skipGaps]
  | succ fuel => exact h.skipGaps_append fuel [] rfl

theorem skipGaps_newline (fuel : Nat) : skipGaps (fuel + 1) ('\n' :: text) = skipGaps fuel text := by
  rw [skipGaps]
  rfl

end Gaps

section Arrays

variable {s : String} {items : List String} {fuel : Nat}

def itemLines (items : List String) : List Char :=
  items.flatMap (fun s => "    ".toList ++ renderString s ++ [',', '\n']) ++ [']']

theorem skipGaps_itemLines_cons
    : let text := '\n' :: (itemLines (s :: items) ++ rest)
      skipGaps text.length text = renderString s ++ ',' :: '\n' :: (itemLines items ++ rest) := by
  have htext : itemLines (s :: items) ++ rest
      = "    ".toList ++ (renderString s ++ ',' :: '\n' :: (itemLines items ++ rest)) := by
    simp [itemLines]
  have hsolid := (solid_renderString s).append (',' :: '\n' :: (itemLines items ++ rest))
  rw [htext]
  exact (skipGaps_newline _).trans (hsolid.skipGaps_append _ _ rfl)

theorem readItems?_last {gaps : List Char} (fuel : Nat)
    (hgaps : skipGaps gaps.length gaps = renderString s ++ ']' :: rest)
    : readItems? (readValue? depth) (fuel + 1) gaps = some ([.string s], rest) := by
  have hsolid : Solid (']' :: rest) := solid_cons (by decide) (by decide) rest
  rw [readItems?, hgaps]
  split
  . next heq => exact absurd heq (renderString_append_ne_cons (by decide) (by decide) _ _)
  . rw [readValue?_renderString s (unquoted_cons (by decide) (by decide) rest)]
    simp [hsolid.skipGaps_eq]

theorem readItems?_more {gaps : List Char} (fuel : Nat)
    (hgaps : skipGaps gaps.length gaps = renderString s ++ ',' :: rest)
    : readItems? (readValue? depth) (fuel + 1) gaps
        =
      (readItems? (readValue? depth) fuel rest).map fun (items, rest) => (.string s :: items, rest) := by
  have hsolid : Solid (',' :: rest) := solid_cons (by decide) (by decide) rest
  rw [readItems?, hgaps]
  split
  . next heq => exact absurd heq (renderString_append_ne_cons (by decide) (by decide) _ _)
  . rw [readValue?_renderString s (unquoted_cons (by decide) (by decide) rest)]
    simp [hsolid.skipGaps_eq, Option.map_eq_bind]

theorem readItems?_itemLines (h : items.length < fuel)
    : readItems? (readValue? depth) fuel ('\n' :: (itemLines items ++ rest))
        =
      some (items.map .string, rest) := by
  induction items generalizing fuel with
  | nil =>
    obtain ⟨fuel, rfl⟩ := Nat.exists_eq_add_one_of_ne_zero (Nat.ne_of_gt h)
    have hsolid : Solid (']' :: rest) := solid_cons (by decide) (by decide) rest
    have hgaps := (skipGaps_newline _).trans (hsolid.skipGaps_eq (']' :: rest).length)
    rw [readItems?]
    simp only [itemLines, List.flatMap_nil, List.nil_append, List.singleton_append]
    rw [List.length_cons, hgaps]
    rfl
  | cons s items ih =>
    obtain ⟨fuel, rfl⟩ := Nat.exists_eq_add_one_of_ne_zero (Nat.ne_of_gt (Nat.zero_lt_of_lt h))
    rw [readItems?_more fuel skipGaps_itemLines_cons, ih (by simpa using h)]
    rfl

theorem length_le_length_itemLines (items : List String) : items.length ≤ (itemLines items).length := by
  induction items with
  | nil => exact Nat.zero_le _
  | cons s items ih =>
    simp only [itemLines, List.flatMap_cons, List.length_append, List.length_cons] at ih ⊢
    omega

theorem readValue?_renderStrings (items : List String)
    : readValue? (depth + 1) (renderStrings items ++ rest)
        =
      some (.array (items.map .string), rest) := by
  match items with
  | [] =>
    have hsolid : Solid (']' :: rest) := solid_cons (by decide) (by decide) rest
    simp [renderStrings, readValue?, readItems?, hsolid.skipGaps_eq]
  | [s] =>
    have hsolid := (solid_renderString s).append (']' :: rest)
    have htext : renderStrings [s] ++ rest = '[' :: (renderString s ++ ']' :: rest) := by
      simp [renderStrings]
    rw [htext, readValue?, readItems?_last _ (hsolid.skipGaps_eq _)]
    rfl
  | s :: t :: items =>
    have hlength := length_le_length_itemLines (s :: t :: items)
    have hfuel : (s :: t :: items).length
        < ('\n' :: (itemLines (s :: t :: items) ++ rest)).length + 1 := by
      rw [List.length_cons (a := '\n'), List.length_append]
      omega
    have htext : renderStrings (s :: t :: items) ++ rest
        = '[' :: '\n' :: (itemLines (s :: t :: items) ++ rest) := by
      simp [renderStrings, itemLines]
    rw [htext, readValue?, readItems?_itemLines hfuel]
    rfl

end Arrays

end Toml

end SourceCookie
