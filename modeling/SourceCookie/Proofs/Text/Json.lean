import Mathlib.Tactic.IntervalCases
import SourceCookie.Text.Json

/-!
The text of JSON strings and of objects whose members are strings says where it ends, and it is the text
of one value only.
-/

namespace SourceCookie.Json

variable {s s' : String} {rest rest' : List Char}

def readEscaped? : List Char → Option (Char × List Char)
  | '\x22' :: _ => none
  | '\x5c' :: '\x22' :: s => some ('\x22', s)
  | '\x5c' :: '\x5c' :: s => some ('\x5c', s)
  | '\x5c' :: 'n' :: s => some ('\n', s)
  | '\x5c' :: 'r' :: s => some ('\r', s)
  | '\x5c' :: 't' :: s => some ('\t', s)
  | '\x5c' :: 'b' :: s => some ('\x08', s)
  | '\x5c' :: 'f' :: s => some ('\x0c', s)
  | '\x5c' :: 'u' :: s => some (Char.ofNat (Digits.toNat 16 (Digits.span 16 (s.take 4)).1), s.drop 4)
  | c :: s => some (c, s)
  | [] => none

theorem readEscaped?_escape_control {n : Nat} (h : n < 32) (rest : List Char)
    : readEscaped? (escape (Char.ofNat n) ++ rest) = some (Char.ofNat n, rest) := by
  interval_cases n <;> rfl

theorem escape_eq_singleton {c : Char} (hcontrol : ¬c.toNat < 32) (hquote : c ≠ '\x22')
    (hbackslash : c ≠ '\x5c')
    : escape c = [c] := by
  unfold escape
  split
  . contradiction
  . contradiction
  all_goals first
    | exact absurd (by decide) hcontrol
    | exact if_neg hcontrol

theorem readEscaped?_escape (c : Char) (rest : List Char)
    : readEscaped? (escape c ++ rest) = some (c, rest) := by
  by_cases hcontrol : c.toNat < 32
  . have hc := readEscaped?_escape_control hcontrol rest
    rwa [Char.ofNat_toNat] at hc
  . by_cases hquote : c = '\x22'
    . rw [hquote]
      rfl
    . by_cases hbackslash : c = '\x5c'
      . rw [hbackslash]
        rfl
      . rw [escape_eq_singleton hcontrol hquote hbackslash, List.singleton_append]
        unfold readEscaped?
        split
        all_goals simp_all

theorem flatMap_escape_append_inj {cs cs' : List Char}
    (h : cs.flatMap escape ++ '\x22' :: rest = cs'.flatMap escape ++ '\x22' :: rest')
    : cs = cs' ∧ rest = rest' := by
  have hread := congrArg readEscaped? h
  induction cs generalizing cs' with
  | nil =>
    cases cs' with
    | nil => exact ⟨rfl, (List.cons.inj h).2⟩
    | cons c' cs' =>
      rw [List.flatMap_cons, List.append_assoc, readEscaped?_escape] at hread
      contradiction
  | cons c cs ih =>
    rw [List.flatMap_cons, List.append_assoc, readEscaped?_escape] at hread
    cases cs' with
    | nil => contradiction
    | cons c' cs' =>
      rw [List.flatMap_cons, List.append_assoc, readEscaped?_escape, Option.some_inj, Prod.mk.injEq] at hread
      obtain ⟨hc, hcs⟩ := hread
      obtain ⟨hcs, hrest⟩ := ih hcs (congrArg readEscaped? hcs)
      exact ⟨by rw [hc, hcs], hrest⟩

theorem quoted_append_inj (h : quoted s ++ rest = quoted s' ++ rest') : s = s' ∧ rest = rest' := by
  unfold quoted at h
  simp only [List.cons_append, List.append_assoc, List.cons.injEq, true_and, List.nil_append] at h
  obtain ⟨hs, hrest⟩ := flatMap_escape_append_inj h
  exact ⟨String.toList_inj.1 hs, hrest⟩

def ofStrings (members : List (String × String)) : List (String × Json) :=
  members.map fun m => (m.1, string m.2)

theorem renderMembers_ofStrings_cons (name value : String) (members : List (String × String))
    : renderMembers (ofStrings ((name, value) :: members)) ++ '\x7d' :: rest
        =
      quoted name ++ ':' :: (quoted value ++
        match members with
        | [] => '\x7d' :: rest
        | members => ',' :: (renderMembers (ofStrings members) ++ '\x7d' :: rest)) := by
  cases members with
  | nil => simp [ofStrings, renderMembers, render]
  | cons m members => simp [ofStrings, renderMembers, render]

theorem renderMembers_ofStrings_append_inj {members members' : List (String × String)}
    (h : renderMembers (ofStrings members) ++ '\x7d' :: rest
        =
      renderMembers (ofStrings members') ++ '\x7d' :: rest')
    : members = members' ∧ rest = rest' := by
  -- what follows a member tells whether there is another one
  induction members generalizing members' with
  | nil =>
    cases members' with
    | nil => exact ⟨rfl, (List.cons.inj h).2⟩
    | cons m' members' =>
      rw [renderMembers_ofStrings_cons] at h
      exact absurd (List.cons.inj h).1 (by decide)
  | cons m members ih =>
    cases members' with
    | nil =>
      rw [renderMembers_ofStrings_cons] at h
      exact absurd (List.cons.inj h).1 (by decide)
    | cons m' members' =>
      rw [renderMembers_ofStrings_cons, renderMembers_ofStrings_cons] at h
      obtain ⟨hname, h⟩ := quoted_append_inj h
      obtain ⟨hvalue, h⟩ := quoted_append_inj (List.cons.inj h).2
      rw [Prod.ext hname hvalue]
      cases members with
      | nil =>
        cases members' with
        | nil => exact ⟨rfl, (List.cons.inj h).2⟩
        | cons => exact absurd (List.cons.inj h).1 (by decide)
      | cons =>
        cases members' with
        | nil => exact absurd (List.cons.inj h).1 (by decide)
        | cons =>
          obtain ⟨hmembers, hrest⟩ := ih (List.cons.inj h).2
          exact ⟨by rw [hmembers], hrest⟩

theorem render_object_ofStrings_inj {members members' : List (String × String)}
    (h : render (object (ofStrings members)) = render (object (ofStrings members')))
    : members = members' := by
  unfold render at h
  exact (renderMembers_ofStrings_append_inj (List.cons.inj h).2).1

end SourceCookie.Json
