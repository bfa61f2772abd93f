import Mathlib.Data.List.Induction

/-!
Runs: a state that one event after another changes. A property of a run is often one of each of its
events, or of those after some event, where each event is taken together with the state it meets.
-/

namespace SourceCookie

variable {σ ε : Type} {step : σ → ε → σ} {P P' Q : σ → ε → Prop} {s : σ} {es : List ε}

def Along (step : σ → ε → σ) (P : σ → ε → Prop) : σ → List ε → Prop
  | _, [] => True
  | s, e :: rest => P s e ∧ Along step P (step s e) rest

/-- Some event of a run has the property `P`, and every event after it has the property `Q`. -/
def Since (step : σ → ε → σ) (P Q : σ → ε → Prop) (s : σ) (es : List ε) : Prop :=
  ∃ before e after, es = before ++ e :: after ∧ P (before.foldl step s) e ∧
    Along step Q (step (before.foldl step s) e) after

/-- Every event of a run relates to the events before it. -/
def Throughout (R : List ε → ε → Prop) (es : List ε) : Prop :=
  ∀ before e after, es = before ++ e :: after → R before e

/-- Some event of a run relates to the events before it. -/
def Once (R : List ε → ε → Prop) (es : List ε) : Prop :=
  ∃ before e after, es = before ++ e :: after ∧ R before e

theorem foldl_preserves (I : σ → Prop) (hstep : ∀ s e, I s → I (step s e)) (h : I s)
    : I (es.foldl step s) := by
  induction es generalizing s with
  | nil => exact h
  | cons e rest ih => exact ih (hstep s e h)

theorem along_of_invariant (I : σ → Prop) (hstep : ∀ s, ∀ e ∈ es, I s → P s e ∧ I (step s e)) (h : I s)
    : Along step P s es := by
  induction es generalizing s with
  | nil => trivial
  | cons e rest ih =>
    obtain ⟨hfirst, hnext⟩ := hstep s e List.mem_cons_self h
    refine ⟨hfirst, ih ?_ hnext⟩
    intro s e he
    exact hstep s e (List.mem_cons_of_mem _ he)

theorem Along.imp (h : Along step P s es) (himp : ∀ s e, P s e → P' s e) : Along step P' s es := by
  induction es generalizing s with
  | nil => trivial
  | cons e rest ih => exact ⟨himp s e h.1, ih h.2⟩

instance decidableAlong [∀ s e, Decidable (P s e)]
    : (s : σ) → (es : List ε) → Decidable (Along step P s es)
  | _, [] => isTrue trivial
  | s, e :: rest =>
    have := decidableAlong (step s e) rest
    inferInstanceAs (Decidable (P s e ∧ Along step P (step s e) rest))

theorem along_append {es' : List ε}
    : Along step P s (es ++ es') ↔ Along step P s es ∧ Along step P (es.foldl step s) es' := by
  induction es generalizing s with
  | nil => simp [Along]
  | cons e rest ih => simp [Along, ih, and_assoc]

theorem along_concat {e : ε}
    : Along step P s (es ++ [e]) ↔ Along step P s es ∧ P (es.foldl step s) e := by
  rw [along_append]
  simp [Along]

theorem split_concat {e e' : ε} {before after : List ε} (hsplit : es ++ [e] = before ++ e' :: after)
    : es = before ∧ e = e' ∧ after = [] ∨
      ∃ rest, es = before ++ e' :: rest ∧ after = rest ++ [e] := by
  rcases List.eq_nil_or_concat after with hnil | ⟨rest, e'', hafter⟩
  . subst hnil
    obtain ⟨hes, he⟩ := List.append_inj' hsplit rfl
    injection he with he
    exact Or.inl ⟨hes, he, rfl⟩
  . rw [List.concat_eq_append] at hafter
    subst hafter
    rw [← List.cons_append, ← List.append_assoc] at hsplit
    obtain ⟨hes, he⟩ := List.append_inj' hsplit rfl
    injection he with he
    exact Or.inr ⟨rest, hes, by rw [he]⟩

theorem throughout_nil {R : List ε → ε → Prop} : Throughout R [] := by
  intro before e after hsplit
  simp at hsplit

theorem throughout_cons {R : List ε → ε → Prop} {e : ε}
    : Throughout R (e :: es) ↔ R [] e ∧ Throughout (fun before e' => R (e :: before) e') es := by
  constructor
  . intro h
    refine ⟨h [] e es rfl, ?_⟩
    intro before e' after hsplit
    apply h (e :: before) e' after
    rw [hsplit, List.cons_append]
  . rintro ⟨hfirst, h⟩ before e' after hsplit
    cases before with
    | nil =>
      rw [List.nil_append, List.cons.injEq] at hsplit
      rw [← hsplit.1]
      exact hfirst
    | cons first before =>
      rw [List.cons_append, List.cons.injEq] at hsplit
      rw [← hsplit.1]
      exact h before e' after hsplit.2

theorem throughout_concat {R : List ε → ε → Prop} {e : ε}
    : Throughout R (es ++ [e]) ↔ Throughout R es ∧ R es e := by
  constructor
  . intro h
    refine ⟨?_, h es e [] rfl⟩
    intro before e' after hsplit
    apply h before e' (after ++ [e])
    simp [hsplit]
  . rintro ⟨h, hlast⟩ before e' after hsplit
    rcases split_concat hsplit with ⟨hes, he, _⟩ | ⟨rest, hes, _⟩
    . rw [← hes, ← he]
      exact hlast
    . exact h before e' rest hes

theorem Throughout.of_begins {R : List ε → ε → Prop} {before : List ε} {e : ε} (h : Throughout R es)
    (hbegins : before ++ [e] <+: es)
    : R before e := by
  obtain ⟨after, hafter⟩ := hbegins
  apply h before e after
  simp [← hafter]

theorem not_once_nil {R : List ε → ε → Prop} : ¬ Once R [] := by
  rintro ⟨before, e, after, hsplit, _⟩
  simp at hsplit

theorem once_concat {R : List ε → ε → Prop} {e : ε} : Once R (es ++ [e]) ↔ Once R es ∨ R es e := by
  constructor
  . rintro ⟨before, e', after, hsplit, hR⟩
    rcases split_concat hsplit with ⟨hes, he, _⟩ | ⟨rest, hes, _⟩
    . rw [hes, he]
      exact Or.inr hR
    . exact Or.inl ⟨before, e', rest, hes, hR⟩
  . rintro (⟨before, e', after, hsplit, hR⟩ | hR)
    . exact ⟨before, e', after ++ [e], by simp [hsplit], hR⟩
    . exact ⟨es, e, [], rfl, hR⟩

theorem Since.imp (h : Since step P Q s es) (himp : ∀ s e, P s e → P' s e) : Since step P' Q s es := by
  obtain ⟨before, e, after, hsplit, hP, hQ⟩ := h
  exact ⟨before, e, after, hsplit, himp _ e hP, hQ⟩

theorem not_since_nil : ¬ Since step P Q s [] := by
  rintro ⟨before, e, after, hsplit, _⟩
  simp at hsplit

theorem since_concat {e : ε}
    : Since step P Q s (es ++ [e])
        ↔
      P (es.foldl step s) e ∨ (Since step P Q s es ∧ Q (es.foldl step s) e) := by
  constructor
  . rintro ⟨before, e', after, hsplit, hP, hQ⟩
    rcases split_concat hsplit with ⟨hes, he, _⟩ | ⟨rest, hes, hafter⟩
    . rw [hes, he]
      exact Or.inl hP
    . rw [hafter, along_concat] at hQ
      refine Or.inr ⟨⟨before, e', rest, hes, hP, hQ.1⟩, ?_⟩
      rw [hes, List.foldl_append]
      exact hQ.2
  . rintro (hP | ⟨⟨before, e', after, hsplit, hP, hQ⟩, hlast⟩)
    . exact ⟨es, e, [], rfl, hP, trivial⟩
    . refine ⟨before, e', after ++ [e], ?_, hP, ?_⟩
      . simp [hsplit]
      . rw [along_concat]
        refine ⟨hQ, ?_⟩
        rw [hsplit, List.foldl_append] at hlast
        exact hlast

end SourceCookie
