import SourceCookie.Proofs.Renewal

/-!
The table of transitions, over times that have no end. A clock stops at its last time, and so does
everything that is added to its times. Before that time it makes no difference: the bands are those of
natural numbers, and an entry that is put back is put back by its whole lifetime. At the last time every
lifetime that ends is over.
-/

namespace SourceCookie

theorem Lifetime.eq_of_toNat_eq {l l' : Lifetime} (h : l.toNat = l'.toNat) : l = l' := by
  cases l
  cases l'
  rw [mk.injEq, Fin.ext_iff]
  exact h

namespace Entry

variable {e e' : Entry} {now : Timestamp} {recover : UInt64} {timing : Timing} {t : Transition}

def exactBand (e : Entry) (now recover : Nat) : Band :=
  if e.lifetime = .infinite ∨ now < e.mtime.toNat + 2 ^ e.lifetime.toNat then .stillValid
  else if now < e.mtime.toNat + 2 ^ e.lifetime.toNat + recover then .renewTime
  else .pastRenewTime

section ExactBand

variable {n r : Nat}

theorem exactBand_of_lt (h : n < e.mtime.toNat + 2 ^ e.lifetime.toNat)
    : e.exactBand n r = .stillValid := by
  unfold exactBand
  rw [if_pos (Or.inr h)]

theorem exactBand_of_le (hends : e.lifetime ≠ .infinite)
    (h : e.mtime.toNat + 2 ^ e.lifetime.toNat ≤ n)
    : e.exactBand n r
        =
      if n < e.mtime.toNat + 2 ^ e.lifetime.toNat + r then .renewTime else .pastRenewTime := by
  unfold exactBand
  rw [if_neg]
  rw [not_or, Nat.not_lt]
  exact ⟨hends, h⟩

theorem add_le_of_exactBand_ne (h : e.exactBand n r ≠ .stillValid)
    : e.lifetime ≠ .infinite ∧ e.mtime.toNat + 2 ^ e.lifetime.toNat ≤ n := by
  unfold exactBand at h
  split at h
  . contradiction
  . next hover =>
    rw [not_or, Nat.not_lt] at hover
    exact hover

end ExactBand

/-- The rows of the table: the two for an entry without cookies, and the five for one with cookies. Each
gives the times and lifetimes that it sets by what they are as numbers. -/
inductive Row (e : Entry) (now : Nat) (timing : Timing) : Transition → Entry → Prop where
  | inFallback (disabled : e.disableCookies = true)
    (band : e.exactBand now timing.recover.toNat = .stillValid)
    : Row e now timing .unchanged e
  | fallbackOver {mtime : Timestamp} {lifetime : Lifetime} (disabled : e.disableCookies = true)
    (band : e.exactBand now timing.recover.toNat = .renewTime ∨
      e.exactBand now timing.recover.toNat = .pastRenewTime)
    (refreshed : mtime.toNat = now) (lasts : lifetime.toNat = timing.retryLog2.toNat)
    : Row e now timing .retryCookies { e with mtime, lifetime, disableCookies := false }
  | valid (enabled : e.disableCookies = false)
    (band : e.exactBand now timing.recover.toNat = .stillValid)
    : Row e now timing .unchanged e
  | awaited (enabled : e.disableCookies = false)
    (band : e.exactBand now timing.recover.toNat = .renewTime) (awaiting : e.expectingSetCookie = true)
    : Row e now timing .unchanged e
  | due {mtime : Timestamp} (enabled : e.disableCookies = false)
    (band : e.exactBand now timing.recover.toNat = .renewTime) (idle : e.expectingSetCookie = false)
    (refreshed : mtime.toNat + 2 ^ e.lifetime.toNat = now)
    : Row e now timing .renewalArmed { e with mtime, expectingSetCookie := true }
  | unanswered {mtime : Timestamp} {lifetime : Lifetime} (enabled : e.disableCookies = false)
    (band : e.exactBand now timing.recover.toNat = .pastRenewTime)
    (awaiting : e.expectingSetCookie = true)
    (refreshed : mtime.toNat = now) (lasts : lifetime.toNat = timing.fallbackLog2.toNat)
    : Row e now timing .fallbackEntered { e with mtime, lifetime, disableCookies := true }
  | overdue {mtime : Timestamp} (enabled : e.disableCookies = false)
    (band : e.exactBand now timing.recover.toNat = .pastRenewTime)
    (idle : e.expectingSetCookie = false) (refreshed : mtime.toNat + 2 ^ e.lifetime.toNat = now)
    : Row e now timing .renewalArmed { e with mtime, expectingSetCookie := true }

theorem band_eq_exactBand (hnow : now.toNat < Timestamp.last)
    : e.band now recover = e.exactBand now.toNat recover.toNat := by
  unfold band exactBand
  by_cases hinfinite : e.lifetime = .infinite
  . simp [hinfinite, Lifetime.seconds?_infinite]
  . simp only [Lifetime.seconds?_of_ne_infinite hinfinite, hinfinite, false_or, UInt64.lt_iff_toNat_lt,
      Timestamp.toNat_later]
    -- a sum that stops at the last time is out of reach just as the whole sum is
    have hend : now.toNat < min (e.mtime.toNat + 2 ^ e.lifetime.toNat) Timestamp.last
        ↔
      now.toNat < e.mtime.toNat + 2 ^ e.lifetime.toNat := by
      omega
    have hpast : now.toNat
          <
        min (min (e.mtime.toNat + 2 ^ e.lifetime.toNat) Timestamp.last + recover.toNat) Timestamp.last
        ↔
      now.toNat < e.mtime.toNat + 2 ^ e.lifetime.toNat + recover.toNat := by
      omega
    simp only [hend, hpast]

theorem band_eq_pastRenewTime_of_last (hends : e.lifetime ≠ .infinite)
    (hnow : now.toNat = Timestamp.last)
    : e.band now recover = .pastRenewTime := by
  apply band_eq_pastRenewTime_of_le (Lifetime.seconds?_of_ne_infinite hends)
  rw [hnow]
  apply Nat.min_le_right

theorem setExpecting_backdate_eq (hends : e.lifetime ≠ .infinite) {mtime : Timestamp}
    (hmtime : mtime.toNat + 2 ^ e.lifetime.toNat = now.toNat)
    : (e.setExpecting true).backdate now = { e with mtime, expectingSetCookie := true } := by
  have heq : now.earlier (2 ^ e.lifetime.toNat) = mtime := by
    rw [← UInt64.toNat_inj, Timestamp.toNat_earlier]
    omega
  have hseconds : (e.setExpecting true).lifetime.seconds? = _ := Lifetime.seconds?_of_ne_infinite hends
  unfold backdate
  rw [hseconds, Option.getD_some, ← heq]
  rfl

theorem toNat_mtime_backdate (hends : e.lifetime ≠ .infinite)
    (hover : e.mtime.toNat + 2 ^ e.lifetime.toNat ≤ now.toNat)
    : ((e.setExpecting true).backdate now).mtime.toNat + 2 ^ e.lifetime.toNat = now.toNat := by
  have hseconds : (e.setExpecting true).lifetime.seconds? = some (2 ^ e.lifetime.toNat) :=
    Lifetime.seconds?_of_ne_infinite hends
  simp only [backdate, hseconds, Option.getD_some, Timestamp.toNat_earlier]
  omega

theorem restart_eq {flag : Bool} {b : UInt8} (hb : b < Lifetime.infiniteLog2) {mtime : Timestamp}
    {lifetime : Lifetime} (hmtime : mtime.toNat = now.toNat) (hlifetime : lifetime.toNat = b.toNat)
    : ((e.setDisable flag).touch now).setLifetime b
        =
      { e with mtime, lifetime, disableCookies := flag } := by
  have heq : Lifetime.ofByte b = lifetime := by
    apply Lifetime.eq_of_toNat_eq
    rw [Lifetime.toNat_ofByte_of_lt hb, hlifetime]
  rw [UInt64.toNat_inj.1 hmtime, ← heq]
  rfl

theorem Row.evaluate_eq (h : e.Row now.toNat timing t e') (hnow : now.toNat < Timestamp.last)
    (hfallback : timing.fallbackLog2 < Lifetime.infiniteLog2)
    (hretry : timing.retryLog2 < Lifetime.infiniteLog2)
    : e.evaluate now timing = (t, e') := by
  unfold evaluate
  rw [band_eq_exactBand hnow]
  cases h with
  | inFallback _ band => rw [band]
  | fallbackOver disabled band refreshed lasts =>
    rcases band with band | band <;> simp only [band, disabled, restart_eq hretry refreshed lasts]
  | valid _ band => rw [band]
  | awaited enabled band awaiting => rw [band, enabled, awaiting]
  | due enabled band idle refreshed =>
    have hends := (add_le_of_exactBand_ne (by rw [band]; nofun)).1
    simp only [band, enabled, idle, setExpecting_backdate_eq hends refreshed]
  | unanswered enabled band awaiting refreshed lasts =>
    simp only [band, enabled, awaiting, restart_eq hfallback refreshed lasts]
  | overdue enabled band idle refreshed =>
    have hends := (add_le_of_exactBand_ne (by rw [band]; nofun)).1
    simp only [band, enabled, idle, setExpecting_backdate_eq hends refreshed]

theorem Evaluation.row (h : e.Evaluation now timing t e') (hnow : now.toNat < Timestamp.last)
    (hfallback : timing.fallbackLog2 < Lifetime.infiniteLog2)
    (hretry : timing.retryLog2 < Lifetime.infiniteLog2)
    : e.Row now.toNat timing t e' := by
  have hband : e.band now timing.recover = _ := band_eq_exactBand hnow
  cases h with
  | unchanged rest =>
    rcases rest with hvalid | ⟨hrenew, henabled, hawaiting⟩
    . cases hdisable : e.disableCookies with
      | true => exact .inFallback hdisable (hband ▸ hvalid)
      | false => exact .valid hdisable (hband ▸ hvalid)
    . exact .awaited henabled (hband ▸ hrenew) hawaiting
  | retried due disabled =>
    refine .fallbackOver disabled ?_ rfl (Lifetime.toNat_ofByte_of_lt hretry)
    rw [← hband]
    cases hcase : e.band now timing.recover with
    | stillValid => contradiction
    | renewTime => exact Or.inl rfl
    | pastRenewTime => exact Or.inr rfl
  | armed due enabled idle =>
    obtain ⟨hends, hover⟩ := add_le_of_exactBand_ne (hband ▸ due)
    have hrefreshed := toNat_mtime_backdate hends hover
    cases hcase : e.band now timing.recover with
    | stillValid => contradiction
    | renewTime => exact .due enabled (hband ▸ hcase) idle hrefreshed
    | pastRenewTime => exact .overdue enabled (hband ▸ hcase) idle hrefreshed
  | fellBack past enabled awaiting =>
    exact .unanswered enabled (hband ▸ past) awaiting rfl (Lifetime.toNat_ofByte_of_lt hfallback)

theorem band_eq_and_evaluate_eq_iff_row (hfallback : timing.fallbackLog2 < Lifetime.infiniteLog2)
    (hretry : timing.retryLog2 < Lifetime.infiniteLog2) (e : Entry) (now : Timestamp)
    : (now.toNat < Timestamp.last →
        e.band now timing.recover = e.exactBand now.toNat timing.recover.toNat ∧
        ∀ t e', e.evaluate now timing = (t, e') ↔ e.Row now.toNat timing t e') ∧
      (now.toNat = Timestamp.last → e.lifetime ≠ .infinite →
        e.band now timing.recover = .pastRenewTime) := by
  refine ⟨?_, fun hnow hends => band_eq_pastRenewTime_of_last hends hnow⟩
  intro hnow
  refine ⟨band_eq_exactBand hnow, fun t e' => ⟨?_, fun hrow => hrow.evaluate_eq hnow hfallback hretry⟩⟩
  intro heval
  have hrow := (evaluation e now timing).row hnow hfallback hretry
  rw [heval] at hrow
  exact hrow

theorem band_eq_and_evaluate_eq_iff_row_overdue
    : let e : Entry := { Entry.fresh default false .zero 0 with lifetime := ⟨6⟩, expectingSetCookie := false }
      let timing : Timing := ⟨30, 10, 6⟩
      e.Row 10000 timing .renewalArmed { e with mtime := 9936, expectingSetCookie := true } ∧
        e.evaluate 10000 timing
          =
        (.renewalArmed, { e with mtime := 9936, expectingSetCookie := true }) ∧
        e.band 18446744073709551615 timing.recover = .pastRenewTime := by
  intro e timing
  have hfallback : timing.fallbackLog2 < Lifetime.infiniteLog2 := by decide
  have hretry : timing.retryLog2 < Lifetime.infiniteLog2 := by decide
  have htable := band_eq_and_evaluate_eq_iff_row hfallback hretry e
  have hrow : e.Row 10000 timing .renewalArmed { e with mtime := 9936, expectingSetCookie := true } :=
    .overdue rfl (by decide) rfl rfl
  refine ⟨hrow, ?_, (htable 18446744073709551615).2 rfl (by decide)⟩
  exact (((htable 10000).1 (by decide)).2 _ _).2 hrow

end Entry

end SourceCookie
