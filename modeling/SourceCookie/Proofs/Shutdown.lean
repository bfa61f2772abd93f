import SourceCookie.Proofs.Run
import SourceCookie.Shutdown

/-!
No request to stop is lost. A waiter that found the flag not set has enrolled before it was set, and so
before the call that follows; that call wakes it, whether or not it is asleep already.
-/

namespace SourceCookie

namespace Shutdown

variable {s : Shutdown} {move : Move} {i j : Nat} {w : Waiter}

theorem stepRequester_cases (s : Shutdown) (i : Nat)
    : (s.requesters[i]? = some .ready ∧
        s.stepRequester i = { s with requested := true, requesters := s.requesters.set i .flagged }) ∨
      (s.requesters[i]? = some .flagged ∧
        s.stepRequester i = { s with calls := s.calls + 1, requesters := s.requesters.set i .done }) ∨
      s.stepRequester i = s := by
  unfold stepRequester
  split
  . next hready => exact Or.inl ⟨hready, rfl⟩
  . next hflagged => exact Or.inr (Or.inl ⟨hflagged, rfl⟩)
  . exact Or.inr (Or.inr rfl)

@[simp]
theorem waiters_stepRequester (s : Shutdown) (i : Nat) : (s.stepRequester i).waiters = s.waiters := by
  unfold stepRequester
  split <;> rfl

theorem getElem?_waiters_stepWaiter (s : Shutdown) (i j : Nat)
    : (s.stepWaiter i).waiters[j]?
        =
      (s.waiters[j]?).map fun w => if i = j then w.step s.requested s.calls else w := by
  unfold stepWaiter
  rw [List.getElem?_modify]
  split
  . rfl
  . simp

/-- What is known of a waiter from how far it has come. -/
def Informed (s : Shutdown) : Waiter → Prop
  | .ready => True
  | .enrolled calls => calls ≤ s.calls
  | .looked calls requested =>
    if requested then s.requested = true else calls ≤ s.calls ∧ (.done ∈ s.requesters → calls < s.calls)
  | .asleep calls => calls ≤ s.calls ∧ (.done ∈ s.requesters → calls < s.calls)
  | .returned => s.requested = true

structure Sound (s : Shutdown) : Prop where
  requested_iff : s.requested = true ↔ ∃ r ∈ s.requesters, r ≠ .ready
  informed : ∀ w ∈ s.waiters, s.Informed w

theorem sound_start (requesters waiters : Nat) : (start requesters waiters).Sound := by
  constructor
  . simp [start, List.mem_replicate]
  . intro w hw
    rw [List.eq_of_mem_replicate hw]
    trivial

theorem Sound.requested_of_done (h : s.Sound) (hdone : .done ∈ s.requesters) : s.requested = true := by
  rw [h.requested_iff]
  exact ⟨.done, hdone, by simp⟩

theorem Sound.flag (h : s.Sound) (hready : s.requesters[i]? = some .ready)
    : Sound { s with requested := true, requesters := s.requesters.set i .flagged } := by
  have hlt : i < s.requesters.length := (List.getElem?_eq_some_iff.1 hready).1
  constructor
  . simp only [true_iff]
    exact ⟨.flagged, List.mem_set hlt .flagged, by simp⟩
  . intro w hw
    have hbefore := h.informed w hw
    -- this request is not complete yet; those that are were so before
    have hdone : ∀ calls, (.done ∈ s.requesters → calls < s.calls) →
        .done ∈ s.requesters.set i .flagged → calls < s.calls := by
      intro calls hcalls hmem
      apply hcalls
      simpa using List.mem_or_eq_of_mem_set hmem
    cases w with
    | ready => trivial
    | enrolled calls => exact hbefore
    | looked calls requested =>
      cases requested with
      | true => rfl
      | false => exact ⟨hbefore.1, hdone calls hbefore.2⟩
    | asleep calls => exact ⟨hbefore.1, hdone calls hbefore.2⟩
    | returned => rfl

theorem Sound.call (h : s.Sound) (hflagged : s.requesters[i]? = some .flagged)
    : Sound { s with calls := s.calls + 1, requesters := s.requesters.set i .done } := by
  have hlt : i < s.requesters.length := (List.getElem?_eq_some_iff.1 hflagged).1
  constructor
  . rw [h.requested_iff]
    constructor
    . intro _
      exact ⟨.done, List.mem_set hlt .done, by simp⟩
    . intro _
      exact ⟨.flagged, List.mem_of_getElem? hflagged, by simp⟩
  . intro w hw
    have hbefore := h.informed w hw
    -- the call comes after each enrolment so far, so all who enrolled will hear of it
    cases w with
    | ready => trivial
    | enrolled calls => exact Nat.le_succ_of_le hbefore
    | looked calls requested =>
      cases requested with
      | true => exact hbefore
      | false => exact ⟨Nat.le_succ_of_le hbefore.1, fun _ => Nat.lt_succ_of_le hbefore.1⟩
    | asleep calls => exact ⟨Nat.le_succ_of_le hbefore.1, fun _ => Nat.lt_succ_of_le hbefore.1⟩
    | returned => exact hbefore

theorem Sound.informed_step (h : s.Sound) (hw : s.Informed w)
    : s.Informed (w.step s.requested s.calls) := by
  cases w with
  | ready => exact Nat.le_refl s.calls
  | enrolled calls =>
    simp only [Waiter.step]
    cases hrequested : s.requested with
    | true => simp [Informed, hrequested]
    | false =>
      -- a complete request would have set the flag
      refine ⟨hw, ?_⟩
      intro hdone
      simp [h.requested_of_done hdone] at hrequested
  | looked calls requested =>
    cases requested with
    | true => exact hw
    | false => exact hw
  | asleep calls =>
    simp only [Waiter.step]
    split
    . trivial
    . exact hw
  | returned => exact hw

theorem Sound.stepWaiter (h : s.Sound) (i : Nat) : (s.stepWaiter i).Sound := by
  constructor
  . exact h.requested_iff
  . intro w hw
    obtain ⟨j, hj⟩ := List.mem_iff_getElem?.1 hw
    rw [getElem?_waiters_stepWaiter, Option.map_eq_some_iff] at hj
    obtain ⟨before, hbefore, hw⟩ := hj
    have hinformed := h.informed before (List.mem_of_getElem? hbefore)
    rw [← hw]
    split
    . apply h.informed_step hinformed
    . exact hinformed

theorem Sound.step (h : s.Sound) (move : Move) : (s.step move).Sound := by
  cases move with
  | waiter i => apply h.stepWaiter
  | requester i =>
    simp only [Shutdown.step]
    rcases s.stepRequester_cases i with ⟨hready, heq⟩ | ⟨hflagged, heq⟩ | heq
    . rw [heq]
      apply h.flag hready
    . rw [heq]
      apply h.call hflagged
    . rw [heq]
      exact h

theorem Sound.run (h : s.Sound) (moves : List Move) : (s.run moves).Sound := by
  unfold Shutdown.run
  apply foldl_preserves Sound
  . intro s move h
    apply h.step
  . exact h

theorem requested_step (hrequested : s.requested = true) (move : Move)
    : (s.step move).requested = true := by
  cases move with
  | waiter i => exact hrequested
  | requester i =>
    simp only [step]
    rcases s.stepRequester_cases i with ⟨_, heq⟩ | ⟨_, heq⟩ | heq
    . rw [heq]
    . rw [heq]
      exact hrequested
    . rw [heq]
      exact hrequested

theorem requested_run (hrequested : s.requested = true) (moves : List Move)
    : (s.run moves).requested = true := by
  unfold run
  apply foldl_preserves fun s : Shutdown => s.requested = true
  . intro s move h
    apply requested_step h
  . exact hrequested

theorem done_mem_step (hdone : .done ∈ s.requesters) (move : Move) : .done ∈ (s.step move).requesters := by
  cases move with
  | waiter i => exact hdone
  | requester i =>
    have hkept : ∀ r r', s.requesters[i]? = some r' → r' ≠ .done → .done ∈ s.requesters.set i r := by
      intro r r' hi hr'
      obtain ⟨j, hj⟩ := List.mem_iff_getElem?.1 hdone
      apply List.mem_of_getElem? (i := j)
      rw [List.getElem?_set_ne]
      . exact hj
      . rintro rfl
        rw [hi] at hj
        injection hj with hj
        contradiction
    simp only [step]
    rcases s.stepRequester_cases i with ⟨hready, heq⟩ | ⟨hflagged, heq⟩ | heq
    . rw [heq]
      apply hkept _ _ hready (by simp)
    . rw [heq]
      apply hkept _ _ hflagged (by simp)
    . rw [heq]
      exact hdone

end Shutdown

def Waiter.stepsLeft : Waiter → Nat
  | returned => 0
  | looked _ true => 1
  | enrolled _ => 2
  | ready => 3
  | asleep _ => 4
  | looked _ false => 5

theorem Waiter.stepsLeft_le (w : Waiter) : w.stepsLeft ≤ 5 := by
  unfold stepsLeft
  split <;> omega

theorem Waiter.stepsLeft_eq_zero_iff {w : Waiter} : w.stepsLeft = 0 ↔ w = .returned := by
  unfold stepsLeft
  split <;> simp

namespace Shutdown

variable {s : Shutdown} {w : Waiter} {i : Nat}

theorem Sound.stepsLeft_step (h : s.Sound) (hdone : .done ∈ s.requesters) (hw : s.Informed w)
    : (w.step s.requested s.calls).stepsLeft = w.stepsLeft - 1 := by
  rw [h.requested_of_done hdone]
  cases w with
  | ready => rfl
  | enrolled calls => rfl
  | looked calls requested =>
    cases requested with
    | true => rfl
    | false => rfl
  | asleep calls =>
    simp only [Waiter.step, if_pos (hw.2 hdone)]
    rfl
  | returned => rfl

theorem Sound.getElem?_waiters_step (h : s.Sound) (hdone : .done ∈ s.requesters) (move : Move)
    (hw : s.waiters[i]? = some w)
    : ∃ w', (s.step move).waiters[i]? = some w' ∧
        w'.stepsLeft = w.stepsLeft - [move].count (.waiter i) := by
  cases move with
  | requester j =>
    refine ⟨w, ?_, by simp⟩
    simpa only [Shutdown.step, waiters_stepRequester] using hw
  | waiter j =>
    simp only [Shutdown.step, getElem?_waiters_stepWaiter, hw, Option.map_some, Option.some.injEq,
      exists_eq_left']
    by_cases hj : j = i
    . simp [hj, h.stepsLeft_step hdone (h.informed w (List.mem_of_getElem? hw))]
    . simp [hj]

theorem Sound.getElem?_waiters_run (h : s.Sound) (hdone : .done ∈ s.requesters) (moves : List Move)
    (hw : s.waiters[i]? = some w)
    : ∃ w', (s.run moves).waiters[i]? = some w' ∧
        w'.stepsLeft = w.stepsLeft - moves.count (.waiter i) := by
  induction moves generalizing s w with
  | nil => exact ⟨w, hw, rfl⟩
  | cons move moves ih =>
    obtain ⟨w', hw', hleft⟩ := h.getElem?_waiters_step hdone move hw
    obtain ⟨w'', hw'', hleft'⟩ := ih (h.step move) (done_mem_step hdone move) hw'
    refine ⟨w'', hw'', ?_⟩
    rw [← List.singleton_append, List.count_append]
    omega

theorem length_waiters_run (s : Shutdown) (moves : List Move)
    : (s.run moves).waiters.length = s.waiters.length := by
  unfold run
  apply foldl_preserves fun s' : Shutdown => s'.waiters.length = s.waiters.length
  . intro s' move h
    rw [← h]
    cases move with
    | waiter i => apply List.length_modify
    | requester i => simp only [step, waiters_stepRequester]
  . rfl

/-- Whoever waits when a request is complete has been woken, and returns after five more steps of its own,
whatever the others do in between. No one returns before the flag is set, which a request does first of
all, and the flag stays set. -/
theorem isWoken_and_returned_of_done (requesters waiters : Nat) (moves : List Move)
    : (.done ∈ ((start requesters waiters).run moves).requesters →
        (∀ calls, .asleep calls ∈ ((start requesters waiters).run moves).waiters →
          (Waiter.asleep calls).isWoken ((start requesters waiters).run moves).calls = true) ∧
        ∀ i < waiters, ∀ moves' : List Move, 5 ≤ moves'.count (.waiter i) →
          (((start requesters waiters).run moves).run moves').waiters[i]? = some .returned) ∧
      (.returned ∈ ((start requesters waiters).run moves).waiters →
        ((start requesters waiters).run moves).requested = true) ∧
      (((start requesters waiters).run moves).requested = true
        ↔
      ∃ r ∈ ((start requesters waiters).run moves).requesters, r ≠ .ready) ∧
      (((start requesters waiters).run moves).requested = true →
        ∀ moves', (((start requesters waiters).run moves).run moves').requested = true) := by
  have h := (sound_start requesters waiters).run moves
  have hlength := length_waiters_run (start requesters waiters) moves
  generalize (start requesters waiters).run moves = s at h hlength
  refine ⟨?_, ?_, h.requested_iff, requested_run⟩
  . intro hdone
    constructor
    . intro calls hasleep
      have hcalls := (h.informed _ hasleep).2 hdone
      simpa [Waiter.isWoken] using hcalls
    . intro i hi moves' hcount
      have hlt : i < s.waiters.length := by simpa [hlength, start] using hi
      obtain ⟨w, hw, hleft⟩ := h.getElem?_waiters_run hdone moves' (List.getElem?_eq_getElem hlt)
      have hmost := s.waiters[i].stepsLeft_le
      have hzero : w.stepsLeft = 0 := by omega
      rw [hw, Waiter.stepsLeft_eq_zero_iff.1 hzero]
  . intro hreturned
    exact h.informed _ hreturned

def lateSleeper : List Move :=
  [.waiter 0, .waiter 0, .requester 0, .requester 0, .waiter 0]

theorem isWoken_and_returned_of_done_lateSleeper
    : .done ∈ ((start 1 1).run lateSleeper).requesters ∧
      .asleep 0 ∈ ((start 1 1).run lateSleeper).waiters ∧
      (Waiter.asleep 0).isWoken ((start 1 1).run lateSleeper).calls = true ∧
      (((start 1 1).run lateSleeper).run (List.replicate 5 (.waiter 0))).waiters[0]? = some .returned := by
  have hdone : .done ∈ ((start 1 1).run lateSleeper).requesters := by decide
  have hasleep : .asleep 0 ∈ ((start 1 1).run lateSleeper).waiters := by decide
  obtain ⟨hwoken, hreturns⟩ := (isWoken_and_returned_of_done 1 1 lateSleeper).1 hdone
  exact ⟨hdone, hasleep, hwoken 0 hasleep, hreturns 0 (by decide) _ (by decide)⟩

end Shutdown

end SourceCookie
