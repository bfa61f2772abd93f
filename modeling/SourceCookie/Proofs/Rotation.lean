import SourceCookie.Proofs.Generations
import SourceCookie.Proofs.Run
import SourceCookie.Rotation

/-!
When scheduled rotations come. A run of the task is time that goes by and moments at which the task looks at
its ticker. However these moments are chosen, a period lies before the first rotation and between any two
of them, less the tolerance of the ticker, so a cookie that is current is good for that long.
-/

namespace SourceCookie

namespace Ticker

theorem poll?_eq_none_iff {t : Ticker} {now : Nat} : t.poll? now = none ↔ now < t.deadline := by
  unfold poll?
  split
  . next hearly => simp [hearly]
  . next hdue =>
    split <;> simp [hdue]

theorem of_poll?_eq_some {t t' : Ticker} {now : Nat} (h : t.poll? now = some t')
    : t.deadline ≤ now ∧ t'.period = t.period ∧ t'.tolerance = t.tolerance ∧
      t.deadline ≤ t'.deadline ∧ now + t.period ≤ t'.deadline + t.tolerance := by
  unfold poll? at h
  split at h
  . contradiction
  . next hdue =>
    split at h
    . next hintime =>
      injection h with h
      rw [← h]
      refine ⟨Nat.le_of_not_lt hdue, rfl, rfl, Nat.le_add_right _ _, ?_⟩
      show now + t.period ≤ t.deadline + t.period + t.tolerance
      omega
    . next hlate =>
      injection h with h
      rw [← h]
      refine ⟨Nat.le_of_not_lt hdue, rfl, rfl, ?_, Nat.le_add_right _ _⟩
      show t.deadline ≤ now + t.period
      omega

end Ticker

namespace RotationTask

variable {draw : Nat → SecretKey} {t : RotationTask}

inductive Move where
  | wait (duration : Nat)
  | poll
  | rotate
  | stop
  deriving DecidableEq

def move (draw : Nat → SecretKey) (t : RotationTask) : Move → RotationTask
  | .wait duration => { t with now := t.now + duration }
  | .poll => t.poll draw t.now
  | .rotate => t.rotate draw
  | .stop => t.stop

def follow (draw : Nat → SecretKey) (t : RotationTask) (moves : List Move) : RotationTask :=
  moves.foldl (move draw) t

theorem follow_concat (moves : List Move) (m : Move)
    : t.follow draw (moves ++ [m]) = (t.follow draw moves).move draw m := by
  unfold follow
  rw [List.foldl_append]
  rfl

theorem follow_append (moves moves' : List Move)
    : t.follow draw (moves ++ moves') = (t.follow draw moves).follow draw moves' := by
  unfold follow
  rw [List.foldl_append]

def Rotates (draw : Nat → SecretKey) (t : RotationTask) : Prop :=
  (t.move draw .poll).engine ≠ t.engine

def Rests (period tolerance time : Nat) (t : RotationTask) : Prop :=
  ∀ ticker, t.status = .running ticker →
    ticker.period = period ∧ ticker.tolerance = tolerance ∧ time ≤ ticker.deadline

theorem poll_cases (draw : Nat → SecretKey) (t : RotationTask)
    : (∀ ticker, t.status = .running ticker → t.now < ticker.deadline) ∧ t.move draw .poll = t ∨
      ∃ ticker ticker', t.status = .running ticker ∧ ticker.poll? t.now = some ticker' ∧
        t.move draw .poll = { t.rotate draw with status := .running ticker' } := by
  unfold move poll
  simp only
  split
  . next ticker hstatus =>
    split
    . next ticker' hpoll => exact Or.inr ⟨ticker, ticker', hstatus, hpoll, rfl⟩
    . next hnone =>
      refine Or.inl ⟨?_, rfl⟩
      intro other hother
      injection hstatus.symm.trans hother with heq
      rw [← heq]
      exact Ticker.poll?_eq_none_iff.1 hnone
  . next hidle =>
    refine Or.inl ⟨?_, rfl⟩
    intro ticker hstatus
    exact absurd hstatus (hidle ticker)

theorem now_le_move (m : Move) : t.now ≤ (t.move draw m).now := by
  cases m with
  | wait duration => exact Nat.le_add_right t.now duration
  | poll =>
    have hnow : (t.move draw .poll).now = t.now := by
      rcases t.poll_cases draw with ⟨_, hkept⟩ | ⟨_, _, _, _, hrotated⟩
      . rw [hkept]
      . rw [hrotated]
        rfl
    exact Nat.le_of_eq hnow.symm
  | rotate => exact Nat.le_refl t.now
  | stop => exact Nat.le_refl t.now

theorem now_le_follow (moves : List Move) : t.now ≤ (t.follow draw moves).now := by
  apply foldl_preserves fun u : RotationTask => t.now ≤ u.now
  . intro u m h
    exact Nat.le_trans h (u.now_le_move m)
  . exact Nat.le_refl t.now

namespace Rests

variable {period tolerance time : Nat}

theorem mono {earlier : Nat} (h : t.Rests period tolerance time) (hle : earlier ≤ time)
    : t.Rests period tolerance earlier := by
  intro ticker hstatus
  obtain ⟨hperiod, htolerance, htime⟩ := h ticker hstatus
  exact ⟨hperiod, htolerance, Nat.le_trans hle htime⟩

theorem of_rotates (h : t.Rests period tolerance time) (hrotates : t.Rotates draw)
    : time ≤ t.now ∧ (t.move draw .poll).engine = t.engine.rotate (draw t.engine.epoch) ∧
      (t.move draw .poll).Rests period tolerance (t.now + period - tolerance) := by
  rcases t.poll_cases draw with ⟨_, hkept⟩ | ⟨ticker, ticker', hstatus, hpoll, hrotated⟩
  . unfold Rotates at hrotates
    rw [hkept] at hrotates
    contradiction
  . obtain ⟨hdue, hperiod, htolerance, _, hnext⟩ := Ticker.of_poll?_eq_some hpoll
    obtain ⟨hsame, hsame', htime⟩ := h ticker hstatus
    refine ⟨Nat.le_trans htime hdue, by rw [hrotated]; rfl, ?_⟩
    intro u hu
    rw [hrotated] at hu
    injection hu with hu
    rw [← hu]
    omega

protected theorem move (h : t.Rests period tolerance time) (m : Move)
    : (t.move draw m).Rests period tolerance time := by
  cases m with
  | wait duration => exact h
  | poll =>
    rcases t.poll_cases draw with ⟨_, hkept⟩ | ⟨ticker, ticker', hstatus, hpoll, hrotated⟩
    . rw [hkept]
      exact h
    . obtain ⟨_, hperiod, htolerance, hlater, _⟩ := Ticker.of_poll?_eq_some hpoll
      obtain ⟨hsame, hsame', htime⟩ := h ticker hstatus
      intro u hu
      rw [hrotated] at hu
      injection hu with hu
      rw [← hu]
      omega
  | rotate => exact h
  | stop =>
    intro u hu
    apply h u
    unfold RotationTask.move stop at hu
    simp only at hu
    split at hu
    . contradiction
    . exact hu

protected theorem follow (h : t.Rests period tolerance time) (moves : List Move)
    : (t.follow draw moves).Rests period tolerance time := by
  apply foldl_preserves fun u : RotationTask => u.Rests period tolerance time
  . intro u m hu
    exact hu.move m
  . exact h

end Rests

theorem rests_startIn (resolution period : Nat) (engine : Engine)
    : (startIn resolution period engine).Rests period (5 * resolution) period := by
  intro ticker hstatus
  unfold startIn at hstatus
  simp only at hstatus
  split at hstatus
  . injection hstatus with hticker
    rw [← hticker]
    simp [Ticker.start]
  . contradiction

theorem Rests.add_period_le {period tolerance time : Nat} (h : t.Rests period tolerance time)
    (hrotates : t.Rotates draw) (between : List Move) (hrotates' : (t.follow draw (.poll :: between)).Rotates draw)
    : t.now + period ≤ (t.follow draw (.poll :: between)).now + tolerance := by
  obtain ⟨_, _, hrests⟩ := h.of_rotates hrotates
  have hlater : t.now + period - tolerance ≤ (t.follow draw (.poll :: between)).now :=
    ((hrests.follow between).of_rotates hrotates').1
  omega

theorem Rests.follow_cases {period tolerance time : Nat} (h : t.Rests period tolerance time)
    {moves : List Move} (halone : .rotate ∉ moves)
    : (t.follow draw moves).engine = t.engine ∨
      (∃ drawn, (t.follow draw moves).engine = t.engine.rotate drawn) ∧
        (t.follow draw moves).Rests period tolerance (t.now + period - tolerance) ∨
      t.now + period ≤ (t.follow draw moves).now + tolerance := by
  -- no rotation so far, one rotation, or so late that there may have been two
  induction moves using List.reverseRecOn with
  | nil => exact Or.inl rfl
  | append_singleton moves m ih =>
    simp only [List.mem_append, List.mem_singleton, not_or] at halone
    have hnow : t.now ≤ (t.follow draw moves).now := t.now_le_follow moves
    have hnext : (t.follow draw moves).now ≤ ((t.follow draw moves).move draw m).now := now_le_move m
    rw [follow_concat]
    by_cases hchanged : ((t.follow draw moves).move draw m).engine = (t.follow draw moves).engine
    . rw [hchanged]
      rcases ih halone.1 with hsame | ⟨honce, hrests⟩ | hlate
      . exact Or.inl hsame
      . exact Or.inr (Or.inl ⟨honce, hrests.move m⟩)
      . exact Or.inr (Or.inr (by omega))
    -- when no one else rotates, only a look at the ticker changes the keys
    . have hpoll : m = .poll := by
        cases m with
        | wait duration => exact absurd rfl hchanged
        | poll => rfl
        | rotate => exact absurd rfl halone.2
        | stop => exact absurd rfl hchanged
      subst hpoll
      rcases ih halone.1 with hsame | ⟨_, hrests⟩ | hlate
      . obtain ⟨_, hrotated, hrests⟩ := (h.follow moves).of_rotates hchanged
        refine Or.inr (Or.inl ⟨⟨_, by rw [hrotated, hsame]⟩, hrests.mono ?_⟩)
        omega
      . obtain ⟨hdue, _⟩ := hrests.of_rotates hchanged
        exact Or.inr (Or.inr (by omega))
      . exact Or.inr (Or.inr (by omega))

def InTime (t : RotationTask) : Prop :=
  ∀ ticker, t.status = .running ticker → t.now ≤ ticker.deadline + ticker.tolerance

theorem inTime_startIn (resolution period : Nat) (engine : Engine)
    : (startIn resolution period engine).InTime := by
  intro ticker _
  exact Nat.zero_le _

theorem inTime_poll (draw : Nat → SecretKey) (t : RotationTask) : (t.move draw .poll).InTime := by
  intro u hu
  rcases t.poll_cases draw with ⟨hearly, hkept⟩ | ⟨ticker, ticker', _, hpoll, hrotated⟩
  . rw [hkept] at hu ⊢
    exact Nat.le_add_right_of_le (Nat.le_of_lt (hearly u hu))
  . obtain ⟨_, _, htolerance, _, hnext⟩ := Ticker.of_poll?_eq_some hpoll
    rw [hrotated] at hu ⊢
    injection hu with hu
    rw [← hu]
    show t.now ≤ ticker'.deadline + ticker'.tolerance
    omega

theorem tickUntil_eq_follow (draw : Nat → SecretKey) {last : Nat} {ticker : Ticker} {t u : RotationTask}
    (hengine : u.engine = t.engine) (hstop : u.stopRequested = t.stopRequested)
    (hstatus : u.status = .running ticker) (hintime : u.now ≤ ticker.deadline + ticker.tolerance)
    (hlast : u.now ≤ last)
    : ∃ moves, .rotate ∉ moves ∧ tickUntil draw last ticker t = u.follow draw moves ∧
        (tickUntil draw last ticker t).InTime := by
  unfold tickUntil
  split
  . next hdue =>
    -- `u` may be past the deadline, but not so far that the tick is late
    have hpoll : ticker.poll? (u.now + (ticker.deadline - u.now)) = some ticker.next := by
      unfold Ticker.poll?
      rw [if_neg (by omega), if_pos (by omega)]
    have hmove : u.follow draw [.wait (ticker.deadline - u.now), .poll]
        =
      { u.rotate draw with
        now := u.now + (ticker.deadline - u.now)
        status := .running ticker.next } := by
      unfold follow
      simp [move, poll, rotate, hstatus, hpoll]
    have hlater := ticker.lt_deadline_next
    generalize hv : u.follow draw [.wait (ticker.deadline - u.now), .poll] = v at hmove
    have hengine' : v.engine = (t.rotate draw).engine := by
      rw [hmove]
      simp [rotate, hengine]
    have hstop' : v.stopRequested = (t.rotate draw).stopRequested := by
      rw [hmove]
      exact hstop
    have hstatus' : v.status = .running ticker.next := by rw [hmove]
    have hnow : v.now = u.now + (ticker.deadline - u.now) := by rw [hmove]
    have hintime' : v.now ≤ ticker.next.deadline + ticker.next.tolerance := by
      show v.now ≤ ticker.next.deadline + ticker.tolerance
      omega
    have hlast' : v.now ≤ last := by omega
    obtain ⟨moves, halone, hfollow, hrest⟩ :=
      tickUntil_eq_follow draw hengine' hstop' hstatus' hintime' hlast'
    refine ⟨[.wait (ticker.deadline - u.now), .poll] ++ moves, by simp [halone], ?_, hrest⟩
    rw [follow_append, hv]
    exact hfollow
  . next hrest =>
    refine ⟨[.wait (last - u.now)], by simp, ?_, ?_⟩
    . have hnow : u.now + (last - u.now) = last := Nat.add_sub_cancel' hlast
      unfold follow
      simp [move, hengine, hstop, hstatus, hnow]
    . intro v hv
      injection hv with hv
      rw [← hv]
      exact Nat.le_add_right_of_le (Nat.le_of_not_le hrest)
termination_by last + 1 - ticker.deadline

theorem step_eq_follow (draw : Nat → SecretKey) (h : t.InTime) (o : Occurrence)
    : ∃ moves, (o ≠ .rotate → .rotate ∉ moves) ∧ t.step draw o = t.follow draw moves ∧
        (t.step draw o).InTime := by
  cases o with
  | sleep duration =>
    unfold step sleep
    simp only
    split
    . next ticker hstatus =>
      obtain ⟨moves, halone, hfollow, hintime⟩ := tickUntil_eq_follow draw rfl rfl hstatus
        (h ticker hstatus) (Nat.le_add_right t.now duration)
      exact ⟨moves, fun _ => halone, hfollow, hintime⟩
    . next hidle =>
      refine ⟨[.wait duration], by simp, rfl, ?_⟩
      intro ticker hstatus
      exact absurd hstatus (hidle ticker)
  | stall duration =>
    exact ⟨[.wait duration, .poll], by simp, rfl, inTime_poll draw (t.move draw (.wait duration))⟩
  | rotate => exact ⟨[.rotate], by simp, rfl, h⟩
  | stop =>
    refine ⟨[.stop], by simp, rfl, ?_⟩
    intro ticker hstatus
    unfold step stop at hstatus
    simp only at hstatus
    split at hstatus
    . contradiction
    . exact h ticker hstatus

def run (draw : Nat → SecretKey) (t : RotationTask) (os : List Occurrence) : RotationTask :=
  os.foldl (step draw) t

theorem run_eq_follow (draw : Nat → SecretKey) (h : t.InTime) (os : List Occurrence)
    : ∃ moves, (.rotate ∉ os → .rotate ∉ moves) ∧ t.run draw os = t.follow draw moves ∧
        (t.run draw os).InTime := by
  induction os generalizing t with
  | nil => exact ⟨[], by simp, rfl, h⟩
  | cons o os ih =>
    obtain ⟨moves, halone, hstep, hnext⟩ := step_eq_follow draw h o
    obtain ⟨moves', halone', hrun, hintime⟩ := ih hnext
    refine ⟨moves ++ moves', ?_, ?_, hintime⟩
    . simp only [List.mem_cons, List.mem_append, not_or]
      rintro ⟨hfirst, hrest⟩
      exact ⟨halone (Ne.symm hfirst), halone' hrest⟩
    . rw [follow_append, ← hstep]
      exact hrun

/-- However the moments are chosen at which the task looks at its ticker, its first rotation comes a period
after the start or later, any two of its rotations are a period apart, less five milliseconds, and each
begins one epoch. So while no one else rotates the keys, a cookie that is current verifies for a period, less
the five milliseconds. -/
theorem rotations_apart_and_verify_currentCookie (draw : Nat → SecretKey) (resolution period : Nat)
    (engine : Engine)
    : (∀ before after, ∃ moves moves',
        (startIn resolution period engine).run draw before
          =
        (startIn resolution period engine).follow draw moves ∧
        (startIn resolution period engine).run draw (before ++ after)
          =
        (startIn resolution period engine).follow draw (moves ++ moves') ∧
        (.rotate ∉ after → .rotate ∉ moves')) ∧
      ∀ before t, (startIn resolution period engine).follow draw before = t →
        (t.Rotates draw →
          period ≤ t.now ∧ (t.move draw .poll).engine.epoch = t.engine.epoch + 1) ∧
        (∀ between, t.Rotates draw → (t.follow draw (.poll :: between)).Rotates draw →
          t.now + period ≤ (t.follow draw (.poll :: between)).now + 5 * resolution) ∧
        ∀ after peer, .rotate ∉ after →
          (t.follow draw after).now + 5 * resolution < t.now + period →
          (t.follow draw after).engine.verify (t.engine.currentCookie peer) peer = true := by
  constructor
  . intro before after
    obtain ⟨moves, _, hbefore, hintime⟩ :=
      run_eq_follow draw (inTime_startIn resolution period engine) before
    obtain ⟨moves', halone, hafter, _⟩ := run_eq_follow draw hintime after
    refine ⟨moves, moves', hbefore, ?_, halone⟩
    rw [follow_append, ← hbefore, ← hafter]
    exact List.foldl_append
  . rintro before t rfl
    have hrests : ((startIn resolution period engine).follow draw before).Rests period
        (5 * resolution) period :=
      (rests_startIn resolution period engine).follow before
    refine ⟨?_, ?_, ?_⟩
    . intro hrotates
      obtain ⟨hdue, hrotated, _⟩ := hrests.of_rotates hrotates
      exact ⟨hdue, by rw [hrotated]; rfl⟩
    . intro between hrotates hrotates'
      exact hrests.add_period_le hrotates between hrotates'
    . intro after peer halone hsoon
      rcases hrests.follow_cases halone with hsame | ⟨⟨drawn, honce⟩, _⟩ | hlate
      . rw [hsame, Engine.verify_iff]
        exact Or.inl rfl
      . rw [honce]
        apply Engine.verify_rotate_currentCookie
      . omega

def drawSecond : Nat → SecretKey := fun _ => .uniform 2

def stalled : RotationTask := (start 64000 default).follow drawSecond [.wait 192000]

theorem rotations_apart_and_verify_currentCookie_stalled
    : stalled.Rotates drawSecond ∧
      (stalled.follow drawSecond [.poll, .wait 64000]).Rotates drawSecond ∧
      64000 ≤ stalled.now ∧
      stalled.now + 64000 ≤ (stalled.follow drawSecond [.poll, .wait 64000]).now + 5 ∧
      (stalled.follow drawSecond [.poll, .wait 63994]).engine.epoch = 1 ∧
      ∀ peer,
        (stalled.follow drawSecond [.poll, .wait 63994]).engine.verify
          (stalled.engine.currentCookie peer) peer
          =
        true := by
  have hfirst : stalled.Rotates drawSecond := by
    unfold Rotates
    decide
  have hsecond : (stalled.follow drawSecond [.poll, .wait 64000]).Rotates drawSecond := by
    unfold Rotates
    decide
  obtain ⟨_, hcourse⟩ := rotations_apart_and_verify_currentCookie drawSecond 1 64000 default
  obtain ⟨hstart, hapart, hverify⟩ := hcourse [.wait 192000] stalled rfl
  refine ⟨hfirst, hsecond, (hstart hfirst).1, hapart [.wait 64000] hfirst hsecond, by decide, ?_⟩
  intro peer
  exact hverify [.poll, .wait 63994] peer (by decide) (by decide)

end RotationTask

end SourceCookie
