import SourceCookie.Node.Basic

/-!
Scheduled rotation of keys. A ticker comes due once a period; a tick that is taken late moves the
ones after it, so that a stall never makes two rotations follow each other closely, which would cut
short the time for which outgoing cookies stay good. All times are counted from the start, in units of
which there are `resolution` in a millisecond.
-/

namespace SourceCookie

def Config.rotationInterval (c : Config) : Nat := 1000 * c.rotation.intervalSeconds.toNat

/-- The longest wait of a timer, in milliseconds: thirty years. One that is set to more goes off then. -/
def timerLimit : Nat := 1000 * (30 * 365 * 86400)

def timerWait (seconds : Nat) : Nat := min (1000 * seconds) timerLimit

structure Ticker where
  period : Nat
  deadline : Nat
  /-- How much later than its deadline a tick still counts as taken in time. -/
  tolerance : Nat
  period_pos : 0 < period
  deriving DecidableEq

namespace Ticker

/-- A ticker whose first tick is taken at once. A tick is late after five milliseconds. -/
def start (resolution period now : Nat) (period_pos : 0 < period) : Ticker :=
  ⟨period, now + period, 5 * resolution, period_pos⟩

def next (t : Ticker) : Ticker :=
  { t with deadline := t.deadline + t.period }

/--
Takes the tick that is due at time `now`, if one is. A tick in time leaves the schedule as it is; after
a late one the next tick is due a whole period from now.
-/
def poll? (t : Ticker) (now : Nat) : Option Ticker :=
  if now < t.deadline then none
  else if now ≤ t.deadline + t.tolerance then some t.next
  else some { t with deadline := now + t.period }

theorem lt_deadline_next (t : Ticker) : t.deadline < t.next.deadline :=
  Nat.lt_add_of_pos_right t.period_pos

end Ticker

inductive RotationTask.Status where
  | running (ticker : Ticker)
  | finished
  | failed
  deriving DecidableEq

structure RotationTask where
  status : RotationTask.Status
  engine : Engine
  now : Nat
  stopRequested : Bool
  deriving DecidableEq

inductive RotationTask.Occurrence where
  /-- Time goes by, and the task looks at its ticker whenever a tick is due. -/
  | sleep (duration : Nat)
  /-- Time goes by, and the task looks at its ticker only at the end of it. -/
  | stall (duration : Nat)
  /-- Someone else rotates the keys. -/
  | rotate
  | stop
  deriving DecidableEq

namespace RotationTask

def startIn (resolution period : Nat) (engine : Engine) : RotationTask where
  status := if h : 0 < period then .running (.start resolution period 0 h) else .failed
  engine := engine
  now := 0
  stopRequested := false

/-- The task at its start, with times in milliseconds. -/
def start (period : Nat) (engine : Engine) : RotationTask := startIn 1 period engine

/-- Rotates the keys; the key that follows epoch `n` is `draw n`. -/
def rotate (draw : Nat → SecretKey) (t : RotationTask) : RotationTask :=
  { t with engine := t.engine.rotate (draw t.engine.epoch) }

def poll (draw : Nat → SecretKey) (t : RotationTask) (now : Nat) : RotationTask :=
  let t := { t with now }
  match t.status with
  | .running ticker =>
    match ticker.poll? now with
    | some ticker => { t.rotate draw with status := .running ticker }
    | none => t
  | _ => t

def tickUntil (draw : Nat → SecretKey) (last : Nat) (ticker : Ticker) (t : RotationTask)
    : RotationTask :=
  if ticker.deadline ≤ last then
    tickUntil draw last ticker.next (t.rotate draw)
  else { t with now := last, status := .running ticker }
termination_by last + 1 - ticker.deadline
decreasing_by
  have := ticker.lt_deadline_next
  omega

def sleep (draw : Nat → SecretKey) (t : RotationTask) (duration : Nat) : RotationTask :=
  let last := t.now + duration
  match t.status with
  | .running ticker => tickUntil draw last ticker t
  | _ => { t with now := last }

def stop (t : RotationTask) : RotationTask :=
  { t with
    stopRequested := true
    status := match t.status with
      | .running _ => .finished
      | other => other }

def step (draw : Nat → SecretKey) (t : RotationTask) : Occurrence → RotationTask
  | .sleep duration => t.sleep draw duration
  | .stall duration => t.poll draw (t.now + duration)
  | .rotate => t.rotate draw
  | .stop => t.stop

end RotationTask

end SourceCookie
