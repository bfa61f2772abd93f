/-!
A request to stop, and those who wait for it. The request is a flag and a wake-up call; a waiter
enrols for the next call before it looks at the flag, and sleeps only if it found the flag not set. Both
sides are taken apart into the steps that cannot be divided, so that runs may interleave them.
-/

namespace SourceCookie

inductive Waiter where
  | ready
  /-- Enrolled when so many calls had been made, and about to look at the flag. -/
  | enrolled (calls : Nat)
  /-- Has seen whether the flag is set, and is about to return if it was, or else to fall asleep. -/
  | looked (calls : Nat) (requested : Bool)
  /-- Asleep until another call is made than those made before it enrolled. -/
  | asleep (calls : Nat)
  | returned
  deriving DecidableEq

inductive Requester where
  | ready
  | flagged
  | done
  deriving DecidableEq

structure Shutdown where
  requested : Bool
  calls : Nat
  requesters : List Requester
  waiters : List Waiter
  deriving DecidableEq

inductive Shutdown.Move where
  | requester (i : Nat)
  | waiter (i : Nat)
  deriving DecidableEq

namespace Waiter

def isWoken (calls : Nat) : Waiter → Bool
  | asleep enrolledAt => enrolledAt < calls
  | _ => false

def step (requested : Bool) (calls : Nat) : Waiter → Waiter
  | ready => enrolled calls
  | enrolled enrolledAt => looked enrolledAt requested
  | looked enrolledAt seen => if seen then returned else asleep enrolledAt
  | asleep enrolledAt => if enrolledAt < calls then ready else asleep enrolledAt
  | returned => returned

end Waiter

namespace Shutdown

def start (requesters waiters : Nat) : Shutdown where
  requested := false
  calls := 0
  requesters := List.replicate requesters .ready
  waiters := List.replicate waiters .ready

def stepRequester (s : Shutdown) (i : Nat) : Shutdown :=
  match s.requesters[i]? with
  | some .ready => { s with requested := true, requesters := s.requesters.set i .flagged }
  | some .flagged => { s with calls := s.calls + 1, requesters := s.requesters.set i .done }
  | _ => s

def stepWaiter (s : Shutdown) (i : Nat) : Shutdown :=
  { s with waiters := s.waiters.modify i (·.step s.requested s.calls) }

def step (s : Shutdown) : Move → Shutdown
  | .requester i => s.stepRequester i
  | .waiter i => s.stepWaiter i

def run (s : Shutdown) (moves : List Move) : Shutdown :=
  moves.foldl step s

end Shutdown

end SourceCookie
