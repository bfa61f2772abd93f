import SourceCookie.Entry

/-!
Renewal and fallback. Before each datagram the sender asks how long ago the peer's entry was last
refreshed, relative to its lifetime and to the time allowed for an answer:

    mtime            mtime + 2^lt         mtime + 2^lt + recover
      |---stillValid----|----renewTime--------|----pastRenewTime---->

An entry that attaches cookies first arms the renewal and then, if no new cookie comes, falls back to
sending without; an entry in fallback tries cookies again when its fallback period is over.
-/

namespace SourceCookie

inductive Band where
  | stillValid
  | renewTime
  | pastRenewTime
  deriving DecidableEq

structure Timing where
  recover : UInt64
  fallbackLog2 : UInt8
  retryLog2 : UInt8
  deriving DecidableEq

inductive Transition where
  | created (cookiesDisabled : Bool)
  | unchanged
  | retryCookies
  | renewalArmed
  | fallbackEntered
  deriving DecidableEq

inductive Outbound where
  | plain
  | withCookie (cookie : Cookie)
  deriving DecidableEq

namespace Entry

def band (e : Entry) (now : Timestamp) (recover : UInt64) : Band :=
  match e.lifetime.seconds? with
  | none => .stillValid
  | some seconds =>
    let renewAt := e.mtime.later seconds
    if now < renewAt then .stillValid
    else if now < renewAt.later recover.toNat then .renewTime
    else .pastRenewTime

def evaluate (e : Entry) (now : Timestamp) (timing : Timing) : Transition × Entry :=
  match e.band now timing.recover, e.disableCookies, e.expectingSetCookie with
  | .stillValid, _, _ => (.unchanged, e)
  | _, true, _ => (.retryCookies, ((e.setDisable false).touch now).setLifetime timing.retryLog2)
  | .renewTime, false, true => (.unchanged, e)
  | .pastRenewTime, false, true =>
    (.fallbackEntered, ((e.setDisable true).touch now).setLifetime timing.fallbackLog2)
  | _, false, false => (.renewalArmed, (e.setExpecting true).backdate now)

def outbound (e : Entry) : Outbound :=
  if e.disableCookies then .plain else .withCookie e.cookie

end Entry

end SourceCookie
