import SourceCookie.Proofs.Host
import SourceCookie.Proofs.Quota

/-!
What a node logs about forged messages. It judges a disowning message by its keys and asks its quota for
each one that it does not believe, so a flood of them leads to as many log lines as the quota admits.
-/

namespace SourceCookie

namespace Effect

def warnings (effects : List Effect) : List Log.Record :=
  (records effects).filter (·.target = daemonTarget)

variable {effects effects' : List Effect}

@[simp]
theorem warnings_nil : warnings [] = [] := rfl

@[simp]
theorem warnings_append : warnings (effects ++ effects') = warnings effects ++ warnings effects' := by
  unfold warnings records
  rw [List.filterMap_append, List.filter_append]

@[simp]
theorem warnings_count (counter : Counter) : warnings (.count counter :: effects) = warnings effects := rfl

@[simp]
theorem warnings_transmit (link : Link) (destination : Ipv6) (m : Message)
    : warnings (link.transmit destination m).2 = [] := by
  cases link <;> rfl

@[simp]
theorem warnings_transition (t : Transition) (peer : Ipv6) (lifetime : Lifetime)
    : warnings (t.effects peer lifetime) = [] := by
  cases t <;> rfl

@[simp]
theorem warnings_finding (id : Uuid) (finding : Finding) : warnings (finding.effects id) = [] := by
  cases finding
  rfl

end Effect

open Effect

namespace Node

def charge? (n : Node) (o : Occasion) : Option Quota.Moment :=
  match o.operation with
  | .handleDatagram source bytes =>
    match Message.decode bytes with
    | .ok m => if m.code = .notExpected ∧ n.engine.verify m.echoed source = false then some .use else none
    | .error _ => none
  | .elapse nanoseconds => some (.elapse nanoseconds)
  | _ => none

def charges (n : Node) : List Occasion → List Quota.Moment
  | [] => []
  | o :: os => (n.charge? o).toList ++ (n.next o).charges os

def warned (n : Node) (os : List Occasion) : List Log.Record :=
  (n.trace os).flatMap fun s => warnings s.effects

def elapsed : List Occasion → Nat
  | [] => 0
  | ⟨_, _, .elapse nanoseconds⟩ :: os => nanoseconds + elapsed os
  | _ :: os => elapsed os

@[simp]
theorem warnings_tableUse (n : Node) : warnings n.tableUse = [] := by
  unfold tableUse
  split <;> rfl

@[simp]
theorem warnings_sendOffer (n : Node) (link : Link) (source : Ipv6) (cookie : Cookie)
    : warnings (n.sendOffer link source cookie) = [] := by
  cases link <;> rfl

theorem warnings_prepare (n : Node) (peer : Ipv6) (now : Timestamp)
    : warnings (n.prepare peer now).effects = [] := by
  unfold prepare
  split <;> simp

theorem warnings_inspect (n : Node) (link : Link) (source : Ipv6) (shown : Option Cookie)
    : warnings (n.inspect link source shown).2 = [] := by
  unfold inspect
  split
  . simp
  . split <;> simp

theorem forgedReports_prepare (n : Node) (peer : Ipv6) (now : Timestamp)
    : (n.prepare peer now).node.forgedReports = n.forgedReports := by
  unfold prepare
  split <;> rfl

theorem forgedReports_and_warnings_handle (n : Node) (link : Link) (source : Ipv6) (m : Message)
    (now : Timestamp)
    : if m.code = .notExpected ∧ n.engine.verify m.echoed source = false then
        (n.handle link source m now).node.forgedReports = n.forgedReports.use.2 ∧
          (warnings (n.handle link source m now).effects).length = n.forgedReports.use.1.toNat
      else
        (n.handle link source m now).node.forgedReports = n.forgedReports ∧
          warnings (n.handle link source m now).effects = [] := by
  unfold handle
  cases hcode : m.code with
  | setCookie =>
    unfold handleSetCookie
    cases hlookup : n.cache.lookup? source with
    | none => simp
    | some e =>
      simp only [reduceCtorEq, false_and, ↓reduceIte]
      split <;> simp
  | notExpected =>
    unfold handleNotExpected
    cases hverify : n.engine.verify m.echoed source with
    | true => simp
    | false =>
      cases hadmitted : n.forgedReports.use.1 with
      | true =>
        simp [hadmitted]
        rfl
      | false =>
        simp [hadmitted]

theorem forgedReports_and_warnings_step (n : Node) (o : Occasion)
    : match n.charge? o with
      | some m =>
        (n.next o).forgedReports = n.forgedReports.next m ∧
          (warnings (n.step o).effects).length = n.forgedReports.admits m
      | none => (n.next o).forgedReports = n.forgedReports ∧ warnings (n.step o).effects = [] := by
  obtain ⟨now, link, operation⟩ := o
  cases operation with
  | prepare peer => exact ⟨n.forgedReports_prepare peer now, n.warnings_prepare peer now⟩
  | inspect source shown => exact ⟨rfl, n.warnings_inspect link source shown⟩
  | handleDatagram source bytes =>
    simp only [charge?, next, step, handleDatagram]
    cases Message.decode bytes with
    | error => exact ⟨rfl, rfl⟩
    | ok m =>
      have hhandle := n.forgedReports_and_warnings_handle link source m now
      split at hhandle
      . next hforged =>
        simp only [if_pos hforged]
        exact hhandle
      . next hbelieved =>
        simp only [if_neg hbelieved]
        exact hhandle
  | rotate drawn => exact ⟨rfl, rfl⟩
  | elapse nanoseconds => exact ⟨rfl, rfl⟩

theorem warned_cons (n : Node) (o : Occasion) (os : List Occasion)
    : n.warned (o :: os) = warnings (n.step o).effects ++ (n.next o).warned os := by
  unfold warned
  rw [trace_cons, List.flatMap_cons]

theorem length_warned (n : Node) (os : List Occasion)
    : (n.warned os).length = n.forgedReports.admitted (n.charges os) := by
  induction os generalizing n with
  | nil => rfl
  | cons o os ih =>
    have hstep := n.forgedReports_and_warnings_step o
    rw [warned_cons, List.length_append, ih, charges]
    cases hcharge : n.charge? o with
    | some m =>
      rw [hcharge] at hstep
      rw [hstep.1, hstep.2]
      rfl
    | none =>
      rw [hcharge] at hstep
      rw [hstep.1, hstep.2, List.length_nil, Nat.zero_add]
      rfl

theorem elapsed_charges (n : Node) (os : List Occasion) : Quota.elapsed (n.charges os) = elapsed os := by
  induction os generalizing n with
  | nil => rfl
  | cons o os ih =>
    obtain ⟨now, link, operation⟩ := o
    have hrest := ih (n.next ⟨now, link, operation⟩)
    unfold charges charge?
    cases operation with
    | handleDatagram source bytes =>
      simp only [elapsed, ← hrest]
      split
      . split <;> simp [Quota.elapsed, Quota.Moment.time]
      . simp
    | elapse nanoseconds => exact congrArg (nanoseconds + ·) hrest
    | _ => exact hrest

/-- However many forged messages come, a node logs no more of them than the configured number at once, and
one more for each such part of a minute that goes by. -/
theorem length_warned_le (id : Uuid) (c : Config) (engine : Engine) (os : List Occasion)
    : ((create id c engine).warned os).length *
          (Quota.minute / max c.daemon.forgedLogPerMinute.toNat 1)
        ≤
      Quota.minute + elapsed os := by
  have hadmitted := Quota.admitted_perMinute_le ((create id c engine).charges os)
    (max c.daemon.forgedLogPerMinute.toNat 1)
  have hburst := Nat.mul_div_le Quota.minute (max c.daemon.forgedLogPerMinute.toNat 1)
  rw [elapsed_charges] at hadmitted
  rw [length_warned]
  exact Nat.le_trans hadmitted (Nat.add_le_add_right hburst _)

end Node

end SourceCookie
