import SourceCookie.Node.ReceiveLoop
import SourceCookie.Proofs.Node.Findings

/-!
The loop over control messages does what handling does of the datagrams that the source gave before the loop
saw the request to stop, once each and in order. Failures and empty answers of the source neither change
anything nor end the loop, and what the source would have answered later has no bearing on it.
-/

namespace SourceCookie

open Effect

def Reception.occasion? (r : Reception) (link : Link) : Option Occasion :=
  match r.received with
  | .datagram source bytes => some ⟨r.now, link, .handleDatagram source bytes⟩
  | .nothing | .failure _ => none

/--
The answers for which the source is asked. The loop looks for the request once before each of them, so
there are as many as there are looks before the first one that finds it made.
-/
def Reception.asked (stopRequested : Bool) (script : List Reception) : List Reception :=
  script.take ((stopRequested :: script.map Reception.stopRequested).idxOf true)

open Reception

variable {stopRequested : Bool} {script : List Reception} {r : Reception} {link : Link}

section Asked

@[simp]
theorem Reception.asked_true (script : List Reception) : asked true script = [] := by
  simp [asked]

@[simp]
theorem Reception.asked_nil (stopRequested : Bool) : asked stopRequested [] = [] := by
  simp [asked]

@[simp]
theorem Reception.asked_false_cons (r : Reception) (script : List Reception)
    : asked false (r :: script) = r :: asked r.stopRequested script := by
  simp [asked, List.idxOf_cons]

theorem Reception.asked_of_split {before after : List Reception} (r : Reception)
    (hbefore : ∀ q ∈ before, q.stopRequested = false)
    : asked false (before ++ r :: after) = before ++ r :: asked r.stopRequested after := by
  induction before with
  | nil => simp
  | cons q before ih =>
    obtain ⟨hq, hbefore⟩ := List.forall_mem_cons.1 hbefore
    simp [hq, ih hbefore]

end Asked

theorem Host.perform_perform (h : Host) (node node' : Node) (effects effects' : List Effect)
    : (h.perform node effects).perform node' effects' = h.perform node' (effects ++ effects') := by
  simp [Host.perform]

namespace Node

def counted (n : Node) (os : List Occasion) : List Counter :=
  (n.trace os).flatMap fun s => counters s.effects

theorem counters_append (effects effects' : List Effect)
    : counters (effects ++ effects') = counters effects ++ counters effects' := by
  unfold counters
  apply List.filterMap_append

theorem counted_cons (n : Node) (o : Occasion) (os : List Occasion)
    : n.counted (o :: os) = counters (n.step o).effects ++ (n.next o).counted os := by
  unfold counted
  rw [trace_cons, List.flatMap_cons]

theorem receive_of_occasion?_eq_some {o : Occasion} (n : Node) (h : r.occasion? link = some o)
    : n.receive link r = (n.next o, (n.step o).effects) := by
  unfold occasion? at h
  split at h
  . next source bytes hreceived =>
    rw [Option.some_inj] at h
    rw [← h, receive, hreceived]
    rfl
  . contradiction
  . contradiction

theorem receive_of_occasion?_eq_none (n : Node) (h : r.occasion? link = none)
    : (n.receive link r).1 = n ∧ sent (n.receive link r).2 = [] ∧ findings (n.receive link r).2 = [] ∧
      counters (n.receive link r).2 = [] := by
  unfold receive
  cases hreceived : r.received with
  | datagram source bytes =>
    rw [occasion?, hreceived] at h
    contradiction
  | nothing => exact ⟨rfl, rfl, rfl, rfl⟩
  | failure error => exact ⟨rfl, rfl, rfl, rfl⟩

section Loop

@[simp]
theorem receiveUntilStopped_true (n : Node) (link : Link) (script : List Reception)
    : n.receiveUntilStopped link true script = ⟨n, [], script, true⟩ := by
  cases script <;> rfl

theorem receiveUntilStopped_cons (n : Node) (link : Link) (r : Reception) (script : List Reception)
    : n.receiveUntilStopped link false (r :: script)
        =
      { (n.receive link r).1.receiveUntilStopped link r.stopRequested script with
        effects := (n.receive link r).2 ++
          ((n.receive link r).1.receiveUntilStopped link r.stopRequested script).effects } :=
  rfl

theorem stopped_receiveUntilStopped (n : Node) (link : Link)
    : (n.receiveUntilStopped link stopRequested script).stopped
        =
      (stopRequested || script.any Reception.stopRequested) := by
  induction script generalizing n stopRequested with
  | nil => cases stopRequested <;> rfl
  | cons r script ih =>
    cases stopRequested with
    | true => simp
    | false => rw [receiveUntilStopped_cons, ih, List.any_cons, Bool.false_or]

theorem asked_append_rest (n : Node) (link : Link)
    : asked stopRequested script ++ (n.receiveUntilStopped link stopRequested script).rest = script := by
  induction script generalizing n stopRequested with
  | nil => cases stopRequested <;> rfl
  | cons r script ih =>
    cases stopRequested with
    | true => simp
    | false => rw [receiveUntilStopped_cons, asked_false_cons, List.cons_append, ih]

theorem receiveUntilStopped_append (n : Node) (link : Link) (later : List Reception)
    (h : (n.receiveUntilStopped link stopRequested script).stopped = true)
    : n.receiveUntilStopped link stopRequested (asked stopRequested script ++ later)
        =
      { n.receiveUntilStopped link stopRequested script with rest := later } := by
  induction script generalizing n stopRequested with
  | nil =>
    cases stopRequested with
    | true => simp
    | false => contradiction
  | cons r script ih =>
    -- the loop reads on just as long as it did
    cases stopRequested with
    | true => simp
    | false =>
      rw [receiveUntilStopped_cons] at h
      rw [asked_false_cons, List.cons_append, receiveUntilStopped_cons, receiveUntilStopped_cons, ih _ h]

theorem counters_receiveUntilStopped (n : Node) (link : Link)
    : counters (n.receiveUntilStopped link stopRequested script).effects
        =
      n.counted ((asked stopRequested script).filterMap (occasion? · link)) := by
  induction script generalizing n stopRequested with
  | nil => cases stopRequested <;> rfl
  | cons r script ih =>
    cases stopRequested with
    | true =>
      rw [receiveUntilStopped_true, asked_true]
      rfl
    | false =>
      rw [receiveUntilStopped_cons, asked_false_cons, List.filterMap_cons]
      show counters ((n.receive link r).2 ++ _) = _
      rw [counters_append, ih]
      cases hr : r.occasion? link with
      | some o => rw [n.receive_of_occasion?_eq_some hr, counted_cons]
      | none =>
        obtain ⟨hnode, _, _, hcounters⟩ := n.receive_of_occasion?_eq_none hr
        rw [hnode, hcounters, List.nil_append]

end Loop

end Node

namespace Host

theorem perform_receive (h : Host) (link : Link) (r : Reception)
    : h.perform (h.node.receive link r).1 (h.node.receive link r).2 = h.run (r.occasion? link).toList := by
  cases hr : r.occasion? link with
  | some o =>
    rw [h.node.receive_of_occasion?_eq_some hr]
    rfl
  | none =>
    obtain ⟨hnode, hsent, hfindings, _⟩ := h.node.receive_of_occasion?_eq_none hr
    simp [perform, run, hnode, hsent, hfindings]

theorem perform_receiveUntilStopped (h : Host) (link : Link)
    : h.perform (h.node.receiveUntilStopped link stopRequested script).node
        (h.node.receiveUntilStopped link stopRequested script).effects
        =
      h.run ((asked stopRequested script).filterMap (occasion? · link)) := by
  induction script generalizing h stopRequested with
  | nil => cases stopRequested <;> simp [Node.receiveUntilStopped, perform, run]
  | cons r script ih =>
    cases stopRequested with
    | true => simp [perform, run]
    | false =>
      rw [Node.receiveUntilStopped_cons, asked_false_cons]
      -- the rest of the loop starts from the host after the first answer
      have hrest := @ih r.stopRequested (h.perform (h.node.receive link r).1 (h.node.receive link r).2)
      rw [perform_perform] at hrest
      refine hrest.trans ?_
      rw [perform_receive]
      cases hr : r.occasion? link with
      | some o => simp [hr, run]
      | none => simp [hr, run]

theorem perform_receiveLoop (h : Host) (n node : Node) (link : Link) (stopRequested : Bool)
    (script : List Reception)
    : h.perform node (n.receiveLoop link stopRequested script).effects
        =
      h.perform node (n.receiveUntilStopped link stopRequested script).effects ∧
      counters (n.receiveLoop link stopRequested script).effects
        =
      counters (n.receiveUntilStopped link stopRequested script).effects := by
  unfold Node.receiveLoop
  by_cases hstopped : (n.receiveUntilStopped link stopRequested script).stopped = true
  . simp [hstopped, perform, Node.loopRecord, counters]
  . simp [hstopped, perform, Node.loopRecord, counters]

theorem perform_receiveLoop_eq_run_and_asked_append_rest (h : Host) (link : Link) (stopRequested : Bool)
    (script : List Reception)
    : let loop := h.node.receiveLoop link stopRequested script
      h.perform loop.node loop.effects = h.run ((asked stopRequested script).filterMap (occasion? · link)) ∧
      counters loop.effects = h.node.counted ((asked stopRequested script).filterMap (occasion? · link)) ∧
      asked stopRequested script ++ loop.rest = script ∧
      (∀ before r after, script = before ++ r :: after → stopRequested = false →
        (∀ q ∈ before, q.stopRequested = false) → r.stopRequested = true →
        asked stopRequested script = before ++ [r]) ∧
      (loop.stopped = true ↔ stopRequested = true ∨ ∃ r ∈ script, r.stopRequested = true) ∧
      (loop.stopped = true → ∀ later,
        h.node.receiveLoop link stopRequested (asked stopRequested script ++ later)
          =
        { loop with rest := later }) := by
  obtain ⟨hperform, hcounters⟩ :=
    h.perform_receiveLoop h.node (h.node.receiveUntilStopped link stopRequested script).node link
      stopRequested script
  refine ⟨hperform.trans (h.perform_receiveUntilStopped link),
    hcounters.trans (h.node.counters_receiveUntilStopped link), h.node.asked_append_rest link, ?_, ?_, ?_⟩
  . rintro before r after rfl rfl hbefore hr
    rw [asked_of_split r hbefore, hr, asked_true]
  . show (h.node.receiveUntilStopped link stopRequested script).stopped = true ↔ _
    rw [Node.stopped_receiveUntilStopped]
    simp
  . intro hstopped later
    unfold Node.receiveLoop
    rw [h.node.receiveUntilStopped_append link later hstopped]

def stoppedScript (peer : Ipv6) : List Reception :=
  let disowning := (Message.notExpected (.compute (.uniform 1) peer)).encode
  [⟨.failure (.transport "no buffer space"), 1, false⟩, ⟨.datagram peer [0x42], 2, false⟩,
    ⟨.nothing, 3, false⟩, ⟨.datagram peer disowning, 4, true⟩, ⟨.datagram peer disowning, 5, true⟩]

theorem published_run_stoppedScript (h : Host) (peer : Ipv6) (hcurrent : h.node.engine.current = .uniform 1)
    : (h.run ((asked false (stoppedScript peer)).filterMap (occasion? · .up))).findings.published
        =
      h.findings.published ++ [(h.node.id, .spoofDetected peer (Cookie.compute (.uniform 1) peer).render)] := by
  have hdisowned : h.node.engine.disowned?
        ⟨4, .up, .handleDatagram peer (Message.notExpected (.compute (.uniform 1) peer)).encode⟩
      =
    some (peer, .compute (.uniform 1) peer) := by
    rw [Engine.disowned?_eq_some_iff]
    refine ⟨_, _, rfl, Message.decode_encode_notExpected _, rfl, ?_, rfl⟩
    rw [Engine.verify_iff, ← hcurrent]
    exact Or.inl rfl
  rw [published_run, Node.published_eq]
  show _ ++ List.map _ (_ ++ ((h.node.engine.disowned? _).toList ++ [])) = _
  rw [hdisowned]
  rfl

theorem perform_receiveLoop_eq_run_and_asked_append_rest_stopped
    : let h : Host := .start (.create default {} ⟨.uniform 1, .uniform 2, 0⟩) .up 8
      let peer : Ipv6 := .ofGroups [1]
      let loop := h.node.receiveLoop .up false (stoppedScript peer)
      loop.stopped = true ∧ loop.rest = (stoppedScript peer).drop 4 ∧
      (h.perform loop.node loop.effects).findings.published
        =
      [(default, .spoofDetected peer (Cookie.compute (.uniform 1) peer).render)] ∧
      h.node.receiveLoop .up false ((stoppedScript peer).take 4) = { loop with rest := [] } := by
  intro h peer loop
  obtain ⟨hperform, _, hrest, _, hstops, hlater⟩ :=
    h.perform_receiveLoop_eq_run_and_asked_append_rest .up false (stoppedScript peer)
  have hstopped : loop.stopped = true := hstops.2 (Or.inr ⟨_, List.mem_of_getElem? (i := 3) rfl, rfl⟩)
  refine ⟨hstopped, List.append_cancel_left hrest, ?_, hlater hstopped []⟩
  exact (congrArg (fun h => h.findings.published) hperform).trans (h.published_run_stoppedScript peer rfl)

end Host

end SourceCookie
