import SourceCookie.Proofs.Node.Effects

/-!
Which datagrams a node takes over a run, and what it answers. All keys that it has held form one list, in
which the epoch tells its place: the key of the epoch and the one before it decide, and nothing else that
has happened to the node does.
-/

namespace SourceCookie

def Occasion.drawn? (o : Occasion) : Option SecretKey :=
  match o.operation with
  | .rotate drawn => some drawn
  | _ => none

namespace Engine

/-- The keys that an engine has held when it has been rotated to `drawn`, one after another: the key of an
epoch comes right after that of the epoch before it, and the first one is of no epoch. -/
def keys (e : Engine) (drawn : List SecretKey) : List SecretKey := e.previous :: e.current :: drawn

variable {e : Engine} {drawn : List SecretKey}

theorem epoch_rotateAll (e : Engine) (drawn : List SecretKey)
    : (e.rotateAll drawn).epoch = e.epoch + drawn.length := by
  have hepoch := epoch_inEpoch (e := e) (Nat.le_refl drawn.length)
  unfold inEpoch at hepoch
  rw [List.take_length] at hepoch
  exact hepoch

theorem getElem?_keys (e : Engine) (drawn : List SecretKey)
    : (e.keys drawn)[drawn.length]? = some (e.rotateAll drawn).previous ∧
      (e.keys drawn)[drawn.length + 1]? = some (e.rotateAll drawn).current := by
  induction drawn generalizing e with
  | nil => exact ⟨rfl, rfl⟩
  | cons key drawn ih => exact ih (e.rotate key)

end Engine

open Effect

namespace Node

variable {n : Node} {link : Link} {source : Ipv6} {cookie : Cookie}

theorem verdict_inspect (n : Node) (link : Link) (source : Ipv6) (cookie : Cookie)
    : (n.inspect link source (some cookie)).1
        =
      if cookie = .compute n.engine.current source ∨ cookie = .compute n.engine.previous source then .accept
      else .reject := by
  simp only [← Engine.verify_iff]
  unfold inspect Engine.verify
  simp only
  cases n.engine.check cookie source <;> rfl

theorem inspect_eq_accept_iff
    : (n.inspect link source (some cookie)).1 = .accept
        ↔
      cookie = .compute n.engine.current source ∨ cookie = .compute n.engine.previous source := by
  rw [verdict_inspect]
  split
  . next hvalid => simp [hvalid]
  . next hinvalid => simp [hinvalid]

theorem inspect_none_eq_accept_iff
    : (n.inspect link source none).1 = .accept ↔ n.settings.unmarked = .pass := by
  unfold inspect UnmarkedPolicy.verdict
  cases n.settings.unmarked <;> simp

theorem inspect_eq_nil_iff
    : sent (n.inspect .up source (some cookie)).2 = []
        ↔
      cookie = .compute n.engine.current source := by
  rw [sent_inspect]
  unfold Engine.currentCookie
  split
  . next hcurrent => simp [hcurrent]
  . next hcurrent => simp [Link.carry, Ne.symm hcurrent]

theorem sent_inspect_of_ne (hcookie : cookie ≠ .compute n.engine.current source)
    : sent (n.inspect link source (some cookie)).2
        =
      link.carry source ⟨.setCookie, n.settings.offeredLog2 &&& Message.lifetimeMask, cookie,
        .compute n.engine.current source⟩ := by
  rw [sent_inspect]
  exact if_neg (Ne.symm hcookie)

def drawings (os : List Occasion) : List SecretKey := os.filterMap Occasion.drawn?

theorem engine_run (n : Node) (os : List Occasion) : (n.run os).engine = n.engine.rotateAll (drawings os) := by
  induction os using List.reverseRecOn with
  | nil => rfl
  | append_singleton os o ih =>
    rw [run_concat]
    unfold next drawings Engine.rotateAll at *
    rw [engine_step, ih, List.filterMap_append, List.foldl_append]
    unfold Occasion.drawn?
    cases ho : o.operation <;> simp [ho]

def DrawsFresh (n : Node) (o : Occasion) : Prop :=
  ∀ drawn, o.operation = .rotate drawn → drawn ≠ n.engine.current

theorem current_ne_previous_run (hstart : n.engine.current ≠ n.engine.previous) {os : List Occasion}
    (hfresh : Along next DrawsFresh n os)
    : (n.run os).engine.current ≠ (n.run os).engine.previous := by
  induction os using List.reverseRecOn with
  | nil => exact hstart
  | append_singleton os o ih =>
    rw [along_concat, ← run_eq_foldl] at hfresh
    have hbefore := ih hfresh.1
    rw [run_concat]
    unfold next
    rw [engine_step]
    -- a rotation takes a key that was not the current one
    split
    . next drawn ho => exact hfresh.2 drawn ho
    . exact hbefore

theorem inspect_run_eq_accept_iff_and_sent_eq (id : Uuid) (c : Config) {current previous : SecretKey}
    {e : Engine} (hmade : Engine.ofKeys? current previous = some e) {os : List Occasion}
    (hfresh : Along next DrawsFresh (create id c e) os)
    : ∃ present preceding,
        (e.keys (drawings os))[((create id c e).run os).engine.epoch + 1]? = some present ∧
        (e.keys (drawings os))[((create id c e).run os).engine.epoch]? = some preceding ∧
        present ≠ preceding ∧
        ∀ source,
          (∀ link cookie,
            ((((create id c e).run os).inspect link source (some cookie)).1 = .accept
              ↔
            cookie = .compute present source ∨ cookie = .compute preceding source)) ∧
          (∀ cookie,
            (sent (((create id c e).run os).inspect .up source (some cookie)).2 = []
              ↔
            cookie = .compute present source)) ∧
          (∀ link cookie, cookie ≠ .compute present source →
            sent (((create id c e).run os).inspect link source (some cookie)).2
              =
            link.carry source ⟨.setCookie, c.protocol.setcookieLifetimeLog2 &&& 0x0f, cookie,
              .compute present source⟩) ∧
          ∀ link,
            ((((create id c e).run os).inspect link source none).1 = .accept
              ↔
            c.policy.unmarkedTraffic = .pass) ∧
            sent (((create id c e).run os).inspect link source none).2 = [] := by
  obtain ⟨hne, he⟩ := Engine.eq_of_ofKeys? hmade
  have hstart : e.current ≠ e.previous := by
    rw [he]
    exact hne
  have hengine : ((create id c e).run os).engine = e.rotateAll (drawings os) := engine_run _ os
  have hepoch : ((create id c e).run os).engine.epoch = (drawings os).length := by
    rw [hengine, Engine.epoch_rotateAll, he, Nat.zero_add]
  have hsettings : ((create id c e).run os).settings = .ofConfig c := settings_run _ os
  obtain ⟨hpreceding, hpresent⟩ := e.getElem?_keys (drawings os)
  rw [hepoch, hpreceding, hpresent, ← hengine]
  refine ⟨_, _, rfl, rfl, current_ne_previous_run hstart hfresh, ?_⟩
  intro source
  refine ⟨?_, ?_, ?_, ?_⟩
  . intro link cookie
    apply inspect_eq_accept_iff
  . intro cookie
    apply inspect_eq_nil_iff
  . intro link cookie hcookie
    rw [sent_inspect_of_ne hcookie, hsettings]
    rfl
  . intro link
    rw [inspect_none_eq_accept_iff, hsettings]
    exact ⟨Iff.rfl, rfl⟩

theorem inspect_run_eq_accept_iff_and_sent_eq_rotatedOnce
    : Engine.ofKeys? (.uniform 1) (.uniform 2) = some ⟨.uniform 1, .uniform 2, 0⟩ ∧
      Along next DrawsFresh (create default {} ⟨.uniform 1, .uniform 2, 0⟩)
        [⟨0, .up, .rotate (.uniform 3)⟩] ∧
      ∀ source cookie, cookie ≠ Cookie.compute (.uniform 3) source →
        ((((create default {} ⟨.uniform 1, .uniform 2, 0⟩).run
            [⟨0, .up, .rotate (.uniform 3)⟩]).inspect .up source (some cookie)).1 = .accept
          ↔
        cookie = .compute (.uniform 1) source) ∧
        sent (((create default {} ⟨.uniform 1, .uniform 2, 0⟩).run
            [⟨0, .up, .rotate (.uniform 3)⟩]).inspect .up source (some cookie)).2
          =
        [(source, ⟨.setCookie, 6, cookie, .compute (.uniform 3) source⟩)] := by
  have hmade : Engine.ofKeys? (.uniform 1) (.uniform 2) = some ⟨.uniform 1, .uniform 2, 0⟩ := by decide
  have hfresh : Along next DrawsFresh (create default {} ⟨.uniform 1, .uniform 2, 0⟩)
      [⟨0, .up, .rotate (.uniform 3)⟩] := by
    refine ⟨?_, trivial⟩
    intro drawn hdrawn
    injection hdrawn with hdrawn
    rw [← hdrawn]
    decide
  obtain ⟨present, preceding, hpresent, hpreceding, _, hinspect⟩ :=
    inspect_run_eq_accept_iff_and_sent_eq default {} hmade hfresh
  injection hpresent with hpresent
  injection hpreceding with hpreceding
  subst hpresent hpreceding
  refine ⟨hmade, hfresh, ?_⟩
  intro source cookie hcookie
  obtain ⟨haccepts, _, hanswers, _⟩ := hinspect source
  refine ⟨?_, hanswers .up cookie hcookie⟩
  rw [haccepts .up cookie]
  exact or_iff_right hcookie

end Node

end SourceCookie
