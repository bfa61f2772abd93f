import SourceCookie.Proofs.Host
import SourceCookie.Proofs.Message

/-!
What a node finds out over a run. Its findings are the disowned cookies of its own, in the order in which
they came in; which cookies are its own changes with each rotation, and depends on nothing else.
-/

namespace SourceCookie

def Hex.digits : List Char := "0123456789abcdef".toList

namespace Hex

theorem digitChar_mem_digits {n : Nat} (h : n < 16) : Nat.digitChar n ∈ digits := by
  have hall : ∀ i : Fin 16, Nat.digitChar i ∈ digits := by decide
  exact hall ⟨n, h⟩

theorem mem_digits_of_mem_encode {bytes : List UInt8} {c : Char} (hmem : c ∈ encode bytes)
    : c ∈ digits := by
  obtain ⟨b, _, hbyte⟩ := List.mem_flatMap.1 hmem
  have hlt := b.toNat_lt
  unfold encodeByte at hbyte
  rcases List.mem_pair.1 hbyte with rfl | rfl
  . apply digitChar_mem_digits
    omega
  . apply digitChar_mem_digits
    omega

end Hex

namespace Engine

def after (e : Engine) (o : Occasion) : Engine :=
  match o.operation with
  | .rotate drawn => e.rotate drawn
  | _ => e

def disownings (e : Engine) : List Occasion → List (Ipv6 × Cookie)
  | [] => []
  | o :: os => (e.disowned? o).toList ++ (e.after o).disownings os

@[simp]
theorem disownings_nil (e : Engine) : e.disownings [] = [] := rfl

theorem disownings_cons (e : Engine) (o : Occasion) (os : List Occasion)
    : e.disownings (o :: os) = (e.disowned? o).toList ++ (e.after o).disownings os :=
  rfl

end Engine

open Effect

namespace Node

variable {n : Node} {m : Message} {bytes : List UInt8} {source : Ipv6}

theorem engine_next (n : Node) (o : Occasion) : (n.next o).engine = n.engine.after o := n.engine_step o

theorem report_next (n : Node) (o : Occasion) : (n.next o).report = n.report := by
  unfold report
  rw [id_next]

theorem published_eq (n : Node) (os : List Occasion)
    : n.published os = (n.engine.disownings os).map n.report := by
  induction os generalizing n with
  | nil => rfl
  | cons o os ih =>
    rw [published_cons, findings_step, ih, engine_next, report_next, Engine.disownings_cons,
      List.map_append, Option.toList_map]

theorem handleDatagram_notExpected (hdecode : Message.decode bytes = .ok m) (hcode : m.code = .notExpected)
    (link : Link) (now : Timestamp)
    : (n.handleDatagram link source bytes now).answer
        =
      (if m.echoed = .compute n.engine.current source ∨ m.echoed = .compute n.engine.previous source then
        .spoofDetected
      else .discardedForged) ∧
      (n.handleDatagram link source bytes now).node.engine = n.engine ∧
      (n.handleDatagram link source bytes now).node.cache = n.cache ∧
      sent (n.handleDatagram link source bytes now).effects = [] := by
  have hsent : sent (n.handleDatagram link source bytes now).effects = [] := by
    unfold handleDatagram
    simp only [hdecode, sent_handle, hcode, reduceCtorEq, false_and, ↓reduceIte]
  refine ⟨?_, ?_, ?_, hsent⟩
  all_goals
    unfold handleDatagram handle handleNotExpected
    simp only [hdecode, hcode, Engine.verify_iff]
    split <;> rfl

end Node

namespace Host

theorem published_run_eq_and_handleDatagram_notExpected
    : (∀ (h : Host) (os : List Occasion),
        (h.run os).findings.published
          =
        h.findings.published ++ (h.node.engine.disownings os).map fun (sender, cookie) =>
          (h.node.id, .spoofDetected sender cookie.render)) ∧
      (∀ cookie : Cookie,
        cookie.render.length = 24 ∧ (∀ c ∈ cookie.render.toList, c ∈ Hex.digits) ∧
        Hex.decode? cookie.render.toList = some cookie.bytes ∧
        ∀ cookie' : Cookie, cookie'.render = cookie.render → cookie' = cookie) ∧
      (∀ (n : Node) (link : Link) (source : Ipv6) (bytes : List UInt8) (now : Timestamp) (m : Message),
        Message.decode bytes = .ok m → m.code = .notExpected →
        (n.handleDatagram link source bytes now).answer
          =
        (if m.echoed = .compute n.engine.current source ∨ m.echoed = .compute n.engine.previous source then
          .spoofDetected
        else .discardedForged) ∧
        (n.handleDatagram link source bytes now).node.engine = n.engine ∧
        (n.handleDatagram link source bytes now).node.cache = n.cache ∧
        sent (n.handleDatagram link source bytes now).effects = []) := by
  refine ⟨?_, ?_, ?_⟩
  . intro h os
    rw [published_run, Node.published_eq]
    rfl
  . intro cookie
    have hdigits : cookie.render.toList = Hex.encode cookie.bytes := by simp [Cookie.render]
    refine ⟨cookie.length_render, ?_, ?_, fun _ => Cookie.render_injective⟩
    . intro c hc
      rw [hdigits] at hc
      exact Hex.mem_digits_of_mem_encode hc
    . rw [hdigits, Hex.decode?_encode]
  . intro n link source bytes now m hdecode hcode
    exact Node.handleDatagram_notExpected hdecode hcode link now

def lateDisowning (peer : Ipv6) : List Occasion := [
  ⟨0, .up, .rotate (.uniform 3)⟩,
  ⟨1, .up, .handleDatagram peer (Message.notExpected (.compute (.uniform 1) peer)).encode⟩]

theorem disownings_lateDisowning (e : Engine) (peer : Ipv6) (hcurrent : e.current = .uniform 1)
    : e.disownings (lateDisowning peer) = [(peer, .compute (.uniform 1) peer)] := by
  have hdisowned : (e.rotate (.uniform 3)).disowned?
        ⟨1, .up, .handleDatagram peer (Message.notExpected (.compute (.uniform 1) peer)).encode⟩
      =
    some (peer, .compute (.uniform 1) peer) := by
    rw [Engine.disowned?_eq_some_iff]
    refine ⟨_, _, rfl, Message.decode_encode_notExpected _, rfl, ?_, rfl⟩
    rw [Engine.verify_iff]
    apply Or.inr
    rw [← hcurrent]
    rfl
  unfold lateDisowning
  rw [Engine.disownings_cons, Engine.disownings_cons, Engine.disownings_nil]
  simp only [Engine.after, hdisowned]
  rfl

theorem published_run_eq_and_handleDatagram_notExpected_late
    : Message.decode (Message.notExpected (.compute (.uniform 1) (.ofGroups [1]))).encode
        =
      .ok (.notExpected (.compute (.uniform 1) (.ofGroups [1]))) ∧
      (Host.run (.start (.create default {} ⟨.uniform 1, .uniform 2, 0⟩) .up 8)
          (lateDisowning (.ofGroups [1]))).findings.published
        =
      [(default, .spoofDetected (.ofGroups [1]) (Cookie.compute (.uniform 1) (.ofGroups [1])).render)] ∧
      (Node.handleDatagram (.create default {} ⟨.uniform 3, .uniform 1, 1⟩) .up (.ofGroups [1])
          (Message.notExpected (.compute (.uniform 1) (.ofGroups [1]))).encode 1).answer
        =
      .spoofDetected := by
  have hdecode := Message.decode_encode_notExpected (.compute (.uniform 1) (.ofGroups [1]))
  obtain ⟨hpublished, _, hjudged⟩ := published_run_eq_and_handleDatagram_notExpected
  refine ⟨hdecode, ?_, ?_⟩
  . rw [hpublished]
    have hdisownings := disownings_lateDisowning ⟨.uniform 1, .uniform 2, 0⟩ (.ofGroups [1]) rfl
    show [] ++ List.map _ (Engine.disownings ⟨.uniform 1, .uniform 2, 0⟩ _) = _
    rw [hdisownings, List.nil_append, List.map_singleton]
    rfl
  . rw [(hjudged _ _ _ _ _ _ hdecode rfl).1]
    exact if_pos (Or.inr rfl)

end Host

end SourceCookie
