import Mathlib.Algebra.BigOperators.Group.List.Basic
import Mathlib.Algebra.GroupWithZero.Nat
import SourceCookie.Proofs.Host
import SourceCookie.Proofs.Message

/-!
Any number of nodes that send each other control messages. Handling a message may send another one, so it
has to be asked whether that ever stops. It does: an offer may be disowned, and what disowns an offer has
no answer. An offer thus stands for two deliveries at most, and any other message for one.
-/

namespace SourceCookie

structure Packet where
  source : Ipv6
  destination : Ipv6
  bytes : List UInt8
  deriving DecidableEq

def Packet.code? (p : Packet) : Option Code :=
  match Message.decode p.bytes with
  | .ok m => some m.code
  | .error _ => none

/-- The most deliveries that a message can lead to, its own included. -/
def Packet.weight (p : Packet) : Nat :=
  if p.code? = some .setCookie then 2 else 1

structure Mesh where
  node? : Ipv6 → Option Node
  inFlight : List Packet

namespace Mesh

inductive Move where
  | deliver (p : Packet) (now : Timestamp) (link : Link)
  | prepare (address : Ipv6) (peer : Ipv6) (now : Timestamp)
  | inspect (address : Ipv6) (source : Ipv6) (shown : Option Cookie) (link : Link)
  | rotate (address : Ipv6) (drawn : SecretKey)
  | elapse (address : Ipv6) (nanoseconds : Nat)

def perform (w : Mesh) (address : Ipv6) (o : Occasion) : Mesh :=
  match w.node? address with
  | some n => {
      node? := Function.update w.node? address (some (n.next o))
      inFlight := w.inFlight ++ (Effect.sent (n.step o).effects).map fun (destination, m) =>
        ⟨address, destination, m.encode⟩ }
  | none => w

def delivers (w : Mesh) : Move → Bool
  | .deliver p _ _ => p ∈ w.inFlight
  | _ => false

def step (w : Mesh) : Move → Mesh
  | .deliver p now link =>
    if p ∈ w.inFlight then
      perform { w with inFlight := w.inFlight.erase p } p.destination
        ⟨now, link, .handleDatagram p.source p.bytes⟩
    else w
  | .prepare address peer now => w.perform address ⟨now, .up, .prepare peer⟩
  | .inspect address source shown link => w.perform address ⟨0, link, .inspect source shown⟩
  | .rotate address drawn => w.perform address ⟨0, .up, .rotate drawn⟩
  | .elapse address nanoseconds => w.perform address ⟨0, .up, .elapse nanoseconds⟩

def run (w : Mesh) (moves : List Move) : Mesh := moves.foldl step w

def deliveries (w : Mesh) : List Move → Nat
  | [] => 0
  | move :: moves => (w.delivers move).toNat + (w.step move).deliveries moves

def Move.isInspection : Move → Bool
  | inspect .. => true
  | _ => false

def count (w : Mesh) (code? : Option Code) : Nat := w.inFlight.countP (·.code? = code?)

def potential (w : Mesh) : Nat := (w.inFlight.map Packet.weight).sum

end Mesh

namespace Packet

theorem weight_le_two (p : Packet) : p.weight ≤ 2 := by
  unfold weight
  split <;> decide

theorem weight_pos (p : Packet) : 0 < p.weight := by
  unfold weight
  split <;> decide

theorem weight_notExpected (source destination : Ipv6) (cookie : Cookie)
    : weight ⟨source, destination, (Message.notExpected cookie).encode⟩ = 1 := by
  unfold weight code?
  simp only [Message.decode_encode_notExpected]
  rfl

theorem weight_of_setCookie {p : Packet} {m : Message} (hdecode : Message.decode p.bytes = .ok m)
    (hcode : m.code = .setCookie)
    : p.weight = 2 := by
  unfold weight code?
  simp only [hdecode, hcode, ↓reduceIte]

end Packet

namespace Mesh

def replyWeight (address : Ipv6) : Option (Ipv6 × Message) → Nat
  | some (destination, m) => Packet.weight ⟨address, destination, m.encode⟩
  | none => 0

theorem replyWeight_le_two (address : Ipv6) (reply? : Option (Ipv6 × Message))
    : replyWeight address reply? ≤ 2 := by
  unfold replyWeight
  split
  . apply Packet.weight_le_two
  . decide

theorem replyWeight_lt (n : Node) (p : Packet) (address : Ipv6) (now : Timestamp) (link : Link)
    : replyWeight address (n.reply? ⟨now, link, .handleDatagram p.source p.bytes⟩) < p.weight := by
  cases hreply : n.reply? ⟨now, link, .handleDatagram p.source p.bytes⟩ with
  | none => exact p.weight_pos
  | some r =>
    obtain ⟨destination, m⟩ := r
    rcases Node.reply?_cases hreply with ⟨_, hinspect, _⟩ | ⟨bytes, m', hreceived, hdecode, hcode, _, hm⟩
    . simp at hinspect
    . injection hreceived with _ hbytes
      rw [← hbytes] at hdecode
      simp only [replyWeight, hm, Packet.weight_notExpected, p.weight_of_setCookie hdecode hcode]
      decide

theorem potential_perform (w : Mesh) (address : Ipv6) (o : Occasion) (k : Nat)
    (hk : ∀ n : Node, replyWeight address (n.reply? o) ≤ k)
    : (w.perform address o).potential ≤ w.potential + k := by
  unfold perform
  cases w.node? address with
  | none => exact Nat.le_add_right _ _
  | some n =>
    have hle := hk n
    simp only [potential, List.map_append, List.sum_append]
    -- what an operation adds to the messages under way is its reply, if that gets out
    rw [n.sent_step]
    apply Nat.add_le_add_left
    cases hreply : n.reply? o with
    | none => simp
    | some r =>
      obtain ⟨destination, m⟩ := r
      rw [hreply] at hle
      cases o.link with
      | up => simpa [Link.carry, replyWeight] using hle
      | down => simp [Link.carry]

theorem potential_erase {w : Mesh} {p : Packet} (hmem : p ∈ w.inFlight)
    : p.weight + potential { w with inFlight := w.inFlight.erase p } = w.potential :=
  List.sum_map_erase Packet.weight hmem

theorem potential_step (w : Mesh) (move : Move)
    : (w.delivers move).toNat + (w.step move).potential
        ≤
      w.potential + if move.isInspection then 2 else 0 := by
  cases move with
  | deliver p now link =>
    unfold step delivers
    by_cases hmem : p ∈ w.inFlight
    -- the reply weighs less than the message that is answered
    . have hperform := potential_perform { w with inFlight := w.inFlight.erase p } p.destination
        ⟨now, link, .handleDatagram p.source p.bytes⟩ (p.weight - 1)
        (fun n => Nat.le_sub_one_of_lt (replyWeight_lt n p p.destination now link))
      have herase := potential_erase hmem
      have hpos := p.weight_pos
      simp only [hmem, ↓reduceIte, decide_true, Bool.toNat_true]
      omega
    . simp [hmem]
  | prepare address peer now =>
    have hperform := w.potential_perform address ⟨now, .up, .prepare peer⟩ 0 (fun _ => Nat.le_refl 0)
    simpa [step, delivers, Move.isInspection] using hperform
  | inspect address source shown link =>
    have hperform := w.potential_perform address ⟨0, link, .inspect source shown⟩ 2
      (fun _ => replyWeight_le_two address _)
    simpa [step, delivers, Move.isInspection] using hperform
  | rotate address drawn =>
    have hperform := w.potential_perform address ⟨0, .up, .rotate drawn⟩ 0 (fun _ => Nat.le_refl 0)
    simpa [step, delivers, Move.isInspection] using hperform
  | elapse address nanoseconds =>
    have hperform := w.potential_perform address ⟨0, .up, .elapse nanoseconds⟩ 0 (fun _ => Nat.le_refl 0)
    simpa [step, delivers, Move.isInspection] using hperform

theorem deliveries_add_potential_le (w : Mesh) (moves : List Move)
    : w.deliveries moves + (w.run moves).potential
        ≤
      w.potential + 2 * moves.countP Move.isInspection := by
  induction moves generalizing w with
  | nil => simp [deliveries, run]
  | cons move moves ih =>
    have hstep := w.potential_step move
    have hrest : (w.step move).deliveries moves + (w.run (move :: moves)).potential
        ≤
      (w.step move).potential + 2 * moves.countP Move.isInspection := ih (w.step move)
    rw [List.countP_cons]
    simp only [deliveries]
    split at hstep <;> simp_all <;> omega

theorem potential_eq (w : Mesh)
    : w.potential
        =
      2 * w.count (some .setCookie) + w.count (some .notExpected) + w.count none := by
  unfold potential count
  induction w.inFlight with
  | nil => rfl
  | cons p rest ih =>
    simp only [List.map_cons, List.sum_cons, List.countP_cons, ih, Packet.weight]
    cases p.code? with
    | none => simp; omega
    | some code => cases code <;> simp <;> omega

theorem length_inFlight_le (w : Mesh) : w.inFlight.length ≤ w.potential := by
  unfold potential
  induction w.inFlight with
  | nil => simp
  | cons p rest ih =>
    have hpos := p.weight_pos
    simp only [List.length_cons, List.map_cons, List.sum_cons]
    omega

/-- A node answers a message at most once, and only one that offers a cookie, by disowning the datagram with
the echoed cookie; and it answers a datagram at most once, by an offer to the claimed source. Hence, where no
more datagrams come in, messages under way lead to at most two deliveries for each offer and one for each
other message, in whichever order they arrive and whatever else happens at the nodes. -/
theorem single_reply_and_deliveries_add_inFlight_le
    : (∀ (n : Node) (link : Link) (source : Ipv6) (bytes : List UInt8) (now : Timestamp),
        Effect.sent (n.handleDatagram link source bytes now).effects = [] ∨
        ∃ m, Message.decode bytes = .ok m ∧ m.code = .setCookie ∧
          Effect.sent (n.handleDatagram link source bytes now).effects
            =
          [(source, .notExpected m.echoed)]) ∧
      (∀ (n : Node) (link : Link) (source : Ipv6) (shown : Option Cookie),
        Effect.sent (n.inspect link source shown).2 = [] ∨
        ∃ cookie, shown = some cookie ∧
          Effect.sent (n.inspect link source shown).2 = [(source, n.offer source cookie)]) ∧
      ∀ (w : Mesh) (moves : List Move),
        w.deliveries moves + (w.run moves).inFlight.length
          ≤
        2 * w.count (some .setCookie) + w.count (some .notExpected) + w.count none
          + 2 * moves.countP Move.isInspection := by
  refine ⟨Node.sent_handleDatagram_eq, Node.sent_inspect_eq, ?_⟩
  intro w moves
  have hdeliveries := w.deliveries_add_potential_le moves
  have hinFlight := (w.run moves).length_inFlight_le
  have hpotential := w.potential_eq
  omega

example : deliveries {
      node? := fun _ => some (.create default {} ⟨.uniform 1, .uniform 2, 0⟩)
      inFlight := [⟨.ofGroups [1], .ofGroups [2], (Message.setCookie 6 .zero .zero).encode⟩] } [
    .deliver ⟨.ofGroups [1], .ofGroups [2], (Message.setCookie 6 .zero .zero).encode⟩ 0 .up,
    .deliver ⟨.ofGroups [2], .ofGroups [1], (Message.notExpected .zero).encode⟩ 0 .up] = 2 := by
  decide +kernel

end Mesh

end SourceCookie
