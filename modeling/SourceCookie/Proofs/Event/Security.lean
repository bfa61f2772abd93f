import SourceCookie.Event.Security
import SourceCookie.Proofs.Event.Instant
import SourceCookie.Proofs.Event.Uuid
import SourceCookie.Proofs.Net.Ipv6
import SourceCookie.Proofs.Text.Json

/-!
Security events and their printed form. Identifiers, times and addresses may be given in many ways; events
are printed in one, which is read back and tells apart what was said.
-/

namespace SourceCookie

namespace SecurityEvent

variable {j : Json} {e : SecurityEvent}

structure Content where
  nodeId : Uuid
  seconds : Int
  nanosecond : Nat
  peer : Ipv6
  echoedCookie : String
  deriving DecidableEq

def text? (name : String) (members : List (String × Json)) : Option String := do
  (← Json.member? name members).string?

def content? : Json → Option Content
  | .object members => do
    let nodeId ← Uuid.parse? (← text? "node_id" members).toList
    let l ← Instant.readLocal? (← text? "timestamp" members).toList
    let peer ← Ipv6.parse? (← text? "peer" members).toList
    let echoedCookie ← text? "echoed_cookie" members
    return ⟨nodeId, l.seconds, l.nanosecond, peer, echoedCookie⟩
  | _ => none

def content (e : SecurityEvent) : Content :=
  match e.finding with
  | .spoofDetected peer echoed => ⟨e.nodeId, e.timestamp.seconds, e.timestamp.nanosecond, peer, echoed⟩

theorem eq_of_content_eq {e' : SecurityEvent} (h : e.timestamp.WellFormed) (h' : e'.timestamp.WellFormed)
    (hcontent : e.content = e'.content)
    : e = e' := by
  obtain ⟨nodeId, timestamp, ⟨peer, echoed⟩⟩ := e
  obtain ⟨nodeId', timestamp', ⟨peer', echoed'⟩⟩ := e'
  simp only [content, Content.mk.injEq] at h h' hcontent
  obtain ⟨hnode, hseconds, hnano, hpeer, hechoed⟩ := hcontent
  rw [hnode, h.eq_of_seconds_eq h' hseconds hnano, hpeer, hechoed]

section Reading

theorem exists_of_ofJson? (h : ofJson? j = some e)
    : e.timestamp.WellFormed ∧ content? j = some e.content := by
  unfold ofJson? at h
  split at h
  . next members =>
    simp only [Option.bind_eq_bind, Option.bind_eq_some_iff, Option.pure_def, Option.some_inj,
      Finding.ofMembers?] at h
    obtain ⟨_, hnode, nodeText, hnodeText, nodeId, hnodeId, _, htime, timeText, htimeText, timestamp,
      htimestamp, _, ⟨_, _, _, _, _, hpeer, peerText, hpeerText, peer, hpeer', _, hechoed, echoed,
      hechoedText, rfl⟩, rfl⟩ := h
    obtain ⟨l, hl, hwell, hseconds, hnano⟩ := Instant.exists_local_of_parse? htimestamp
    refine ⟨hwell, ?_⟩
    simp [content?, text?, content, hnode, hnodeText, hnodeId, htime, htimeText, hl, hpeer, hpeerText,
      hpeer', hechoed, hechoedText, hseconds, hnano]
  . contradiction

theorem ofJson?_toJson (h : e.timestamp.WellFormed) : ofJson? e.toJson = some e := by
  obtain ⟨nodeId, timestamp, ⟨peer, echoed⟩⟩ := e
  simp [ofJson?, toJson, Finding.toMembers, Finding.ofMembers?, Json.member?, List.lookup_cons, Json.string?,
    Finding.namesKind, Finding.kinds, Uuid.parse?_render, Instant.parse?_render h, Ipv6.parse?_render]

end Reading

section Printing

def texts (e : SecurityEvent) : List (String × String) :=
  match e.finding with
  | .spoofDetected peer echoed => [
      ("node_id", String.ofList e.nodeId.render),
      ("timestamp", String.ofList e.timestamp.render),
      ("kind", "spoof_detected"),
      ("peer", String.ofList peer.render),
      ("echoed_cookie", echoed)]

theorem toJson_eq_object_ofStrings (e : SecurityEvent) : e.toJson = .object (Json.ofStrings e.texts) := by
  obtain ⟨nodeId, timestamp, ⟨peer, echoed⟩⟩ := e
  rfl

theorem toJson_eq_of_render_eq {e' : SecurityEvent} (h : e.toJson.render = e'.toJson.render)
    : e.toJson = e'.toJson := by
  rw [toJson_eq_object_ofStrings, toJson_eq_object_ofStrings] at h ⊢
  rw [Json.render_object_ofStrings_inj h]

end Printing

theorem ofJson?_toJson_and_render_toJson_eq_iff (h : ofJson? j = some e)
    : ofJson? e.toJson = some e ∧ (ofJson? e.toJson).map toJson = some e.toJson ∧
        content? e.toJson = content? j ∧ content? j = some e.content ∧
        ∀ j' e', ofJson? j' = some e' → (e.toJson.render = e'.toJson.render ↔ content? j = content? j') := by
  obtain ⟨hwell, hcontent⟩ := exists_of_ofJson? h
  have hread := ofJson?_toJson hwell
  refine ⟨hread, ?_, ?_, hcontent, fun j' e' h' => ?_⟩
  . rw [hread, Option.map_some]
  . rw [hcontent, (exists_of_ofJson? hread).2]
  . obtain ⟨hwell', hcontent'⟩ := exists_of_ofJson? h'
    rw [hcontent, hcontent', Option.some_inj]
    constructor
    . intro hrender
      have heq := ofJson?_toJson hwell'
      rw [← toJson_eq_of_render_eq hrender, hread, Option.some_inj] at heq
      rw [heq]
    . intro heq
      rw [eq_of_content_eq hwell hwell' heq]

def spelledOut : Json :=
  .object [
    ("severity", .integer 3),
    ("timestamp", .string "2024-02-29T23:59:60.5-01:30"),
    ("kind", .integer 0),
    ("node_id", .string "urn:uuid:67E55044-10B1-426F-9247-BB680E5FE0C8"),
    ("echoed_cookie", .string "00\x22ff"),
    ("peer", .string "2001:DB8:0:0:0:0:0:1")]

def retold : Json :=
  .object [
    ("kind", .string "spoof_detected"),
    ("node_id", .string "67e5504410b1426f9247bb680e5fe0c8"),
    ("peer", .string "2001:db8::0.0.0.1"),
    ("echoed_cookie", .string "00\x22ff"),
    ("timestamp", .string "2024-03-01 01:29:60.500Z")]

theorem ofJson?_toJson_and_render_toJson_eq_iff_retold
    : ∃ e e', ofJson? spelledOut = some e ∧ ofJson? retold = some e' ∧ ofJson? e.toJson = some e ∧
        e.toJson.render = e'.toJson.render := by
  obtain ⟨e, h⟩ := Option.isSome_iff_exists.1 (by decide +kernel : (ofJson? spelledOut).isSome = true)
  obtain ⟨e', h'⟩ := Option.isSome_iff_exists.1 (by decide +kernel : (ofJson? retold).isSome = true)
  obtain ⟨hread, _, _, _, hiff⟩ := ofJson?_toJson_and_render_toJson_eq_iff h
  exact ⟨e, e', h, h', hread, (hiff retold e' h').2 (by decide +kernel)⟩

end SecurityEvent

end SourceCookie
