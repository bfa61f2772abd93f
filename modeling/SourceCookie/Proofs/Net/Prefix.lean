import SourceCookie.Node.Basic
import SourceCookie.Proofs.Net.Ipv6

/-!
The policy on peers, bit by bit. A peer gets no cookies if and only if its first bits are those of a
configured prefix, as many as the prefix has. Nothing else about the configured texts has a bearing on it:
neither their order nor how often one is there, nor the bits of a prefix beyond its length, nor the texts
that are no IPv6 prefixes.
-/

namespace SourceCookie

namespace Ipv6

def SharesBits (length : Nat) (a b : Ipv6) : Prop :=
  ∀ i < length, a.bit i = b.bit i

instance (length : Nat) (a b : Ipv6) : Decidable (SharesBits length a b) :=
  inferInstanceAs (Decidable (∀ i < length, a.bit i = b.bit i))

end Ipv6

open Ipv6

namespace Prefix

variable {address peer : Ipv6} {length : Nat}

section Matching

theorem contains_v6_iff (hlength : length ≤ 128)
    : (v6 address length).contains peer = true ↔ SharesBits length address peer := by
  unfold contains
  rw [beq_iff_eq]
  constructor
  . intro heq i hi
    have hbit := congrArg (Nat.testBit · (length - 1 - i)) heq
    simp only [Nat.testBit_shiftRight] at hbit
    rw [show 128 - length + (length - 1 - i) = 127 - i by omega] at hbit
    exact hbit
  . intro h
    apply Nat.eq_of_testBit_eq
    intro j
    rw [Nat.testBit_shiftRight, Nat.testBit_shiftRight]
    by_cases hj : j < length
    . have hbit := h (length - 1 - j) (by omega)
      unfold bit at hbit
      rw [show 127 - (length - 1 - j) = 128 - length + j by omega] at hbit
      exact hbit
    . -- there are no bits beyond the first one of an address
      have hpow : 2 ^ 128 ≤ 2 ^ (128 - length + j) := Nat.pow_le_pow_right (by decide) (by omega)
      rw [Nat.testBit_lt_two_pow (Nat.lt_of_lt_of_le address.toNat_lt hpow),
        Nat.testBit_lt_two_pow (Nat.lt_of_lt_of_le peer.toNat_lt hpow)]

theorem sharesBits_all_iff : SharesBits 128 address peer ↔ peer = address := by
  rw [← contains_v6_iff (Nat.le_refl 128), @eq_comm _ peer, ← toNat_inj]
  simp [contains]

end Matching

section Text

variable {text : List Char}

theorem ne_v6_of_readV4? {p : Prefix} {rest : List Char} (h : readV4? text = some (p, rest))
    : p ≠ v6 address length := by
  unfold readV4? at h
  simp only [Option.bind_eq_bind, Option.bind_eq_some_iff, Option.pure_def, Option.some_inj,
    Prod.mk.injEq] at h
  obtain ⟨_, _, _, _, rfl, _⟩ := h
  simp

theorem length_le_of_readV6? {rest : List Char} (h : readV6? text = some (v6 address length, rest))
    : length ≤ 128 := by
  unfold readV6? at h
  simp only [Option.bind_eq_bind, Option.bind_eq_some_iff, Option.pure_def, Option.some_inj,
    Prod.mk.injEq, v6.injEq] at h
  obtain ⟨_, _, ⟨n, s⟩, hlength, ⟨_, rfl⟩, _⟩ := h
  unfold readLength? at hlength
  split at hlength
  . exact Nat.le_of_lt_succ (Digits.Form.lt_bound_of_read? hlength)
  . contradiction

theorem length_le_of_parse? (h : parse? text = some (v6 address length)) : length ≤ 128 := by
  unfold parse? at h
  split at h
  . next p heq =>
    rw [Option.some_inj.1 h] at heq
    cases hv4 : readV4? text with
    | some read =>
      rw [hv4] at heq
      have hread : readV4? text = some (v6 address length, []) := hv4.trans heq
      exact absurd rfl (ne_v6_of_readV4? hread)
    | none =>
      rw [hv4] at heq
      exact length_le_of_readV6? heq
  . contradiction

theorem parse?_render_v6 (address : Ipv6) (hlength : length ≤ 128)
    : parse? (v6 address length).render = some (v6 address length) := by
  have hstops : Stops ('/' :: Digits.decimal length) := stops_cons (by decide) (by decide) _
  have hread := address.read?_render .lenient hstops (by simp)
  have hlt : length < 129 := Nat.lt_succ_of_le hlength
  have hlength : readLength? 3 128 ('/' :: Digits.decimal length) = some (length, []) := by
    have hdigits := @Digits.Form.read?_toDigits length [] ⟨10, some 3, 129, true⟩ (by decide) hlt
    rw [List.append_nil] at hdigits
    refine hdigits ?_ (by simp)
    intro most hmost
    obtain rfl : 3 = most := Option.some_inj.1 hmost
    exact ⟨by decide, Nat.lt_trans hlt (by decide)⟩
  have hv4 : readV4? (v6 address length).render = none := by
    unfold readV4? render
    rw [address.ipv4Read?_render true hstops]
    rfl
  have hv6 : readV6? (v6 address length).render = some (v6 address length, []) := by
    unfold readV6? render
    simp [hread, hlength]
  unfold parse?
  rw [hv4, hv6]
  rfl

end Text

end Prefix

namespace Settings

def disables (texts : List String) (peer : Ipv6) : Bool :=
  (ofConfig { policy := { disabledPrefixes := texts } }).policyDisables peer

variable {texts texts' : List String} {peer : Ipv6}

theorem policyDisables_iff {c : Config}
    : (ofConfig c).policyDisables peer = true
        ↔
      ∃ text ∈ c.policy.disabledPrefixes, ∃ address length,
        Prefix.parse? text.toList = some (.v6 address length) ∧ length ≤ 128 ∧
        SharesBits length address peer := by
  unfold policyDisables ofConfig PolicyConfig.parsedPrefixes
  rw [List.any_eq_true]
  constructor
  . rintro ⟨p, hmem, hcontains⟩
    obtain ⟨text, htext, hparse⟩ := List.mem_filterMap.1 hmem
    cases p with
    | v4 address length => contradiction
    | v6 address length =>
      have hlength := Prefix.length_le_of_parse? hparse
      exact ⟨text, htext, address, length, hparse, hlength, (Prefix.contains_v6_iff hlength).1 hcontains⟩
  . rintro ⟨text, htext, address, length, hparse, hlength, hshares⟩
    exact ⟨.v6 address length, List.mem_filterMap.2 ⟨text, htext, hparse⟩,
      (Prefix.contains_v6_iff hlength).2 hshares⟩

theorem disables_singleton_iff {text : String} {address : Ipv6} {length : Nat}
    (h : Prefix.parse? text.toList = some (.v6 address length))
    : disables [text] peer = true ↔ SharesBits length address peer := by
  unfold disables
  rw [policyDisables_iff]
  constructor
  . rintro ⟨_, htext, address', length', hparse, _, hshares⟩
    rw [List.mem_singleton.1 htext, h, Option.some_inj, Prefix.v6.injEq] at hparse
    rw [hparse.1, hparse.2]
    exact hshares
  . intro hshares
    exact ⟨text, List.mem_singleton_self text, address, length, h, Prefix.length_le_of_parse? h, hshares⟩

theorem disables_of_forall_mem
    (h : ∀ text address length, Prefix.parse? text.toList = some (.v6 address length) → text ∈ texts →
      text ∈ texts')
    (hdisables : disables texts peer = true)
    : disables texts' peer = true := by
  obtain ⟨text, htext, address, length, hparse, hrest⟩ := policyDisables_iff.1 hdisables
  exact policyDisables_iff.2 ⟨text, h text address length hparse htext, address, length, hparse, hrest⟩

theorem policyDisables_iff_sharesBits_and_disables_mono
    : (∀ (c : Config) (peer : Ipv6),
        (ofConfig c).policyDisables peer = true
          ↔
        ∃ text ∈ c.policy.disabledPrefixes, ∃ address length,
          Prefix.parse? text.toList = some (.v6 address length) ∧ length ≤ 128 ∧
          SharesBits length address peer) ∧
      (∀ (ip : Ipv6) (i : Nat), i < 128 →
        ip.groups[i / 16]?.map (fun g : UInt16 => g.toNat.testBit (15 - i % 16)) = some (ip.bit i)) ∧
      (∀ (address : Ipv6) (length : Nat), length ≤ 128 →
        Prefix.parse? (Prefix.v6 address length).render = some (.v6 address length)) ∧
      (∀ texts texts' : List String,
        (∀ text address length, Prefix.parse? text.toList = some (.v6 address length) →
          (text ∈ texts ↔ text ∈ texts')) →
        ∀ peer, disables texts peer = disables texts' peer) ∧
      (∀ texts texts' : List String, texts ⊆ texts' →
        ∀ peer, disables texts peer = true → disables texts' peer = true) ∧
      (∀ text address, Prefix.parse? text.toList = some (.v6 address 0) →
        ∀ peer, disables [text] peer = true) ∧
      (∀ text address, Prefix.parse? text.toList = some (.v6 address 128) →
        ∀ peer, disables [text] peer = true ↔ peer = address) ∧
      (∀ text text' address address' length length',
        Prefix.parse? text.toList = some (.v6 address length) →
        Prefix.parse? text'.toList = some (.v6 address' length') →
        length' ≤ length → SharesBits length' address address' →
        ∀ peer, disables [text] peer = true → disables [text'] peer = true) := by
  refine ⟨fun c peer => policyDisables_iff, fun ip i => ip.bit_eq,
    fun address length => Prefix.parse?_render_v6 address, ?_, ?_, ?_, ?_, ?_⟩
  . intro texts texts' h peer
    rw [Bool.eq_iff_iff]
    exact ⟨disables_of_forall_mem fun text address length hparse => (h text address length hparse).1,
      disables_of_forall_mem fun text address length hparse => (h text address length hparse).2⟩
  . intro texts texts' h peer
    exact disables_of_forall_mem fun text _ _ _ htext => h htext
  . intro text address hparse peer
    rw [disables_singleton_iff hparse]
    intro i hi
    contradiction
  . intro text address hparse peer
    rw [disables_singleton_iff hparse, Prefix.sharesBits_all_iff]
  . intro text text' address address' length length' hparse hparse' hle hsame peer
    rw [disables_singleton_iff hparse, disables_singleton_iff hparse']
    intro hshares i hi
    rw [← hsame i hi]
    exact hshares i (Nat.lt_of_lt_of_le hi hle)

theorem policyDisables_iff_sharesBits_and_disables_mono_hostBits
    : let peer : Ipv6 := .ofGroups [0x2001, 0xdb8, 0x8000, 7]
      (ofConfig { policy.disabledPrefixes := ["::/129", "2001:db8:ffff::1/33"] }).policyDisables peer = true ∧
      disables ["2001:db8::/32"] peer = true ∧
      disables ["2001:db8:8000::7/33", "2001:db8::/32", "2001:db8::/32"] peer
        =
      disables ["10.0.0.0/8", "2001:db8::/32", "2001:db8:8000::7/33"] peer ∧
      disables ["::ffff:10.1.2.3/128"] (.ofGroups [0, 0, 0, 0, 0, 0xffff, 0xa01, 0x203]) = true := by
  intro peer
  obtain ⟨hiff, _, _, hsame, _, _, hall, hshorter⟩ := policyDisables_iff_sharesBits_and_disables_mono
  have hlong : Prefix.parse? "2001:db8:ffff::1/33".toList
      =
    some (.v6 (.ofGroups [0x2001, 0xdb8, 0xffff, 0, 0, 0, 0, 1]) 33) := by decide +kernel
  have hshort : Prefix.parse? "2001:db8::/32".toList = some (.v6 (.ofGroups [0x2001, 0xdb8]) 32) := by
    decide +kernel
  have hmapped : Prefix.parse? "::ffff:10.1.2.3/128".toList
      =
    some (.v6 (.ofGroups [0, 0, 0, 0, 0, 0xffff, 0xa01, 0x203]) 128) := by decide +kernel
  have hpeer : disables ["2001:db8:ffff::1/33"] peer = true :=
    (hiff _ peer).2 ⟨_, List.mem_singleton_self _, _, 33, hlong, by decide, by decide +kernel⟩
  refine ⟨?_, ?_, hsame _ _ ?_ peer, (hall _ _ hmapped _).2 rfl⟩
  . exact (hiff _ peer).2 ⟨_, by decide, _, 33, hlong, by decide, by decide +kernel⟩
  . exact hshorter _ _ _ _ 33 32 hlong hshort (by decide) (by decide +kernel) peer hpeer
  . intro text address length hparse
    have hv4 : Prefix.parse? "10.0.0.0/8".toList = some (.v4 ⟨10, 0, 0, 0⟩ 8) := by decide +kernel
    simp only [List.mem_cons, List.not_mem_nil, or_false]
    constructor
    . tauto
    . rintro (rfl | h | h)
      . rw [hv4] at hparse
        simp at hparse
      . exact Or.inr (Or.inl h)
      . exact Or.inl h

end Settings

end SourceCookie
