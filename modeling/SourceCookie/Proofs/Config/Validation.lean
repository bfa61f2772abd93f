import SourceCookie.Proofs.Config
import SourceCookie.Proofs.Node.Step
import SourceCookie.Proofs.Renewal
import SourceCookie.Rotation

/-!
The check of the settings against what they are used for later: it reports the first fault there is, and
settings that pass it are used as they were written. No prefix is passed over, every exponent is stored as
it is and stands for a time that ends, and keys are rotated once in a period that is not zero. The table has
the room that was asked for, unless that is more than can be allocated at once, which the check does not see.
-/

namespace SourceCookie

namespace Config

def faults (c : Config) : List Invalid :=
  (if c.cache.capacity = 0 then [.zeroCapacity] else [])
  ++ ([TimedField.fallback, .retry, .offered].filter (Lifetime.infiniteLog2 ≤ ·.value c)).map
    (fun field => .endlessLifetime field (field.value c))
  ++ (if c.rotation.enabled ∧ c.rotation.intervalSeconds = 0 then [.zeroRotationInterval] else [])
  ++ (c.policy.disabledPrefixes.filter fun text => (Prefix.parse? text.toList).isNone).map .malformedPrefix
  ++ (if c.metrics.enabled ∧ c.metricsEndpoint? = none then [.malformedListenAddr c.metrics.listenAddr]
    else [])
  ++ (if c.logging.format ≠ "text" ∧ c.logging.format ≠ "json" then [.unknownLogFormat c.logging.format]
    else [])

structure FaceValue (c : Config) : Prop where
  capacity : 1 ≤ c.cache.capacity.toNat
  exponents : ∀ field : TimedField, (field.value c).toNat < 15
  interval : c.rotation.enabled = true → c.rotation.intervalSeconds.toNat ≠ 0
  prefixes : ∀ text ∈ c.policy.disabledPrefixes, ∃ p, Prefix.parse? text.toList = some p
  listenAddr : c.metrics.enabled = true → ∃ endpoint, c.metricsEndpoint? = some endpoint
  format : c.logging.format = "text" ∨ c.logging.format = "json"

variable {c : Config}

section Faults

variable {α : Type} {p : Prop} [Decidable p]

theorem head?_ite (a : α) : (if p then [a] else []).head? = if p then some a else none := by
  split <;> rfl

theorem ite_or (a : α) (o o' : Option α)
    : (if p then some a else o).or o' = if p then some a else o.or o' := by
  split <;> rfl

theorem fault?_eq_head?_faults (c : Config) : c.fault? = c.faults.head? := by
  unfold fault? faults PolicyConfig.malformedPrefixes
  simp only [List.head?_append, head?_ite, List.head?_map, List.head?_filter, Option.or_assoc, ite_or]
  cases [TimedField.fallback, .retry, .offered].find? (Lifetime.infiniteLog2 ≤ ·.value c) with
  | some field => rfl
  | none =>
    cases c.policy.disabledPrefixes.find? fun text => (Prefix.parse? text.toList).isNone with
    | some text => rfl
    | none => rfl

theorem validate_eq_error_iff {fault : Invalid}
    : c.validate = .error fault ↔ c.faults.head? = some fault := by
  unfold validate
  rw [fault?_eq_head?_faults]
  cases c.faults.head? <;> simp

theorem validate_eq_ok_iff_faults : c.validate = .ok () ↔ c.faults = [] := by
  unfold validate
  rw [fault?_eq_head?_faults, ← List.head?_eq_none_iff]
  cases c.faults.head? <;> simp

theorem ite_eq_nil_iff (a : α) : (if p then [a] else []) = [] ↔ ¬ p := by
  split <;> simp_all

theorem lt_infiniteLog2_iff {b : UInt8} : ¬ Lifetime.infiniteLog2 ≤ b ↔ b.toNat < 15 := by
  rw [UInt8.not_le, UInt8.lt_iff_toNat_lt]
  rfl

theorem faults_eq_nil_iff : c.faults = [] ↔ c.FaceValue := by
  unfold faults
  simp only [List.append_eq_nil_iff, ite_eq_nil_iff, List.map_eq_nil_iff, List.filter_eq_nil_iff,
    and_assoc, decide_eq_true_eq, lt_infiniteLog2_iff, Option.isNone_iff_eq_none, not_and,
    ← UInt64.toNat_inj, Option.ne_none_iff_exists']
  constructor
  . rintro ⟨capacity, exponents, interval, prefixes, listenAddr, format⟩
    refine ⟨Nat.one_le_iff_ne_zero.2 capacity, ?_, interval, prefixes, listenAddr, ?_⟩
    . intro field
      cases field <;> simp [exponents]
    . exact Decidable.or_iff_not_imp_left.2 fun htext => Decidable.not_not.1 (format htext)
  . intro h
    refine ⟨Nat.one_le_iff_ne_zero.1 h.capacity, fun field _ => h.exponents field, h.interval,
      h.prefixes, h.listenAddr, fun htext => ?_⟩
    exact not_not_intro (h.format.resolve_left htext)

theorem validate_eq_ok_iff : c.validate = .ok () ↔ c.FaceValue := by
  rw [validate_eq_ok_iff_faults, faults_eq_nil_iff]

end Faults

namespace FaceValue

theorem map_parsedPrefixes (h : c.FaceValue)
    : c.policy.parsedPrefixes.map some = c.policy.disabledPrefixes.map (Prefix.parse? ·.toList) := by
  have hprefixes := h.prefixes
  unfold PolicyConfig.parsedPrefixes
  generalize c.policy.disabledPrefixes = texts at hprefixes ⊢
  induction texts with
  | nil => rfl
  | cons text texts ih =>
    rw [List.forall_mem_cons] at hprefixes
    obtain ⟨⟨p, hp⟩, hrest⟩ := hprefixes
    rw [List.filterMap_cons]
    simp only [hp, List.map_cons, ih hrest]

theorem map_capacity_create? (h : c.FaceValue) (id : Uuid) (engine : Engine)
    : (Node.create? id c engine).map (·.cache.capacity)
        =
      if 40 * c.cache.capacity.toNat ≤ 2 ^ 63 - 1 then some c.cache.capacity.toNat else none := by
  have hmax : max c.cache.capacity.toNat 1 = c.cache.capacity.toNat := Nat.max_eq_left h.capacity
  rw [Node.create?_eq, Cache.slotBytes, Cache.allocationLimit, hmax, Nat.pow_eq]
  split
  . rw [Option.map_some, Node.capacity_create, hmax]
  . rfl

theorem value_lt (h : c.FaceValue) (field : TimedField) : field.value c < Lifetime.infiniteLog2 :=
  UInt8.lt_iff_toNat_lt.2 (h.exponents field)

theorem and_lifetimeMask (h : c.FaceValue) (field : TimedField)
    : field.value c &&& Message.lifetimeMask = field.value c := by
  have hmask : Message.lifetimeMask.toNat = 2 ^ 4 - 1 := rfl
  have hlt := h.exponents field
  rw [← UInt8.toNat_inj, UInt8.toNat_and, hmask, Nat.and_two_pow_sub_one_eq_mod]
  omega

theorem lifetime_setLifetime (h : c.FaceValue) (field : TimedField) (e : Entry)
    : (e.setLifetime (field.value c)).lifetime.toNat = (field.value c).toNat ∧
      (e.setLifetime (field.value c)).lifetime.seconds? = some (2 ^ (field.value c).toNat) :=
  ⟨Lifetime.toNat_ofByte_of_lt (h.value_lt field), Lifetime.seconds?_ofByte (h.value_lt field)⟩

theorem running_start (h : c.FaceValue) (henabled : c.rotation.enabled = true) (engine : Engine)
    : ∃ ticker, (RotationTask.start c.rotationInterval engine).status = .running ticker ∧
        ticker.period = 1000 * c.rotation.intervalSeconds.toNat := by
  have hperiod : 0 < c.rotationInterval := by
    have hinterval := h.interval henabled
    unfold rotationInterval
    omega
  exact ⟨.start 1 c.rotationInterval 0 hperiod, dif_pos hperiod, rfl⟩

end FaceValue

/-- The check lets settings pass just if they can be taken at face value, and reports the first fault of the
others. Settings that pass are used as they were written, but for a table that cannot be allocated. -/
theorem validate_eq_iff_and_faceValue (c : Config)
    : (c.validate = .ok () ↔ c.FaceValue) ∧
      (∀ fault, c.validate = .error fault ↔ c.faults.head? = some fault) ∧
      (c.validate = .ok () →
        c.policy.parsedPrefixes.map some = c.policy.disabledPrefixes.map (Prefix.parse? ·.toList) ∧
        (∀ id engine,
          (Node.create? id c engine).map (·.cache.capacity)
            =
          if 40 * c.cache.capacity.toNat ≤ 2 ^ 63 - 1 then some c.cache.capacity.toNat else none) ∧
        (∀ field : TimedField,
          field.value c &&& Message.lifetimeMask = field.value c ∧
          ∀ e : Entry,
            (e.setLifetime (field.value c)).lifetime.toNat = (field.value c).toNat ∧
            (e.setLifetime (field.value c)).lifetime.seconds? = some (2 ^ (field.value c).toNat)) ∧
        (c.rotation.enabled = true → ∀ engine, ∃ ticker,
          (RotationTask.start c.rotationInterval engine).status = .running ticker ∧
            ticker.period = 1000 * c.rotation.intervalSeconds.toNat)) := by
  refine ⟨validate_eq_ok_iff, fun fault => validate_eq_error_iff, fun hvalid => ?_⟩
  have h := validate_eq_ok_iff.1 hvalid
  exact ⟨h.map_parsedPrefixes, h.map_capacity_create?,
    fun field => ⟨h.and_lifetimeMask field, h.lifetime_setLifetime field⟩, h.running_start⟩

def extreme : Config where
  protocol := ⟨0, 14, 0, 14⟩
  cache := ⟨1⟩
  policy := ⟨["2001:db8::7/32", "::/0", "10.1.2.3/8"], .drop⟩
  rotation := ⟨true, 1⟩
  metrics := ⟨true, "[::1]:0"⟩
  logging := ⟨"", "json", false⟩

def illFormed : Config where
  protocol := ⟨0, 14, 15, 255⟩
  policy := ⟨["::/0", "::", "x"], .drop⟩
  logging := ⟨"info", "xml", false⟩

theorem validate_eq_iff_and_faceValue_extreme
    : extreme.validate = .ok () ∧ extreme.policy.parsedPrefixes.length = 3 ∧
      (Node.create? default extreme default).map (·.cache.capacity) = some 1 ∧
      (∃ ticker, (RotationTask.start extreme.rotationInterval default).status = .running ticker ∧
        ticker.period = 1000) ∧
      illFormed.validate = .error (.endlessLifetime .retry 15) := by
  obtain ⟨hok, _, hused⟩ := validate_eq_iff_and_faceValue extreme
  have hvalid : extreme.validate = .ok () := validate_eq_ok_iff_faults.2 (by decide +kernel)
  obtain ⟨hprefixes, hcapacity, _, hrotates⟩ := hused hvalid
  refine ⟨hvalid, ?_, hcapacity default default, hrotates rfl default, ?_⟩
  . have hlength := congrArg List.length hprefixes
    rw [List.length_map, List.length_map] at hlength
    exact hlength
  . exact ((validate_eq_iff_and_faceValue illFormed).2.1 _).2 (by decide +kernel)

def oversized : Config where
  cache := ⟨0x7fffffffffffffff⟩

theorem create?_eq_none_oversized
    : oversized.validate = .ok () ∧ ∀ id engine, Node.create? id oversized engine = none :=
  ⟨validate_eq_ok_iff_faults.2 (by decide +kernel), fun _ _ => rfl⟩

end Config

end SourceCookie
