import SourceCookie.Config.Basic

/-!
What may be relied on once settings have passed their check.
-/

namespace SourceCookie

namespace Config

variable {c : Config}

theorem fault?_eq_none_of_validate (hvalid : c.validate = .ok ()) : c.fault? = none := by
  unfold validate at hvalid
  split at hvalid
  . contradiction
  . assumption

theorem value_lt_of_validate (hvalid : c.validate = .ok ()) (field : TimedField)
    : field.value c < Lifetime.infiniteLog2 := by
  have hfault := fault?_eq_none_of_validate hvalid
  unfold fault? at hfault
  split at hfault
  . contradiction
  . split at hfault
    . contradiction
    . next hfind =>
      have hnone := Option.eq_none_iff_forall_ne_some.2 hfind
      rw [List.find?_eq_none] at hnone
      have hmem : field ∈ [TimedField.fallback, .retry, .offered] := by
        cases field <;> simp
      simpa [UInt8.not_le] using hnone field hmem

end Config

end SourceCookie
