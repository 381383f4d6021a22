import ClusterMonitor.Proofs.Dict
import ClusterMonitor.Redaction

/-!
# Redaction of values, member by member

* `Redactor.redactMember` — what is shown of one member of an object.
* `Redactor.redactMember_congr` — what is shown of a member depends on little of it.
* `Redactor.redactMembers_eq`, `Redactor.redactItems_eq` — objects and lists are redacted part by
  part.
-/

namespace ClusterMonitor.Redactor

variable (r : Redactor) (secretKeys : List String)

/-- What is shown of the value of a member. -/
def redactMember (key : String) (v : Value) : Value :=
  if secretKeys.contains key && !v.isNull then .string (r.mask (Json.write v))
  else r.redactValue secretKeys v

/-- Without digests every secret has the same mask. -/
theorem mask_eq_secretMask (h : r.digests = false) (secret : String) :
    r.mask secret = secretMask := by
  simp [mask, h]

/-- Without digests the mask of a secret member says no more than that it is not `null`, and any
other member is redacted as a value. -/
theorem redactMember_congr (h : r.digests = false) {key : String} {v w : Value}
    (hnull : v.isNull = w.isNull)
    (hvalue : key ∈ secretKeys ∨ r.redactValue secretKeys v = r.redactValue secretKeys w) :
    r.redactMember secretKeys key v = r.redactMember secretKeys key w := by
  unfold redactMember
  rw [mask_eq_secretMask r h, mask_eq_secretMask r h, hnull]
  by_cases hsecret : (secretKeys.contains key && !w.isNull) = true
  · rw [if_pos hsecret, if_pos hsecret]
  · rw [if_neg hsecret, if_neg hsecret]
    rcases hvalue with hkey | hvalue
    · -- a secret member is left unmasked only if it is null
      have hw : w.isNull = true := by
        simpa [hkey] using hsecret
      have hv := hnull.trans hw
      cases v <;> cases hv
      cases w <;> cases hw
      rfl
    · exact hvalue

/-- Members are redacted one by one, each with its key. -/
theorem redactMembers_eq (members : Dict Value) :
    r.redactMembers secretKeys members = Dict.mapEntries (r.redactMember secretKeys) members := by
  induction members with
  | nil => rw [redactMembers]; rfl
  | cons m rest ih =>
    obtain ⟨key, v⟩ := m
    rw [redactMembers, ih]
    rfl

/-- Items are redacted one by one. -/
theorem redactItems_eq (items : List Value) :
    r.redactItems secretKeys items = items.map (r.redactValue secretKeys) := by
  induction items with
  | nil => rw [redactItems]; rfl
  | cons v rest ih => rw [redactItems, ih]; rfl

end ClusterMonitor.Redactor
