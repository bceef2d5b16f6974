import ClassLayout.Proofs.Name.Cursors
import ClassLayout.Proofs.Name.Rules

namespace ClassLayout

theorem fit_of_lt {t tail : Text} {maxBytes : Nat} (h : maxBytes < t.bytes + tail.bytes) :
    fit t tail maxBytes = shorten t (t.bytes + tail.bytes - maxBytes) := if_pos h

structure TightFit (t tail : Text) (maxBytes : Nat) : Prop where
  fits : (fit t tail maxBytes).bytes + tail.bytes ≤ maxBytes
  eq_self_iff : fit t tail maxBytes = t ↔ t.bytes + tail.bytes ≤ maxBytes
  tight : maxBytes < t.bytes + tail.bytes →
    maxBytes ≤ (fit t tail maxBytes).bytes + tail.bytes + 3 ∧ cutMarker ∈ fit t tail maxBytes
  again : fit (fit t tail maxBytes) tail maxBytes = fit t tail maxBytes

theorem tightFit {t tail : Text} {maxBytes : Nat} (ht : t.bytes < sizeLimit)
    (htail : tail.bytes < maxBytes) : TightFit t tail maxBytes := by
  have hfits := bytes_fit_le ht htail
  refine ⟨hfits, ⟨?_, fit_of_bytes_le⟩, ?_, fit_of_bytes_le hfits⟩
  · intro hself
    rwa [hself] at hfits
  · intro hlt
    rw [fit_of_lt hlt]
    refine ⟨?_, cutMarker_mem_shorten _ _⟩
    have hremove : t.bytes + tail.bytes - maxBytes + 1 < sizeLimit := by omega
    have hleft : t.bytes + tail.bytes - maxBytes < t.bytes := by omega
    have hbytes := (bytes_shorten hremove hleft).2
    omega

theorem fit_eq_cutMarker {t tail : Text} {maxBytes : Nat}
    (htotal : t.bytes + tail.bytes + 1 < sizeLimit) (hmax : maxBytes ≤ tail.bytes)
    (hlt : maxBytes < t.bytes + tail.bytes) : fit t tail maxBytes = [cutMarker] := by
  rw [fit_of_lt hlt]
  apply shorten_of_bytes_le
  · omega
  · omega

/-- A name is within its budget and at most three bytes below, if it had to be cut; and no sum or
difference on the way leaves the range of a size. -/
theorem fit_uses_its_budget {t tail : Text} (ht : t.bytes < 2 ^ 63) (htail : tail.bytes < 2 ^ 63)
    (maxBytes : Nat) :
    (tail.bytes < maxBytes → TightFit t tail maxBytes) ∧
      (maxBytes ≤ tail.bytes → maxBytes < t.bytes + tail.bytes →
        fit t tail maxBytes = [cutMarker]) ∧
      fitChecked? t tail maxBytes = some (fit t tail maxBytes) := by
  have hlimit : sizeLimit = 2 * 2 ^ 63 := rfl
  have htotal : t.bytes + tail.bytes + 1 < sizeLimit := by omega
  refine ⟨?_, fit_eq_cutMarker htotal, fitChecked?_eq (by omega) htotal⟩
  apply tightFit
  omega

theorem fit_uses_its_budget_wide_character :
    Text.bytes "a𐍈b€c".toList = 10 ∧ fit "a𐍈b€c".toList ".7".toList 11 = "a#€c".toList ∧
      TightFit "a𐍈b€c".toList ".7".toList 11 ∧ fit "a𐍈b€c".toList ".7".toList 2 = "#".toList ∧
      fitChecked? "a𐍈b€c".toList ".7".toList 11 = some "a#€c".toList := by
  have hfit : fit "a𐍈b€c".toList ".7".toList 11 = "a#€c".toList := by decide
  have hname : Text.bytes "a𐍈b€c".toList < 2 ^ 63 := by decide
  have htail : Text.bytes ".7".toList < 2 ^ 63 := by decide
  obtain ⟨htight, _, hchecked⟩ := fit_uses_its_budget hname htail 11
  obtain ⟨_, hmarker, _⟩ := fit_uses_its_budget hname htail 2
  rw [hfit] at hchecked
  exact ⟨by decide, hfit, htight (by decide), hmarker (by decide) (by decide), hchecked⟩

end ClassLayout
