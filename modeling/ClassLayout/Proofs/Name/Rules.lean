import ClassLayout.Identifier
import ClassLayout.Proofs.Text.Lowercase
import ClassLayout.Name.Rules
import ClassLayout.Settings
import Mathlib.Data.List.Nodup
import Mathlib.Tactic.ByContra
import Mathlib.Tactic.Push

namespace ClassLayout

theorem mem_of_mem_cutMiddle {t : Text} {target : Nat} {c : Char}
    (h : c ∈ (cutMiddle t target).before ∨ c ∈ (cutMiddle t target).after) : c ∈ t := by
  unfold cutMiddle at h
  cases hd : t.drop (t.length / 2) with
  | nil => simp [hd] at h
  | cons middle right =>
      simp only [hd] at h
      rcases h with h | h
      · exact List.mem_of_mem_take (List.mem_of_mem_take h)
      · have hr : c ∈ t.drop (t.length / 2) := by
          rw [hd]
          exact List.mem_cons_of_mem _ (List.mem_of_mem_drop h)
        exact List.mem_of_mem_drop hr

theorem mem_shorten {t : Text} {remove : Nat} {c : Char} (h : c ∈ shorten t remove) :
    c = cutMarker ∨ c ∈ t := by
  simp only [shorten, List.mem_append, List.mem_cons] at h
  rcases h with h | rfl | h
  · exact .inr (mem_of_mem_cutMiddle (.inl h))
  · exact .inl rfl
  · exact .inr (mem_of_mem_cutMiddle (.inr h))

theorem cutMarker_mem_shorten (t : Text) (remove : Nat) : cutMarker ∈ shorten t remove := by
  simp [shorten]

theorem fit_of_bytes_le {t tail : Text} {maxBytes : Nat} (h : t.bytes + tail.bytes ≤ maxBytes) :
    fit t tail maxBytes = t := if_neg (Nat.not_lt.2 h)

theorem fit_eq_or_cutMarker_mem (t tail : Text) (maxBytes : Nat) :
    fit t tail maxBytes = t ∨ cutMarker ∈ fit t tail maxBytes := by
  simp only [fit]
  split
  · exact .inr (cutMarker_mem_shorten _ _)
  · exact .inl rfl

theorem mem_fit {t tail : Text} {maxBytes : Nat} {c : Char} (h : c ∈ fit t tail maxBytes) :
    c = cutMarker ∨ c ∈ t := by
  simp only [fit] at h
  split at h
  · exact mem_shorten h
  · exact .inr h

theorem fit_ne_nil {t : Text} (ht : t ≠ []) (tail : Text) (maxBytes : Nat) :
    fit t tail maxBytes ≠ [] := by
  rcases fit_eq_or_cutMarker_mem t tail maxBytes with h | h
  · rwa [h]
  · exact List.ne_nil_of_mem h

theorem isSegment_fold {name : Text} (h : IsSegment name) : IsSegment (fold name) :=
  ⟨Text.lower_ne_nil h.1, fun hs => h.2 (Text.mem_of_mem_lowerFrom (by decide) hs)⟩

/-- What a tree needs of its rules: room for a name beside the extension, and no separator in it. -/
structure Rules.Accepted (rules : Rules) : Prop where
  room : rules.extension.bytes + Settings.nameRoom ≤ rules.maxBytes
  no_slash : '/' ∉ rules.extension
  no_backslash : '\\' ∉ rules.extension

theorem Settings.accepted_of_flaw? {settings : Settings} (h : settings.flaw? = none)
    (escapes : Bool) :
    Rules.Accepted ⟨settings.fileExtension, settings.maxComponentBytes, escapes⟩ := by
  simp only [flaw?] at h
  split at h
  · exact absurd h (by simp)
  · split at h
    · exact absurd h (by simp)
    · rename_i hroom
      split at h
      · exact absurd h (by simp)
      · rename_i hsep
        exact ⟨Nat.not_lt.1 hroom, fun hs => hsep (.inl hs), fun hs => hsep (.inr hs)⟩

namespace Rules

variable {rules : Rules}

theorem isSegment_stem (rules : Rules) {segment : Text} (h : IsSegment segment) :
    IsSegment (rules.stem segment) := by
  unfold stem escapeReserved
  split
  · split
    · exact ⟨by simp, by simp [h.2, reservedMarker]⟩
    · exact h
  · exact h

theorem isSegment_nameWithTail {segment tail : Text} (h : IsSegment segment) (ht : '/' ∉ tail) :
    IsSegment (rules.nameWithTail segment tail) := by
  have hstem := isSegment_stem rules h
  refine ⟨List.append_ne_nil_of_left_ne_nil (fit_ne_nil hstem.1 _ _) _, ?_⟩
  intro hm
  rcases List.mem_append.1 hm with hm | hm
  · rcases mem_fit hm with hc | hc
    · exact absurd hc (by decide)
    · exact hstem.2 hc
  · exact ht hm

theorem bytes_extensionOf_le (rules : Rules) (kind : Kind) :
    (rules.extensionOf kind).bytes ≤ rules.extension.bytes := by
  cases kind with
  | package => exact Nat.zero_le _
  | classFile => exact Nat.le_refl _

theorem Accepted.no_slash_extensionOf (h : rules.Accepted) (kind : Kind) :
    '/' ∉ rules.extensionOf kind := by
  cases kind with
  | package => exact List.not_mem_nil
  | classFile => exact h.no_slash

theorem Accepted.isSegment_plainName (h : rules.Accepted) {id : EntryId}
    (hid : IsSegment id.segment) : IsSegment (rules.plainName id) :=
  isSegment_nameWithTail hid (h.no_slash_extensionOf id.kind)

theorem Accepted.isSegment_numberedName (h : rules.Accepted) {id : EntryId}
    (hid : IsSegment id.segment) (n : Nat) : IsSegment (rules.numberedName id n) := by
  apply isSegment_nameWithTail hid
  intro hm
  rcases List.mem_append.1 hm with hm | hm
  · rcases List.mem_cons.1 hm with hc | hc
    · exact absurd hc (by decide)
    · exact absurd (mem_decimalDigits_of_mem_decimal hc) (by decide)
  · exact h.no_slash_extensionOf id.kind hm

/-- Different numbers give names that differ even after folding, however the segment had to be
shortened for each. -/
theorem number_eq_of_fold_eq {id : EntryId} {n m : Nat}
    (h : fold (rules.numberedName id n) = fold (rules.numberedName id m)) : n = m := by
  simp only [fold, numberedName, nameWithTail, numberTail, List.cons_append] at h
  exact Text.number_eq_of_lower_eq h

theorem exists_free_number (rules : Rules) (id : EntryId) (keys : List Text) (first : Nat) :
    ∃ n, first ≤ n ∧ n < first + (keys.length + 1) ∧ fold (rules.numberedName id n) ∉ keys := by
  by_contra hnone
  -- all the candidates would be keys, and they are one more than there are
  push Not at hnone
  have hnodup : ((List.range' first (keys.length + 1)).map
      fun n => fold (rules.numberedName id n)).Nodup :=
    List.Nodup.map_on (fun _ _ _ _ h => number_eq_of_fold_eq h) List.nodup_range'
  have hsub : ((List.range' first (keys.length + 1)).map
      fun n => fold (rules.numberedName id n)) ⊆ keys := by
    intro key hk
    obtain ⟨n, hn, rfl⟩ := List.mem_map.1 hk
    obtain ⟨hl, hu⟩ := List.mem_range'_1.1 hn
    exact hnone n hl hu
  have hlen := hnodup.length_le_of_subset hsub
  simp only [List.length_map, List.length_range'] at hlen
  omega

end Rules

end ClassLayout
