import ClassLayout.Proofs.Name.Rules

namespace ClassLayout

def deviceNames : List Text :=
  reservedNames ++ reservedFamilies.flatMap fun family =>
    "123456789".toList.map fun digit => family ++ [digit]

def IsDevice (name : Text) : Prop := name.map Char.toUpper ∈ deviceNames

instance (name : Text) : Decidable (IsDevice name) :=
  inferInstanceAs (Decidable (_ ∈ deviceNames))

theorem mem_digits_of_le {d : Char} (hl : '1' ≤ d) (hu : d ≤ '9') : d ∈ "123456789".toList := by
  have hnumbers : "123456789".toList = (List.range' 49 9).map Char.ofNat := by decide
  have hl : 49 ≤ d.toNat := hl
  have hu : d.toNat ≤ 57 := hu
  rw [hnumbers]
  refine List.mem_map.2 ⟨d.toNat, ?_, Char.ofNat_toNat d⟩
  rw [List.mem_range'_1]
  omega

theorem isReserved_iff {name : Text} : isReserved name ↔ IsDevice name := by
  unfold isReserved IsDevice deviceNames
  dsimp only
  generalize name.map Char.toUpper = upper
  rw [Bool.or_eq_true, List.contains_iff_mem, List.mem_append]
  apply or_congr_right
  constructor
  · intro h
    obtain ⟨hfamily, hdigit⟩ := Bool.and_eq_true_iff.1 h
    split at hdigit
    · rename_i d hd
      obtain ⟨hl, hu⟩ := Bool.and_eq_true_iff.1 hdigit
      refine List.mem_flatMap.2 ⟨upper.take 3, List.contains_iff_mem.1 hfamily,
        List.mem_map.2 ⟨d, mem_digits_of_le (of_decide_eq_true hl) (of_decide_eq_true hu), ?_⟩⟩
      rw [← hd, List.take_append_drop]
    · cases hdigit
  · revert upper
    decide

theorem not_isDevice_of_mem {name : Text} {c : Char} (hc : c ∈ name)
    (h : c.toUpper ∉ deviceNames.flatten) : ¬ IsDevice name := by
  intro hdevice
  exact h (List.mem_flatten.2 ⟨_, hdevice, List.mem_map_of_mem hc⟩)

theorem utf8Size_toUpper (c : Char) : c.toUpper.utf8Size = c.utf8Size := by
  unfold Char.toUpper
  split
  · rename_i hlower
    have hwidth : c.utf8Size = 1 :=
      Char.utf8Size_eq_one_iff.2 (UInt32.le_trans hlower.2 (by decide))
    have hl : 97 ≤ c.val.toNat := UInt32.le_iff_toNat_le.1 hlower.1
    have hu : c.val.toNat ≤ 122 := UInt32.le_iff_toNat_le.1 hlower.2
    rw [hwidth, Char.utf8Size_eq_one_iff]
    grind
  · rfl

theorem Text.bytes_map_toUpper (t : Text) : Text.bytes (t.map Char.toUpper) = t.bytes := by
  induction t with
  | nil => rfl
  | cons c t ih => rw [List.map_cons, Text.bytes_cons, Text.bytes_cons, utf8Size_toUpper, ih]

theorem IsDevice.bytes_le {name : Text} (h : IsDevice name) : name.bytes ≤ 4 := by
  have hall : ∀ device ∈ deviceNames, device.bytes ≤ 4 := by decide
  rw [← Text.bytes_map_toUpper]
  exact hall _ h

theorem bytes_escapeReserved_le (segment : Text) :
    (escapeReserved segment).bytes ≤ max 5 segment.bytes := by
  unfold escapeReserved
  split
  · rename_i hreserved
    have hbytes := (isReserved_iff.1 hreserved).bytes_le
    have hmarker : reservedMarker.utf8Size = 1 := rfl
    rw [Text.bytes_append, Text.bytes_cons, hmarker, Text.bytes_nil]
    omega
  · exact Nat.le_max_right _ _

namespace Rules

variable {rules : Rules} {id : EntryId}

theorem not_isDevice_stem (h : rules.escapes) (segment : Text) :
    ¬ IsDevice (rules.stem segment) := by
  rw [stem, if_pos h, escapeReserved]
  split
  · exact not_isDevice_of_mem (c := reservedMarker) (by simp) (by decide)
  · rwa [← isReserved_iff]

/-- A stem that is not left alone has the marker of the cut in it. -/
theorem not_isDevice_fit (h : rules.escapes) (segment tail : Text) (maxBytes : Nat) :
    ¬ IsDevice (fit (rules.stem segment) tail maxBytes) := by
  rcases fit_eq_or_cutMarker_mem (rules.stem segment) tail maxBytes with he | hm
  · rw [he]
    exact not_isDevice_stem h segment
  · exact not_isDevice_of_mem hm (by decide)

theorem not_isDevice_append_numberTail (t : Text) (n : Nat) : ¬ IsDevice (t ++ numberTail n) :=
  not_isDevice_of_mem (List.mem_append_right _ (List.mem_cons_self (a := '.'))) (by decide)

theorem Accepted.fit_stem (h : rules.Accepted)
    (fits : id.segment.bytes + (rules.extensionOf id.kind).bytes ≤ rules.maxBytes) :
    fit (rules.stem id.segment) (rules.extensionOf id.kind) rules.maxBytes =
      if rules.escapes ∧ IsDevice id.segment then id.segment ++ [reservedMarker]
      else id.segment := by
  have hroom := h.room
  have htail := rules.bytes_extensionOf_le id.kind
  have hbytes := bytes_escapeReserved_le id.segment
  have hstem : rules.stem id.segment =
      if rules.escapes ∧ IsDevice id.segment then id.segment ++ [reservedMarker]
      else id.segment := by
    simp only [stem, escapeReserved, isReserved_iff, ite_and]
  unfold Settings.nameRoom at hroom
  rw [← hstem]
  apply fit_of_bytes_le
  unfold stem
  split
  · omega
  · exact fits

/-- No device name stands before the tail of a name, nor before the extension alone, and what
stands there is the segment where that fits. -/
structure ClearOfDevices (rules : Rules) (id : EntryId) (name : Text) : Prop where
  name_eq : name = rules.plainName id ∨ ∃ n, name = rules.numberedName id n
  plain : name = rules.plainName id → ∃ stem, name = stem ++ rules.extensionOf id.kind ∧
    (rules.escapes → ¬ IsDevice stem) ∧
    (id.segment.bytes + (rules.extensionOf id.kind).bytes ≤ rules.maxBytes →
      stem = if rules.escapes ∧ IsDevice id.segment then id.segment ++ [reservedMarker]
        else id.segment)
  numbered : ∀ n, name = rules.numberedName id n → ∃ stem,
    name = stem ++ (numberTail n ++ rules.extensionOf id.kind) ∧
      (rules.escapes → ¬ IsDevice stem ∧ ¬ IsDevice (stem ++ numberTail n))

theorem Accepted.clearOfDevices (h : rules.Accepted) {name : Text}
    (hname : name = rules.plainName id ∨ ∃ n, name = rules.numberedName id n) :
    rules.ClearOfDevices id name := by
  refine ⟨hname, ?_, ?_⟩
  · rintro rfl
    exact ⟨_, rfl, fun hescapes => not_isDevice_fit hescapes _ _ _, h.fit_stem⟩
  · rintro n rfl
    exact ⟨_, rfl, fun hescapes =>
      ⟨not_isDevice_fit hescapes _ _ _, not_isDevice_append_numberTail _ n⟩⟩

end Rules

end ClassLayout
