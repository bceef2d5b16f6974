import ClassLayout.Proofs.Name.Shorten

namespace ClassLayout

def kept (t : Text) (remove : Nat) : Cut := cutMiddle t ((remove + 1) % sizeLimit)

/-- Nothing is kept on either side that the other cut does not keep there. -/
structure Cut.Within (c d : Cut) : Prop where
  before : c.before <+: d.before
  after : c.after <:+ d.after

instance (c d : Cut) : Decidable (c.Within d) :=
  decidable_of_iff (c.before <+: d.before ∧ c.after <:+ d.after)
    ⟨fun h => ⟨h.1, h.2⟩, fun h => ⟨h.before, h.after⟩⟩

def Cut.bytes (c : Cut) : Nat := c.before.bytes + c.after.bytes

variable {t : Text} {c d : Cut} {n m : Nat}

theorem shorten_eq_kept (t : Text) (remove : Nat) :
    shorten t remove = (kept t remove).before ++ cutMarker :: (kept t remove).after := rfl

theorem bytes_shorten_eq_kept (t : Text) (remove : Nat) :
    (shorten t remove).bytes = (kept t remove).bytes + 1 := by
  rw [shorten_eq_kept, bytes_around_cutMarker, Cut.bytes, Nat.add_right_comm]

theorem Cut.Within.exists_bytes_eq (h : c.Within d) :
    ∃ s p, c.before ++ s = d.before ∧ p ++ c.after = d.after ∧
      d.bytes = c.bytes + (Text.bytes s + Text.bytes p) := by
  obtain ⟨s, hs⟩ := h.before
  obtain ⟨p, hp⟩ := h.after
  refine ⟨s, p, hs, hp, ?_⟩
  rw [Cut.bytes, Cut.bytes, ← hs, ← hp, Text.bytes_append, Text.bytes_append]
  omega

theorem Cut.Within.bytes_le (h : c.Within d) : c.bytes ≤ d.bytes := by
  obtain ⟨_, _, _, _, hbytes⟩ := h.exists_bytes_eq
  omega

theorem Cut.Within.eq_of_bytes_le (h : c.Within d) (hle : d.bytes ≤ c.bytes) : c = d := by
  obtain ⟨s, p, hs, hp, hbytes⟩ := h.exists_bytes_eq
  obtain rfl := Text.eq_nil_of_bytes_eq_zero (t := s) (by omega)
  obtain rfl := Text.eq_nil_of_bytes_eq_zero (t := p) (by omega)
  cases c
  cases d
  simp_all

theorem giveUp_prefix {target target' : Nat} (h : target ≤ target') (items : List (Side × Char)) :
    giveUp target items <+: giveUp target' items := by
  induction items generalizing target target' with
  | nil => exact List.prefix_rfl
  | cons x rest ih =>
      rw [giveUp, giveUp]
      by_cases hnone : target = 0
      · rw [if_pos hnone]
        exact List.nil_prefix
      · rw [if_neg hnone, if_neg (by omega)]
        exact List.cons_prefix_cons.2 ⟨rfl, ih (by omega)⟩

theorem cutMiddle_within (t : Text) {target target' : Nat} (h : target ≤ target') :
    (cutMiddle t target').Within (cutMiddle t target) := by
  unfold cutMiddle
  cases t.drop (t.length / 2) with
  | nil => exact ⟨List.prefix_rfl, List.suffix_rfl⟩
  | cons middle right =>
      have hgone := giveUp_prefix (Nat.sub_le_sub_right h middle.utf8Size)
        (centreOut t.length (t.take (t.length / 2)) right)
      constructor
      · apply List.take_prefix_take_left
        exact Nat.sub_le_sub_left (hgone.sublist.countP_le) _
      · apply List.drop_suffix_drop_left
        exact hgone.sublist.countP_le

theorem cutMiddle_zero (t : Text) : cutMiddle t 0 = cutMiddle t 1 := by
  unfold cutMiddle
  cases t.drop (t.length / 2) with
  | nil => rfl
  | cons middle right =>
      have hpos := middle.utf8Size_pos
      have hleft : 0 - middle.utf8Size = 1 - middle.utf8Size := by omega
      dsimp only
      rw [hleft]

theorem kept_of_lt (t : Text) (h : n + 1 < sizeLimit) : kept t n = cutMiddle t (n + 1) := by
  rw [kept, Nat.mod_eq_of_lt h]

theorem kept_within (t : Text) (h : n ≤ m) (hm : m + 1 < sizeLimit) :
    (kept t m).Within (kept t n) := by
  rw [kept_of_lt t hm, kept_of_lt t (by omega)]
  exact cutMiddle_within t (Nat.succ_le_succ h)

theorem kept_of_greatest (t : Text) (h : m + 1 = sizeLimit) : kept t m = kept t 0 := by
  rw [kept, h, Nat.mod_self, cutMiddle_zero, kept_of_lt t (by decide)]

theorem kept_within_zero (t : Text) (hm : m < sizeLimit) : (kept t m).Within (kept t 0) := by
  rcases Nat.lt_or_ge (m + 1) sizeLimit with hlt | hge
  · exact kept_within t (Nat.zero_le m) hlt
  · rw [kept_of_greatest t (by omega)]
    exact ⟨List.prefix_rfl, List.suffix_rfl⟩

/-- To ask for more bytes is to keep no more on either side, and never gives a longer result, but
for the greatest size, which counts as a request for nothing. -/
theorem kept_within_iff (t : Text) (h : n ≤ m) (hm : m < sizeLimit) :
    ((kept t m).Within (kept t n) ↔ m + 1 < sizeLimit ∨ kept t n = kept t 0) ∧
      ((shorten t m).bytes ≤ (shorten t n).bytes ↔ m + 1 < sizeLimit ∨ kept t n = kept t 0) := by
  rw [bytes_shorten_eq_kept, bytes_shorten_eq_kept, Nat.add_le_add_iff_right]
  rcases Nat.lt_or_ge (m + 1) sizeLimit with hlt | hge
  · have hwithin := kept_within t h hlt
    exact ⟨iff_of_true hwithin (.inl hlt), iff_of_true hwithin.bytes_le (.inl hlt)⟩
  · -- what the greatest size keeps is what any other request keeps, and more
    have hzero := kept_within_zero t (Nat.lt_of_le_of_lt h hm)
    rw [kept_of_greatest t (by omega), or_iff_right (Nat.not_lt.2 hge)]
    constructor
    · constructor
      · intro hwithin
        exact hzero.eq_of_bytes_le hwithin.bytes_le
      · intro heq
        rw [heq]
        exact ⟨List.prefix_rfl, List.suffix_rfl⟩
    · constructor
      · intro hle
        exact hzero.eq_of_bytes_le hle
      · intro heq
        exact Nat.le_of_eq (congrArg Cut.bytes heq.symm)

theorem kept_within_iff_mixed_widths :
    (6 ≤ 11 ∧ 11 < sizeLimit ∧ 11 + 1 < sizeLimit) ∧
      kept "aé€𐍈bc".toList 6 = ⟨"aé".toList, ['c']⟩ ∧ kept "aé€𐍈bc".toList 11 = ⟨[], []⟩ ∧
      (kept "aé€𐍈bc".toList 11).Within (kept "aé€𐍈bc".toList 6) ∧
      (shorten "aé€𐍈bc".toList 11).bytes ≤ (shorten "aé€𐍈bc".toList 6).bytes := by
  have hcut := kept_within_iff "aé€𐍈bc".toList (n := 6) (m := 11) (by decide) (by decide)
  exact ⟨by decide, by decide, by decide, hcut.1.2 (.inl (by decide)), hcut.2.2 (.inl (by decide))⟩

/-- With the greatest size nine characters come back that were gone with the size before it. -/
theorem kept_by_greatest_comes_back :
    18446744073709551614 ≤ 18446744073709551615 ∧ 18446744073709551615 < sizeLimit ∧
      shorten "abcdefghij".toList 18446744073709551614 = ['#'] ∧
      shorten "abcdefghij".toList 18446744073709551615 = "abcde#ghij".toList ∧
      ¬ (kept "abcdefghij".toList 18446744073709551615).Within
        (kept "abcdefghij".toList 18446744073709551614) := by
  decide +kernel

end ClassLayout
