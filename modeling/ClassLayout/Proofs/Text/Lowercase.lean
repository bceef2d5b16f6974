import ClassLayout.Text.Lowercase
import Mathlib.Tactic.IntervalCases

namespace ClassLayout

def decimalDigits : Text := ['0', '1', '2', '3', '4', '5', '6', '7', '8', '9']

theorem mem_decimalDigits {c : Char} (h : c.isDigit) : c ∈ decimalDigits := by
  have hc : Char.ofNat c.toNat = c := Char.ofNat_toNat c
  simp only [Char.isDigit, ge_iff_le, Bool.and_eq_true, decide_eq_true_eq,
    UInt32.le_iff_toNat_le] at h
  have hl : 48 ≤ c.toNat := h.1
  have hu : c.toNat ≤ 57 := h.2
  rw [← hc]
  clear hc h
  generalize c.toNat = n at *
  interval_cases n <;> decide

theorem mem_decimalDigits_of_mem_decimal {c : Char} {n : Nat} (h : c ∈ Text.decimal n) :
    c ∈ decimalDigits :=
  mem_decimalDigits (Nat.isDigit_of_mem_toDigits (by decide) (by decide) h)

theorem Text.decimal_injective {n m : Nat} (h : Text.decimal n = Text.decimal m) : n = m := by
  have hv := congrArg (fun ds => Nat.ofDigitChars 10 ds 0) h
  simpa only [Text.decimal, Nat.ofDigitChars_ten_toDigits] using hv

theorem Text.decimal_ne_nil (n : Nat) : Text.decimal n ≠ [] := Nat.toDigits_ne_nil

theorem digit_neutral : ∀ d ∈ decimalDigits,
    lowerChar d = [d] ∧ d ≠ 'Σ' ∧ isCased d = false ∧ isCaseIgnorable d = false := by
  have hall : decimalDigits.all fun d =>
      lowerChar d = [d] ∧ d ≠ 'Σ' ∧ isCased d = false ∧ isCaseIgnorable d = false := by
    decide +kernel
  intro d hd
  exact of_decide_eq_true (List.all_eq_true.1 hall d hd)

theorem point_neutral : lowerChar '.' = ['.'] := by decide +kernel

theorem meetsCased_append_digit (u : Text) {d : Char} (hd : d ∈ decimalDigits) (b : Text) :
    meetsCased (u ++ d :: b) = meetsCased u := by
  obtain ⟨_, _, hc, hi⟩ := digit_neutral d hd
  induction u with
  | nil => simp [meetsCased, hi, hc]
  | cons c u ih =>
      by_cases hu : isCaseIgnorable c
      · simpa [meetsCased, hu] using ih
      · simp [meetsCased, hu]

namespace Text

theorem lowerFrom_shielded (u : Text) {d : Char} (hd : d ∈ decimalDigits) (b t : Text) :
    lowerFrom (u ++ d :: b) t = lowerFrom u t := by
  induction t generalizing u with
  | nil => rfl
  | cons c t ih =>
      have hr := ih (c :: u)
      rw [List.cons_append] at hr
      simp only [lowerFrom, endsWord, meetsCased_append_digit u hd b, hr]
      rfl

theorem lowerFrom_digit_cons (b : Text) {d : Char} (hd : d ∈ decimalDigits) (t : Text) :
    lowerFrom b (d :: t) = d :: lower t := by
  obtain ⟨hl, hs, _, _⟩ := digit_neutral d hd
  have hr : lowerFrom (d :: b) t = lower t := lowerFrom_shielded [] hd b t
  simp only [lowerFrom, if_neg hs, hl, hr, List.cons_append, List.nil_append]

theorem lower_digits_append {ds : Text} (h : ∀ d ∈ ds, d ∈ decimalDigits) (t : Text) :
    lower (ds ++ t) = ds ++ lower t := by
  induction ds with
  | nil => rfl
  | cons d ds ih =>
      rw [List.cons_append, lower, lowerFrom_digit_cons [] (h d (by simp)),
        ih (fun x hx => h x (by simp [hx])), List.cons_append]

theorem lowerFrom_decimal_append (b : Text) (n : Nat) (t : Text) :
    lowerFrom b (decimal n ++ t) = decimal n ++ lower t := by
  have hds : ∀ d ∈ decimal n, d ∈ decimalDigits := fun _ => mem_decimalDigits_of_mem_decimal
  cases hn : decimal n with
  | nil => exact absurd hn (decimal_ne_nil n)
  | cons d ds =>
      rw [hn] at hds
      rw [List.cons_append, lowerFrom_digit_cons b (hds d (by simp)),
        lower_digits_append (fun x hx => hds x (by simp [hx])), List.cons_append]

def lowerBeside (before : Text) (c : Char) (after : Text) : Text :=
  if c = 'Σ' then (if endsWord before after then ['ς'] else ['σ']) else lowerChar c

theorem lowerFrom_cons (before : Text) (c : Char) (rest : Text) :
    lowerFrom before (c :: rest) = lowerBeside before c rest ++ lowerFrom (c :: before) rest := rfl

def lowerBetween (before : Text) : Text → Text → Text
  | [], _ => []
  | c :: rest, after =>
      lowerBeside before c (rest ++ after) ++ lowerBetween (c :: before) rest after

theorem lowerFrom_append (before s t : Text) :
    lowerFrom before (s ++ t) = lowerBetween before s t ++ lowerFrom (s.reverse ++ before) t := by
  induction s generalizing before with
  | nil => rfl
  | cons c s ih =>
      simp only [List.cons_append, lowerFrom_cons, lowerBetween, ih, List.reverse_cons,
        List.append_assoc, List.nil_append]

theorem lower_numbered (s : Text) (n : Nat) (tail : Text) :
    ∃ s', lower (s ++ '.' :: (decimal n ++ tail)) = s' ++ '.' :: (decimal n ++ lower tail) := by
  refine ⟨lowerBetween [] s ('.' :: (decimal n ++ tail)), ?_⟩
  rw [lower, lowerFrom_append]
  simp only [lowerFrom, if_neg (show '.' ≠ 'Σ' by decide), point_neutral,
    lowerFrom_decimal_append, List.cons_append, List.nil_append]

theorem takeWhile_reverse_numbered (s : Text) (n : Nat) :
    (s ++ '.' :: decimal n).reverse.takeWhile (· ∈ decimalDigits) = (decimal n).reverse := by
  have hds : ∀ d ∈ (decimal n).reverse, decide (d ∈ decimalDigits) := by
    intro d hd
    exact decide_eq_true (mem_decimalDigits_of_mem_decimal (List.mem_reverse.1 hd))
  rw [List.reverse_append, List.reverse_cons, List.append_assoc, List.takeWhile_append_of_pos hds,
    List.singleton_append, List.takeWhile_cons_of_neg (by decide), List.append_nil]

/-- The lowercase form tells numbers apart before one and the same tail, whatever stands before
them. -/
theorem number_eq_of_lower_eq {s s' tail : Text} {n m : Nat}
    (h : lower (s ++ '.' :: (decimal n ++ tail)) = lower (s' ++ '.' :: (decimal m ++ tail))) :
    n = m := by
  obtain ⟨u, hu⟩ := lower_numbered s n tail
  obtain ⟨u', hu'⟩ := lower_numbered s' m tail
  rw [hu, hu', ← List.cons_append, ← List.cons_append, ← List.append_assoc,
    ← List.append_assoc] at h
  have hn : u ++ '.' :: decimal n = u' ++ '.' :: decimal m := List.append_cancel_right h
  have hr := congrArg (fun t => t.reverse.takeWhile (· ∈ decimalDigits)) hn
  rw [takeWhile_reverse_numbered, takeWhile_reverse_numbered] at hr
  exact decimal_injective (List.reverse_inj.1 hr)

end Text

/-- A character before the small letters of ASCII, such as point or separator. No other character
is lowered to it. -/
def Char.IsLow (c : Char) : Prop := 0 < c.toNat ∧ c.toNat < 0x61

instance (c : Char) : Decidable (Char.IsLow c) :=
  inferInstanceAs (Decidable (0 < c.toNat ∧ c.toNat < 0x61))

theorem le_lower_of_mem_caseRuns : ∀ r ∈ caseRuns, 0x61 ≤ r.lower := by decide +kernel

theorem toNat_ofNat_cases (n : Nat) : (Char.ofNat n).toNat = n ∨ (Char.ofNat n).toNat = 0 := by
  by_cases h : n.isValidChar
  · rw [Char.ofNat, dif_pos h]
    exact .inl rfl
  · rw [Char.ofNat, dif_neg h]
    exact .inr rfl

theorem eq_of_lowerLetter_eq {c x : Char} (hx : Char.IsLow x) (h : lowerLetter c = x) : c = x := by
  unfold lowerLetter at h
  cases hr : caseRuns.find? (·.holds c.toNat) with
  | none => simpa [hr] using h
  | some r =>
      simp only [hr] at h
      have hl := le_lower_of_mem_caseRuns r (List.mem_of_find?_eq_some hr)
      obtain ⟨hpos, hlt⟩ := hx
      rcases toNat_ofNat_cases (r.apply c.toNat) with hn | hn
      · rw [h, CaseRun.apply] at hn
        omega
      · rw [h] at hn
        omega

theorem eq_of_mem_lowerChar {c x : Char} (hx : Char.IsLow x) (h : x ∈ lowerChar c) : c = x := by
  unfold lowerChar at h
  split at h
  · rcases List.mem_cons.1 h with rfl | h
    · exact absurd hx.2 (by decide)
    · obtain rfl := List.mem_singleton.1 h
      exact absurd hx.2 (by decide)
  · exact eq_of_lowerLetter_eq hx (List.mem_singleton.1 h).symm

namespace Text

variable {before after t : Text} {c x : Char}

theorem eq_of_mem_lowerBeside (hx : Char.IsLow x) (h : x ∈ lowerBeside before c after) : c = x := by
  unfold lowerBeside at h
  split at h
  · split at h
    · obtain rfl := List.mem_singleton.1 h
      exact absurd hx.2 (by decide)
    · obtain rfl := List.mem_singleton.1 h
      exact absurd hx.2 (by decide)
  · exact eq_of_mem_lowerChar hx h

theorem mem_of_mem_lowerFrom (hx : Char.IsLow x) (h : x ∈ lowerFrom before t) : x ∈ t := by
  induction t generalizing before with
  | nil => exact h
  | cons c rest ih =>
      rcases List.mem_append.1 h with h | h
      · exact List.mem_cons.2 (.inl (eq_of_mem_lowerBeside hx h).symm)
      · exact List.mem_cons_of_mem _ (ih h)

theorem lowerBeside_ne_nil : lowerBeside before c after ≠ [] := by
  unfold lowerBeside lowerChar
  split
  · split <;> exact List.cons_ne_nil _ _
  · split <;> exact List.cons_ne_nil _ _

theorem lower_ne_nil (h : t ≠ []) : lower t ≠ [] := by
  cases t with
  | nil => exact absurd rfl h
  | cons c rest => exact List.append_ne_nil_of_left_ne_nil lowerBeside_ne_nil _

theorem lowerBeside_of_isLow (h : ∀ x ∈ lowerBeside before c after, Char.IsLow x) :
    lowerBeside before c after = [c] := by
  unfold lowerBeside lowerChar at *
  split at h
  · split at h
    · exact absurd (h 'ς' List.mem_cons_self).2 (by decide)
    · exact absurd (h 'σ' List.mem_cons_self).2 (by decide)
  · split at h
    · exact absurd (h 'i' List.mem_cons_self).2 (by decide)
    · rename_i hs hi
      rw [if_neg hs, if_neg hi, ← eq_of_lowerLetter_eq (h _ List.mem_cons_self) rfl]

theorem eq_of_lowerFrom_isLow (h : ∀ x ∈ lowerFrom before t, Char.IsLow x) :
    lowerFrom before t = t := by
  induction t generalizing before with
  | nil => rfl
  | cons c rest ih =>
      have hhead : lowerBeside before c rest = [c] :=
        lowerBeside_of_isLow fun x hx => h x (List.mem_append_left _ hx)
      have hrest : lowerFrom (c :: before) rest = rest :=
        ih fun x hx => h x (List.mem_append_right _ hx)
      rw [lowerFrom_cons, hhead, hrest, List.singleton_append]

end Text

end ClassLayout
