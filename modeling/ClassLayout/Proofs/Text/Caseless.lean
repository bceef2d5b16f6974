import ClassLayout.Proofs.Text.Lowercase
import Mathlib.Data.List.Induction

namespace ClassLayout

def within (ranges : List (Nat × Nat)) (first last : Nat) : Bool :=
  ranges.any fun r => r.1 ≤ first && last ≤ r.2

def apartFrom (ranges : List (Nat × Nat)) (first last : Nat) : Bool :=
  ranges.all fun r => r.2 < first || last < r.1

theorem inRanges_of_within {ranges : List (Nat × Nat)} {first last : Nat}
    (h : within ranges first last) {c : Char} (hl : first ≤ c.toNat) (hu : c.toNat ≤ last) :
    inRanges ranges c := by
  obtain ⟨r, hr, hin⟩ := List.any_eq_true.1 h
  refine List.any_eq_true.2 ⟨r, hr, ?_⟩
  simp only [Bool.and_eq_true, decide_eq_true_iff] at hin ⊢
  omega

theorem inRanges_of_apartFrom {ranges : List (Nat × Nat)} {first last : Nat}
    (h : apartFrom ranges first last) {c : Char} (hl : first ≤ c.toNat) (hu : c.toNat ≤ last) :
    inRanges ranges c = false := by
  refine List.any_eq_false.2 fun r hr => ?_
  have hout := List.all_eq_true.1 h r hr
  simp only [Bool.or_eq_true, Bool.and_eq_true, decide_eq_true_iff] at hout ⊢
  omega

/-- Stretches of code points that cover all letters with a lowercase form, and these forms, but
nothing that is case-ignorable. -/
def letterStretches : List (Nat × Nat) :=
  [(0x41, 0x5A), (0x61, 0x7A), (0xC0, 0x29E), (0x370, 0x373), (0x376, 0x377), (0x37B, 0x37F),
   (0x386, 0x386), (0x388, 0x481), (0x48A, 0x556), (0x561, 0x586), (0x10A0, 0x10FA),
   (0x10FD, 0x10FF), (0x13A0, 0x13FD), (0x1C89, 0x1CBF), (0x1D79, 0x1D8E), (0x1E00, 0x1FBC),
   (0x1FC3, 0x1FCC), (0x1FD0, 0x1FDB), (0x1FE0, 0x1FEC), (0x1FF3, 0x1FFC), (0x2126, 0x2C76),
   (0x2C7E, 0x2CEE), (0x2CF2, 0x2D2D), (0xA640, 0xA66D), (0xA680, 0xA69B), (0xA722, 0xA76F),
   (0xA779, 0xA787), (0xA78B, 0xA7DC), (0xA7F5, 0xA7F6), (0xAB53, 0xAB53), (0xAB70, 0xABBF),
   (0xFF21, 0xFF3A), (0xFF41, 0xFF5A), (0x10400, 0x105BC), (0x10C80, 0x10CF2),
   (0x10D50, 0x10D65), (0x10D70, 0x10D85), (0x118A0, 0x118DF), (0x16E40, 0x16ED3),
   (0x1E900, 0x1E943)]

theorem apartFrom_of_mem_letterStretches :
    ∀ q ∈ letterStretches, apartFrom caseIgnorableRanges q.1 q.2 := by decide +kernel

structure IsLetter (c : Char) : Prop where
  cased : isCased c = true
  not_ignorable : isCaseIgnorable c = false

theorem not_ignorable_of_within {first last : Nat} (h : within letterStretches first last)
    {c : Char} (hl : first ≤ c.toNat) (hu : c.toNat ≤ last) : isCaseIgnorable c = false := by
  obtain ⟨q, hq, hin⟩ := List.any_eq_true.1 h
  simp only [Bool.and_eq_true, decide_eq_true_iff] at hin
  exact inRanges_of_apartFrom (apartFrom_of_mem_letterStretches q hq) (by omega) (by omega)

namespace CaseRun

def lowerLast (r : CaseRun) : Nat := r.lower + (r.last - r.first)

theorem within_letterStretches : ∀ r ∈ caseRuns,
    within letterStretches r.first r.last ∧ within letterStretches r.lower r.lowerLast := by
  decide +kernel

theorem within_casedRanges : ∀ r ∈ caseRuns,
    within casedRanges r.lower r.lowerLast ∧ (within casedRanges r.first r.last ∨
      ∀ n ∈ List.range' r.first (r.last - r.first + 1), r.holds n → within casedRanges n n) := by
  decide +kernel

theorem lower_valid : ∀ r ∈ caseRuns,
    r.lowerLast < 0xD800 ∨ 0xDFFF < r.lower ∧ r.lowerLast < 0x110000 := by
  decide +kernel

theorem first_of_sigma : ∀ r ∈ caseRuns, r.lower ≤ 0x3C3 → 0x3C3 ≤ r.lowerLast →
    r.first + (0x3C3 - r.lower) = 0x3A3 := by
  decide +kernel

variable {r : CaseRun} {n : Nat}

theorem bounds_of_holds (h : r.holds n) : r.first ≤ n ∧ n ≤ r.last := by
  simp only [holds, Bool.and_eq_true, decide_eq_true_iff] at h
  exact h.1

theorem bounds_apply (h : r.holds n) : r.lower ≤ r.apply n ∧ r.apply n ≤ r.lowerLast := by
  obtain ⟨hl, hu⟩ := bounds_of_holds h
  unfold apply lowerLast
  omega

theorem toNat_apply (hr : r ∈ caseRuns) (h : r.holds n) :
    (Char.ofNat (r.apply n)).toNat = r.apply n := by
  obtain ⟨hl, hu⟩ := bounds_apply h
  have hvalid : (r.apply n).isValidChar := (lower_valid r hr).imp (by omega) (by omega)
  rw [Char.ofNat, dif_pos hvalid]
  rfl

theorem isLetter (hr : r ∈ caseRuns) {c : Char} (h : r.holds c.toNat) : IsLetter c := by
  obtain ⟨hl, hu⟩ := bounds_of_holds h
  refine ⟨?_, not_ignorable_of_within (within_letterStretches r hr).1 hl hu⟩
  rcases (within_casedRanges r hr).2 with hcased | hcased
  · exact inRanges_of_within hcased hl hu
  · have hpoint := hcased c.toNat (List.mem_range'_1.2 ⟨hl, by omega⟩) h
    exact inRanges_of_within hpoint (Nat.le_refl _) (Nat.le_refl _)

theorem isLetter_apply (hr : r ∈ caseRuns) (h : r.holds n) :
    IsLetter (Char.ofNat (r.apply n)) := by
  obtain ⟨hl, hu⟩ := bounds_apply h
  rw [← toNat_apply hr h] at hl hu
  exact ⟨inRanges_of_within (within_casedRanges r hr).1 hl hu,
    not_ignorable_of_within (within_letterStretches r hr).2 hl hu⟩

end CaseRun

theorem lowerLetter_eq_or_run (c : Char) : lowerLetter c = c ∨
    ∃ r ∈ caseRuns, r.holds c.toNat ∧ lowerLetter c = Char.ofNat (r.apply c.toNat) := by
  unfold lowerLetter
  cases hr : caseRuns.find? (·.holds c.toNat) with
  | none => exact .inl rfl
  | some r => exact .inr ⟨r, List.mem_of_find?_eq_some hr, by simpa using List.find?_some hr, rfl⟩

theorem lowerLetter_cases (c : Char) :
    lowerLetter c = c ∨ IsLetter c ∧ IsLetter (lowerLetter c) := by
  rcases lowerLetter_eq_or_run c with h | ⟨r, hr, hholds, h⟩
  · exact .inl h
  · rw [h]
    exact .inr ⟨CaseRun.isLetter hr hholds, CaseRun.isLetter_apply hr hholds⟩

theorem eq_of_lowerLetter_eq_sigma {c : Char} (hc : lowerLetter c = 'σ') : c = 'Σ' ∨ c = 'σ' := by
  rcases lowerLetter_eq_or_run c with h | ⟨r, hr, hholds, h⟩
  · exact .inr (h.symm.trans hc)
  · obtain ⟨hl, hu⟩ := CaseRun.bounds_apply hholds
    obtain ⟨hfirst, _⟩ := CaseRun.bounds_of_holds hholds
    have hsigma : 0x3C3 = r.apply c.toNat := by
      rw [← CaseRun.toNat_apply hr hholds, ← h, hc]
      rfl
    have hcapital := CaseRun.first_of_sigma r hr (by omega) (by omega)
    have hnat : c.toNat = 0x3A3 := by
      unfold CaseRun.apply at hsigma
      omega
    left
    rw [← Char.ofNat_toNat c, hnat]

theorem meetsCased_cons (c : Char) (u : Text) :
    meetsCased (c :: u) = if isCaseIgnorable c then meetsCased u else isCased c := by
  by_cases hc : isCaseIgnorable c
  · simp [meetsCased, hc]
  · simp [meetsCased, hc]

theorem meetsCased_cons_congr {u v : Text} (h : meetsCased u = meetsCased v) (c : Char) :
    meetsCased (c :: u) = meetsCased (c :: v) := by
  rw [meetsCased_cons, meetsCased_cons, h]

theorem IsLetter.meetsCased {c : Char} (h : IsLetter c) (u : Text) :
    meetsCased (c :: u) = true := by
  rw [meetsCased_cons, h.not_ignorable, h.cased]
  rfl

theorem meetsCased_lowerLetter (c : Char) (u : Text) :
    meetsCased (lowerLetter c :: u) = meetsCased (c :: u) := by
  rcases lowerLetter_cases c with h | ⟨hc, hl⟩
  · rw [h]
  · rw [hc.meetsCased, hl.meetsCased]

theorem lowerChar_capital : lowerChar 'Σ' = ['σ'] := by decide +kernel

theorem lowerChar_small : lowerChar 'σ' = ['σ'] := by decide +kernel

theorem lowerChar_of_ne {c : Char} (h : c ≠ 'İ') : lowerChar c = [lowerLetter c] := if_neg h

theorem isLetter_dotted : IsLetter 'İ' := ⟨by decide +kernel, by decide +kernel⟩

theorem isLetter_i : IsLetter 'i' := ⟨by decide +kernel, by decide +kernel⟩

theorem meetsCased_lowerChar (c : Char) (u : Text) :
    meetsCased (lowerChar c ++ u) = meetsCased (c :: u) := by
  by_cases hc : c = 'İ'
  · rw [hc, isLetter_dotted.meetsCased]
    exact isLetter_i.meetsCased _
  · rw [lowerChar_of_ne hc]
    exact meetsCased_lowerLetter c u

theorem meetsCased_reverse_lowerChar (c : Char) (u : Text) :
    meetsCased ((lowerChar c).reverse ++ u) = meetsCased (c :: u) := by
  by_cases hc : c = 'İ'
  · have hdot : isCaseIgnorable '\u0307' := by decide +kernel
    have hback : (lowerChar 'İ').reverse ++ u = '\u0307' :: 'i' :: u := rfl
    rw [hc, isLetter_dotted.meetsCased, hback, meetsCased_cons, if_pos hdot, isLetter_i.meetsCased]
  · rw [lowerChar_of_ne hc]
    exact meetsCased_lowerLetter c u

namespace Text

def caseless (t : Text) : Text := t.flatMap lowerChar

/-- The letters of the caseless form, each with whether a capital sigma became it. -/
def traced (t : Text) : List (Char × Bool) :=
  t.flatMap fun c => (lowerChar c).map (·, decide (c = 'Σ'))

/-- The lowercase form from letters that are lowered already: what is left is how the former capital
sigmas end their words. -/
def settle (before : Text) : List (Char × Bool) → Text
  | [] => []
  | (c, capital) :: rest =>
      (if capital ∧ endsWord before (rest.map Prod.fst) then 'ς' else c) ::
        settle (c :: before) rest

variable {s t before before' : Text} {c : Char}

theorem caseless_cons (c : Char) (t : Text) : caseless (c :: t) = lowerChar c ++ caseless t :=
  List.flatMap_cons

theorem caseless_append (s t : Text) : caseless (s ++ t) = caseless s ++ caseless t :=
  List.flatMap_append

theorem traced_cons (c : Char) (t : Text) :
    traced (c :: t) = (lowerChar c).map (·, decide (c = 'Σ')) ++ traced t := List.flatMap_cons

theorem traced_append (s t : Text) : traced (s ++ t) = traced s ++ traced t :=
  List.flatMap_append

theorem map_fst_traced (t : Text) : (traced t).map Prod.fst = caseless t := by
  induction t with
  | nil => rfl
  | cons c t ih =>
      rw [traced_cons, caseless_cons, List.map_append, ih, List.map_map]
      simp [Function.comp_def]

theorem length_traced (t : Text) : (traced t).length = (caseless t).length := by
  rw [← map_fst_traced, List.length_map]

theorem meetsCased_caseless (t : Text) : meetsCased (caseless t) = meetsCased t := by
  induction t with
  | nil => rfl
  | cons c t ih => rw [caseless_cons, meetsCased_lowerChar, meetsCased_cons_congr ih]

theorem meetsCased_reverse_caseless (t : Text) :
    meetsCased (caseless t).reverse = meetsCased t.reverse := by
  induction t using List.reverseRecOn with
  | nil => rfl
  | append_singleton t c ih =>
      have hlast : caseless [c] = lowerChar c := by simp [caseless]
      rw [caseless_append, hlast, List.reverse_append, meetsCased_reverse_lowerChar,
        List.reverse_append]
      exact meetsCased_cons_congr ih c

theorem endsWord_caseless (a b : Text) :
    endsWord (caseless a).reverse (caseless b) = endsWord a.reverse b := by
  rw [endsWord, endsWord, meetsCased_reverse_caseless, meetsCased_caseless]

theorem settle_append (before xs : Text) (ys : List (Char × Bool)) :
    settle before (xs.map (·, false) ++ ys) = xs ++ settle (xs.reverse ++ before) ys := by
  induction xs generalizing before with
  | nil => rfl
  | cons c xs ih => simp [settle, ih]

theorem lowerFrom_eq_settle (h : meetsCased before = meetsCased before') (t : Text) :
    lowerFrom before t = settle before' (traced t) := by
  -- what stands before counts only by whether it meets a cased letter, which lowering keeps
  induction t generalizing before before' with
  | nil => rfl
  | cons c t ih =>
      have hnext := (meetsCased_cons_congr h c).trans (meetsCased_reverse_lowerChar c before').symm
      rw [lowerFrom_cons, ih hnext, traced_cons, lowerBeside]
      by_cases hc : c = 'Σ'
      · subst c
        have hends : endsWord before t = endsWord before' ((traced t).map Prod.fst) := by
          rw [endsWord, endsWord, h, map_fst_traced, meetsCased_caseless]
        rw [if_pos rfl, lowerChar_capital, hends]
        by_cases he : endsWord before' ((traced t).map Prod.fst)
        · simp [settle, he]
        · simp [settle, he]
      · rw [if_neg hc, decide_eq_false hc, settle_append]

theorem lower_eq_settle (t : Text) : lower t = settle [] (traced t) := lowerFrom_eq_settle rfl t

/-- Where two texts that are alike letter by letter are settled differently, a word ends with a
sigma that is capital in one of them only. -/
theorem exists_split_of_settle_ne {xs ys : List (Char × Bool)}
    (h : xs.map Prod.fst = ys.map Prod.fst) (hne : settle before xs ≠ settle before ys) :
    ∃ (u u' v v' : List (Char × Bool)) (c : Char) (capital : Bool),
      xs = u ++ (c, capital) :: v ∧ ys = u' ++ (c, !capital) :: v' ∧
      u.map Prod.fst = u'.map Prod.fst ∧ v.map Prod.fst = v'.map Prod.fst ∧
      endsWord ((u.map Prod.fst).reverse ++ before) (v.map Prod.fst) := by
  induction xs generalizing ys before with
  | nil =>
      obtain rfl := List.map_eq_nil_iff.1 h.symm
      exact absurd rfl hne
  | cons x xs ih =>
      obtain ⟨y, ys, rfl⟩ : ∃ y ys', ys = y :: ys' := by
        cases ys with
        | nil => cases h
        | cons y ys => exact ⟨y, ys, rfl⟩
      obtain ⟨c, capital⟩ := x
      obtain ⟨d, capital'⟩ := y
      obtain ⟨rfl, htail⟩ := List.cons.inj h
      by_cases hhead : capital' = !capital ∧ endsWord before (xs.map Prod.fst)
      · obtain ⟨rfl, hends⟩ := hhead
        exact ⟨[], [], xs, ys, c, capital, rfl, rfl, rfl, htail, hends⟩
      · have hrest : settle (c :: before) xs ≠ settle (c :: before) ys := by
          intro he
          apply hne
          have hsame : (capital ∧ endsWord before (xs.map Prod.fst)) ↔
              (capital' ∧ endsWord before (ys.map Prod.fst)) := by
            rw [← htail]
            by_cases hends : endsWord before (xs.map Prod.fst)
            · have hcapital : capital' = capital := by simpa [hends] using hhead
              rw [hcapital]
            · simp [hends]
          simp only [settle, he, hsame]
        obtain ⟨u, u', v, v', d, p, rfl, rfl, hu, hv, hends⟩ := ih htail hrest
        refine ⟨(c, capital) :: u, (c, capital') :: u', v, v', d, p, rfl, rfl, ?_, hv, ?_⟩
        · rw [List.map_cons, List.map_cons, hu]
        · simpa using hends

theorem eq_of_mem_traced (h : (c, true) ∈ traced t) : c = 'σ' := by
  obtain ⟨x, _, hx⟩ := List.mem_flatMap.1 h
  obtain ⟨y, hy, he⟩ := List.mem_map.1 hx
  obtain ⟨rfl, hsigma⟩ := Prod.mk.inj he
  rw [of_decide_eq_true hsigma, lowerChar_capital] at hy
  exact List.mem_singleton.1 hy

theorem exists_split_of_traced {u v : List (Char × Bool)} {capital : Bool}
    (h : traced t = u ++ ('σ', capital) :: v) :
    ∃ a b, t = a ++ (if capital then 'Σ' else 'σ') :: b ∧ traced a = u ∧ traced b = v := by
  induction t generalizing u with
  | nil => simp [traced] at h
  | cons c t ih =>
      rw [traced_cons] at h
      by_cases hc : c = 'İ'
      · subst c
        have hdotted : lowerChar 'İ' = ['i', '\u0307'] := rfl
        rw [hdotted] at h
        match u with
        | [] => exact absurd (Prod.mk.inj (List.cons.inj h).1).1 (by decide)
        | [_] => exact absurd (Prod.mk.inj (List.cons.inj (List.cons.inj h).2).1).1 (by decide)
        | x :: y :: u =>
            obtain ⟨rfl, hrest⟩ := List.cons.inj h
            obtain ⟨rfl, htail⟩ := List.cons.inj hrest
            obtain ⟨a, b, rfl, rfl, rfl⟩ := ih htail
            refine ⟨'İ' :: a, b, rfl, ?_, rfl⟩
            rw [traced_cons, hdotted]
            rfl
      · rw [lowerChar_of_ne hc] at h
        cases u with
        | nil =>
            obtain ⟨hhead, htail⟩ := List.cons.inj h
            obtain ⟨hsigma, rfl⟩ := Prod.mk.inj hhead
            refine ⟨[], t, ?_, rfl, htail⟩
            rcases eq_of_lowerLetter_eq_sigma hsigma with rfl | rfl
            · rfl
            · rfl
        | cons x u =>
            obtain ⟨rfl, htail⟩ := List.cons.inj h
            obtain ⟨a, b, rfl, rfl, rfl⟩ := ih htail
            refine ⟨c :: a, b, rfl, ?_, rfl⟩
            rw [traced_cons, lowerChar_of_ne hc]
            rfl

/-- A capital sigma that ends a word stands where the other text, letter by letter alike, has the
small one. -/
def SigmaAgainst (s t : Text) : Prop :=
  ∃ a b a' b' : Text, s = a ++ 'Σ' :: b ∧ t = a' ++ 'σ' :: b' ∧ endsWord a.reverse b ∧
    caseless a = caseless a' ∧ caseless b = caseless b'

def PartedBySigma (s t : Text) : Prop := SigmaAgainst s t ∨ SigmaAgainst t s

theorem SigmaAgainst.caseless_eq (h : SigmaAgainst s t) : caseless s = caseless t := by
  obtain ⟨a, b, a', b', rfl, rfl, _, ha, hb⟩ := h
  rw [caseless_append, caseless_append, caseless_cons, caseless_cons, lowerChar_capital,
    lowerChar_small, ha, hb]

theorem getElem?_settle (u v : List (Char × Bool)) (capital : Bool) :
    (settle before (u ++ (c, capital) :: v))[u.length]? =
      some (if capital ∧ endsWord ((u.map Prod.fst).reverse ++ before) (v.map Prod.fst) then 'ς'
        else c) := by
  induction u generalizing before with
  | nil => rfl
  | cons x u ih => simp [settle, ih]

theorem SigmaAgainst.lower_ne (h : SigmaAgainst s t) : lower s ≠ lower t := by
  obtain ⟨a, b, a', b', rfl, rfl, hends, ha, hb⟩ := h
  have hcapital : traced (a ++ 'Σ' :: b) = traced a ++ ('σ', true) :: traced b := by
    rw [traced_append, traced_cons, lowerChar_capital]
    rfl
  have hsmall : traced (a' ++ 'σ' :: b') = traced a' ++ ('σ', false) :: traced b' := by
    rw [traced_append, traced_cons, lowerChar_small]
    rfl
  have hlength : (traced a).length = (traced a').length := by
    rw [length_traced, length_traced, ha]
  intro he
  rw [lower_eq_settle, lower_eq_settle, hcapital, hsmall] at he
  have hat := congrArg (·[(traced a).length]?) he
  rw [getElem?_settle, hlength, getElem?_settle, map_fst_traced, map_fst_traced, List.append_nil,
    endsWord_caseless, if_pos ⟨rfl, hends⟩] at hat
  simp at hat

theorem partedBySigma_of_lower_ne (h : caseless s = caseless t) (hne : lower s ≠ lower t) :
    PartedBySigma s t := by
  rw [lower_eq_settle, lower_eq_settle] at hne
  rw [← map_fst_traced, ← map_fst_traced] at h
  obtain ⟨u, u', v, v', c, capital, hs, ht, hu, hv, hends⟩ := exists_split_of_settle_ne h hne
  have hc : c = 'σ' := by
    cases capital with
    | true => exact eq_of_mem_traced (t := s) (by simp [hs])
    | false => exact eq_of_mem_traced (t := t) (by simp [ht])
  subst c
  obtain ⟨a, b, rfl, rfl, rfl⟩ := exists_split_of_traced hs
  obtain ⟨a', b', rfl, rfl, rfl⟩ := exists_split_of_traced ht
  rw [map_fst_traced, map_fst_traced] at hu hv hends
  rw [List.append_nil] at hends
  cases capital with
  | true =>
      rw [endsWord_caseless] at hends
      exact .inl ⟨a, b, a', b', rfl, rfl, hends, hu, hv⟩
  | false =>
      rw [hu, hv, endsWord_caseless] at hends
      exact .inr ⟨a', b', a, b, rfl, rfl, hends, hu.symm, hv.symm⟩

/-- Texts that are alike letter by letter have different lowercase forms just where a sigma parts
them. -/
theorem partedBySigma_iff : PartedBySigma s t ↔ caseless s = caseless t ∧ lower s ≠ lower t := by
  constructor
  · rintro (h | h)
    · exact ⟨h.caseless_eq, h.lower_ne⟩
    · exact ⟨h.caseless_eq.symm, h.lower_ne.symm⟩
  · rintro ⟨h, hne⟩
    exact partedBySigma_of_lower_ne h hne

end Text

end ClassLayout
