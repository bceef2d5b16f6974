import ClassLayout.Proofs.Name.CentreOut

namespace ClassLayout

theorem giveUp_cases (target : Nat) (items : List (Side × Char)) :
    ∃ kept, items = giveUp target items ++ kept ∧
      (kept = [] ∨ target ≤ Text.bytes ((giveUp target items).map Prod.snd)) := by
  induction items generalizing target with
  | nil => exact ⟨[], rfl, .inl rfl⟩
  | cons x rest ih =>
      unfold giveUp
      split
      · rename_i htarget
        exact ⟨x :: rest, rfl, .inr (htarget ▸ Nat.zero_le _)⟩
      · obtain ⟨kept, hrest, hkept⟩ := ih (target - x.2.utf8Size)
        refine ⟨kept, ?_, ?_⟩
        · rw [List.cons_append, ← hrest]
        · apply hkept.imp_right
          intro hbytes
          rw [List.map_cons, Text.bytes_cons]
          omega

theorem giveUp_zero (items : List (Side × Char)) : giveUp 0 items = [] := by
  cases items with
  | nil => rfl
  | cons => rfl

theorem bytes_giveUp_lt {target : Nat} {items : List (Side × Char)} {x : Side × Char}
    (h : x ∈ (giveUp target items).getLast?) :
    0 < target ∧ Text.bytes ((giveUp target items).map Prod.snd) < target + x.2.utf8Size := by
  induction items generalizing target with
  | nil => cases h
  | cons y rest ih =>
      rw [giveUp] at h ⊢
      split
      · rename_i htarget
        rw [if_pos htarget] at h
        cases h
      · rename_i htarget
        rw [if_neg htarget] at h
        rw [List.map_cons, Text.bytes_cons]
        cases hrest : giveUp (target - y.2.utf8Size) rest with
        | nil =>
            rw [hrest] at h
            obtain rfl : y = x := by simpa using h
            rw [List.map_nil, Text.bytes_nil]
            omega
        | cons z more =>
            have hmore : ¬ target ≤ y.2.utf8Size := by
              intro hle
              rw [Nat.sub_eq_zero_of_le hle, giveUp_zero] at hrest
              cases hrest
            rw [hrest, List.getLast?_cons_cons] at h
            have hbytes := @ih (target - y.2.utf8Size) (by rwa [hrest])
            rw [hrest] at hbytes
            omega

theorem Text.bytes_reverse (t : Text) : Text.bytes t.reverse = t.bytes := by
  induction t with
  | nil => rfl
  | cons c t ih =>
      rw [List.reverse_cons, Text.bytes_append, ih, Text.bytes_cons, Text.bytes_nil,
        Text.bytes_cons, Nat.add_zero, Nat.add_comm]

theorem cutMiddle_cases {t right : Text} {middle : Char}
    (h : t.drop (t.length / 2) = middle :: right) (target : Nat) :
    ∃ gone kept, centreOut t.length (t.take (t.length / 2)) right = gone ++ kept ∧
      t = (charsOf .left kept).reverse ++
          ((charsOf .left gone).reverse ++ middle :: charsOf .right gone) ++ charsOf .right kept ∧
      cutMiddle t target = ⟨(charsOf .left kept).reverse, charsOf .right kept⟩ ∧
      (kept = [] ∨ target ≤ middle.utf8Size + Text.bytes (gone.map Prod.snd)) ∧
      ∀ x ∈ gone.getLast?,
        middle.utf8Size + Text.bytes (gone.map Prod.snd) < target + x.2.utf8Size := by
  have hwhole := List.take_append_drop (t.length / 2) t
  obtain ⟨hleft, hright⟩ := charsOf_centreOut t.length (t.take (t.length / 2)) right
  unfold cutMiddle
  rw [h] at hwhole ⊢
  dsimp only
  rw [← length_charsOf, ← length_charsOf]
  obtain ⟨kept, hitems, hkept⟩ :=
    giveUp_cases (target - middle.utf8Size) (centreOut t.length (t.take (t.length / 2)) right)
  have hlast := @bytes_giveUp_lt (target - middle.utf8Size)
    (centreOut t.length (t.take (t.length / 2)) right)
  generalize giveUp (target - middle.utf8Size)
    (centreOut t.length (t.take (t.length / 2)) right) = gone at *
  rw [hitems, charsOf_append] at hleft hright
  have hbefore : (charsOf .left kept).reverse ++ (charsOf .left gone).reverse =
      t.take (t.length / 2) := by
    rw [← List.reverse_append, hleft, List.reverse_reverse]
  refine ⟨gone, kept, hitems, ?_, ?_, ?_, ?_⟩
  · rw [← hbefore, ← hright] at hwhole
    rw [← hwhole]
    simp
  · rw [← hbefore, ← hright, List.length_append, List.length_reverse, List.length_reverse,
      Nat.add_sub_cancel, List.drop_left, List.take_left' (List.length_reverse)]
  · apply hkept.imp_right
    omega
  · intro x hx
    have hbytes := hlast hx
    omega

/-- What was given up went outwards from the middle by turns, until enough was gone and no
further. -/
structure GivenUp (t : Text) (target : Nat) (before run after : Text) : Prop where
  whole : t = before ++ run ++ after
  enough : target ≤ run.bytes ∨ before = [] ∧ after = []
  in_turn : ∃ last c, t[last]? = some c ∧ run.bytes < target + c.utf8Size ∧
    ∀ i < t.length, turn t.length i ≤ turn t.length last ↔
      before.length ≤ i ∧ i < before.length + run.length

theorem exists_middle {t : Text} (ht : t ≠ []) :
    ∃ middle right, t.drop (t.length / 2) = middle :: right ∧
      t.length = t.length / 2 + 1 + right.length := by
  have hlength := List.length_pos_iff.2 ht
  have hdrop := @List.drop_eq_getElem_cons _ (t.length / 2) t (by omega)
  have hcount := congrArg List.length hdrop
  rw [List.length_drop, List.length_cons] at hcount
  refine ⟨_, _, hdrop, ?_⟩
  omega

theorem givenUp_cutMiddle {t : Text} (ht : t ≠ []) {target : Nat} (hpos : 0 < target) :
    ∃ run, GivenUp t target (cutMiddle t target).before run (cutMiddle t target).after := by
  obtain ⟨middle, right, hdrop, hcount⟩ := exists_middle ht
  have hleft : (t.take (t.length / 2)).length = t.length / 2 := by
    rw [List.length_take]
    omega
  obtain ⟨gone, kept, hitems, hwhole, hcut, henough, hminimal⟩ := cutMiddle_cases hdrop target
  have hmid : (charsOf .left kept).length + (charsOf .left gone).length = t.length / 2 := by
    have hchars := congrArg List.length (charsOf_centreOut t.length (t.take (t.length / 2)) right).1
    rw [hitems, charsOf_append, List.length_append, List.length_reverse] at hchars
    omega
  have hbytes := bytes_charsOf gone
  rw [hcut]
  refine ⟨_, hwhole, ?_, lastIndex (t.length / 2) gone, ?_⟩
  · rw [Text.bytes_append, Text.bytes_reverse, Text.bytes_cons]
    rcases henough with rfl | henough
    · exact .inr ⟨rfl, rfl⟩
    · left
      omega
  · obtain ⟨c, hc, hlast⟩ := getElem?_lastIndex (charsOf .left kept).reverse (charsOf .right kept)
      middle gone
    rw [List.length_reverse, hmid, ← hwhole] at hc
    refine ⟨c, hc, ?_, ?_⟩
    · rw [Text.bytes_append, Text.bytes_reverse, Text.bytes_cons]
      rcases hlast with ⟨rfl, rfl⟩ | ⟨x, hx, rfl⟩
      · simp [charsOf]
        omega
      · have hlast := hminimal x hx
        omega
    · intro i hi
      rw [turn_le_lastIndex_iff hitems hleft (by omega) hi]
      simp
      omega

section GivenUp

variable {t before run after : Text} {target : Nat}

theorem GivenUp.bytes_eq (h : GivenUp t target before run after) :
    t.bytes = before.bytes + run.bytes + after.bytes := by
  rw [h.whole, Text.bytes_append, Text.bytes_append]

theorem GivenUp.length_eq (h : GivenUp t target before run after) :
    t.length = before.length + run.length + after.length := by
  rw [h.whole, List.length_append, List.length_append]

theorem GivenUp.middle_gone (h : GivenUp t target before run after) :
    before.length ≤ t.length / 2 ∧ t.length / 2 < before.length + run.length := by
  obtain ⟨last, c, hc, _, hturn⟩ := h.in_turn
  have hlast : last < t.length := (List.getElem?_eq_some_iff.1 hc).1
  have hfirst : turn t.length (t.length / 2) = 0 := by simp [turn]
  apply (hturn (t.length / 2) (by omega)).1
  omega

theorem GivenUp.balanced (h : GivenUp t target before run after) :
    before.length ≤ after.length + 2 ∧ after.length ≤ before.length + 2 := by
  obtain ⟨last, c, _, _, hturn⟩ := h.in_turn
  have hlength := h.length_eq
  have hmiddle := h.middle_gone
  generalize turn t.length last = most at hturn
  constructor
  · have hkept := hturn (before.length - 1)
    have hgone := hturn (before.length + run.length - 1)
    have hle := (turn_bounds t.length (before.length - 1)).2
    have hge := (turn_bounds t.length (before.length + run.length - 1)).1
    omega
  · have hkept := hturn (before.length + run.length)
    have hgone := hturn before.length
    have hle := (turn_bounds t.length (before.length + run.length)).2
    have hge := (turn_bounds t.length before.length).1
    omega

theorem GivenUp.enough_of_le (h : GivenUp t target before run after) (ht : target ≤ t.bytes) :
    target ≤ run.bytes := by
  rcases h.enough with hrun | ⟨rfl, rfl⟩
  · exact hrun
  · have hbytes := h.bytes_eq
    simp only [Text.bytes_nil] at hbytes
    omega

theorem GivenUp.all_gone (h : GivenUp t target before run after) (ht : t.bytes < target) :
    before = [] ∧ after = [] := by
  apply h.enough.resolve_left
  have hbytes := h.bytes_eq
  omega

end GivenUp

theorem exists_givenUp {t : Text} (ht : t ≠ []) {remove : Nat} (h : remove + 1 < sizeLimit) :
    ∃ before run after, GivenUp t (remove + 1) before run after ∧
      shorten t remove = before ++ cutMarker :: after := by
  obtain ⟨run, hrun⟩ := givenUp_cutMiddle ht (Nat.succ_pos remove)
  refine ⟨_, run, _, hrun, ?_⟩
  rw [shorten, Nat.mod_eq_of_lt h]

theorem bytes_around_cutMarker (before after : Text) :
    Text.bytes (before ++ cutMarker :: after) = before.bytes + 1 + after.bytes := by
  have hmarker : cutMarker.utf8Size = 1 := rfl
  rw [Text.bytes_append, Text.bytes_cons, hmarker, Nat.add_assoc]

theorem shorten_of_bytes_le {t : Text} {remove : Nat} (h : remove + 1 < sizeLimit)
    (hall : t.bytes ≤ remove) : shorten t remove = [cutMarker] := by
  by_cases ht : t = []
  · subst ht
    rfl
  · obtain ⟨_, _, _, hgiven, hshorten⟩ := exists_givenUp ht h
    obtain ⟨rfl, rfl⟩ := hgiven.all_gone (Nat.lt_succ_of_le hall)
    exact hshorten

theorem bytes_shorten {t : Text} {remove : Nat} (h : remove + 1 < sizeLimit)
    (hlt : remove < t.bytes) :
    (shorten t remove).bytes + remove ≤ t.bytes ∧
      t.bytes ≤ (shorten t remove).bytes + remove + 3 := by
  have ht : t ≠ [] := by
    rintro rfl
    exact absurd hlt (Nat.not_lt_zero remove)
  obtain ⟨before, run, after, hgiven, hshorten⟩ := exists_givenUp ht h
  have hwhole := hgiven.bytes_eq
  have henough := hgiven.enough_of_le hlt
  obtain ⟨_, c, _, hminimal, _⟩ := hgiven.in_turn
  have hwidth := c.utf8Size_le_four
  rw [hshorten, bytes_around_cutMarker]
  omega

theorem bytes_shorten_le (t : Text) {remove : Nat} (h : remove + 1 < sizeLimit) :
    (shorten t remove).bytes ≤ max 1 (t.bytes - remove) := by
  rcases Nat.lt_or_ge remove t.bytes with hlt | hle
  · have hbytes := bytes_shorten h hlt
    omega
  · rw [shorten_of_bytes_le h hle]
    exact Nat.le_max_left _ _

/-- The result of shortening, and what is cut out of the text for it. -/
structure ExactCut (t : Text) (remove : Nat) (before run after : Text) : Prop where
  whole : t = before ++ run ++ after
  shorten_eq : shorten t remove = before ++ cutMarker :: after
  nothing_left : t.bytes ≤ remove → shorten t remove = [cutMarker]
  bytes_bounds : remove < t.bytes →
    (shorten t remove).bytes + remove ≤ t.bytes ∧
      t.bytes ≤ (shorten t remove).bytes + remove + 3
  middle_gone : remove < t.bytes →
    before.length ≤ t.length / 2 ∧ t.length / 2 < before.length + run.length
  balanced : before.length ≤ after.length + 2 ∧ after.length ≤ before.length + 2
  /-- What is cut out are the characters that had their turn until the last one, and without that
  one too little would be gone. -/
  minimal : remove < t.bytes → ∃ last c, t[last]? = some c ∧
    (∀ i < t.length, turn t.length i ≤ turn t.length last ↔
      before.length ≤ i ∧ i < before.length + run.length) ∧
    run.bytes < remove + 1 + c.utf8Size

/-- A shortened text is a beginning and an end of the text with the marker between them: what the
order from the middle outwards leaves when it stops as soon as enough is gone. -/
theorem shorten_cuts_exactly (t : Text) {remove : Nat} (h : remove + 1 < sizeLimit) :
    ∃ before run after, ExactCut t remove before run after := by
  by_cases ht : t = []
  · subst ht
    have hnone {P : Prop} (hlt : remove < Text.bytes []) : P :=
      absurd hlt (Nat.not_lt_zero remove)
    exact ⟨[], [], [], rfl, rfl, fun _ => rfl, hnone, hnone, by decide, hnone⟩
  · obtain ⟨before, run, after, hgiven, hshorten⟩ := exists_givenUp ht h
    obtain ⟨last, c, hc, hminimal, hturn⟩ := hgiven.in_turn
    exact ⟨before, run, after, hgiven.whole, hshorten, shorten_of_bytes_le h, bytes_shorten h,
      fun _ => hgiven.middle_gone, hgiven.balanced, fun _ => ⟨last, c, hc, hturn, hminimal⟩⟩

theorem shorten_cuts_exactly_mixed_widths :
    6 + 1 < sizeLimit ∧ Text.bytes "aé€𐍈bc".toList = 12 ∧
      shorten "aé€𐍈bc".toList 6 = "aé#c".toList ∧
      ∃ before run after, ExactCut "aé€𐍈bc".toList 6 before run after :=
  ⟨by decide, by decide, by decide, shorten_cuts_exactly _ (by decide)⟩

theorem bytes_fit_le {t tail : Text} {maxBytes : Nat} (ht : t.bytes < sizeLimit)
    (htail : tail.bytes + 1 ≤ maxBytes) :
    (fit t tail maxBytes).bytes + tail.bytes ≤ maxBytes := by
  unfold fit
  dsimp only
  split
  · have hremove : t.bytes + tail.bytes - maxBytes + 1 < sizeLimit := by omega
    have hshort := bytes_shorten_le t hremove
    omega
  · omega

end ClassLayout
