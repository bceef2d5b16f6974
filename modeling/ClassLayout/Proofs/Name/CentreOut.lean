import ClassLayout.Name.Shorten

namespace ClassLayout

def charsOf (s : Side) (items : List (Side × Char)) : Text :=
  (items.filter (·.1 = s)).map Prod.snd

theorem charsOf_append (s : Side) (xs ys : List (Side × Char)) :
    charsOf s (xs ++ ys) = charsOf s xs ++ charsOf s ys := by
  simp [charsOf]

theorem length_charsOf (s : Side) (items : List (Side × Char)) :
    (charsOf s items).length = items.countP (·.1 = s) := by
  simp [charsOf, List.countP_eq_length_filter]

theorem charsOf_cons (s s' : Side) (c : Char) (items : List (Side × Char)) :
    charsOf s ((s', c) :: items) = if s' = s then c :: charsOf s items else charsOf s items := by
  by_cases h : s' = s <;> simp [charsOf, h]

theorem charsOf_map_self (s : Side) (t : Text) : charsOf s (t.map (s, ·)) = t := by
  induction t with
  | nil => rfl
  | cons c t ih => rw [List.map_cons, charsOf_cons, if_pos rfl, ih]

theorem charsOf_map_of_ne {s s' : Side} (h : s' ≠ s) (t : Text) :
    charsOf s (t.map (s', ·)) = [] := by
  induction t with
  | nil => rfl
  | cons c t ih => rw [List.map_cons, charsOf_cons, if_neg h, ih]

theorem bytes_charsOf (items : List (Side × Char)) :
    (charsOf .left items).bytes + (charsOf .right items).bytes =
      Text.bytes (items.map Prod.snd) := by
  induction items with
  | nil => rfl
  | cons x rest ih =>
      obtain ⟨s, c⟩ := x
      rw [charsOf_cons, charsOf_cons, List.map_cons, Text.bytes_cons, ← ih]
      cases s with
      | left => simp [Nat.add_assoc]
      | right => simp [Nat.add_left_comm]

theorem Side.ne_other (s : Side) : s ≠ s.other := by cases s <;> decide

theorem charsOf_alternate (s : Side) (xs ys : Text) :
    charsOf s (alternate s xs ys) = xs ∧ charsOf s.other (alternate s xs ys) = ys := by
  fun_induction alternate s xs ys with
  | case1 ys => exact ⟨charsOf_map_of_ne s.ne_other.symm ys, charsOf_map_self s.other ys⟩
  | case2 xs _ => exact ⟨charsOf_map_self s xs, charsOf_map_of_ne s.ne_other xs⟩
  | case3 x xs y ys ih => simp [charsOf_cons, s.ne_other, s.ne_other.symm, ih]

theorem charsOf_centreOut (count : Nat) (left right : Text) :
    charsOf .left (centreOut count left right) = left.reverse ∧
      charsOf .right (centreOut count left right) = right := by
  unfold centreOut
  split
  · exact (charsOf_alternate .right right left.reverse).symm
  · exact charsOf_alternate .left left.reverse right

theorem alternate_balanced {s : Side} {xs ys : Text} {gone kept : List (Side × Char)}
    (h : alternate s xs ys = gone ++ kept) (hle : xs.length ≤ ys.length)
    (hge : ys.length ≤ xs.length + 1) {x : Side × Char} (hx : x ∈ gone.getLast?) :
    x.1 = s ∧ (charsOf s gone).length = (charsOf s.other gone).length + 1 ∨
      x.1 = s.other ∧ ((charsOf s gone).length = (charsOf s.other gone).length ∨
        (charsOf s gone).length = xs.length ∧ (charsOf s.other gone).length = ys.length) := by
  have hne := s.ne_other
  fun_induction alternate s xs ys generalizing gone with
  | case1 ys =>
      cases gone with
      | nil => cases hx
      | cons g gone =>
          match ys with
          | [] => cases h
          | [y] =>
              obtain ⟨rfl, hnil⟩ := List.cons.inj h
              obtain ⟨rfl, rfl⟩ := List.append_eq_nil_iff.1 hnil.symm
              obtain rfl : (s.other, y) = x := by simpa using hx
              simp [hne.symm, charsOf]
          | y :: y' :: ys => simp at hge
  | case2 xs hxs => exact absurd (List.length_eq_zero_iff.1 (Nat.le_zero.1 hle)) hxs
  | case3 a xs y ys ih =>
      match gone with
      | [g] =>
          obtain rfl := (List.cons.inj h).1
          obtain rfl : (s, a) = x := by simpa using hx
          simp [hne, charsOf]
      | [g, g'] =>
          obtain ⟨rfl, htail⟩ := List.cons.inj h
          obtain rfl := (List.cons.inj htail).1
          obtain rfl : (s.other, y) = x := by simpa using hx
          simp [hne, hne.symm, charsOf]
      | g :: g' :: z :: more =>
          obtain ⟨hg, htail⟩ := List.cons.inj h
          obtain ⟨hg', hrest⟩ := List.cons.inj htail
          rw [List.getLast?_cons_cons, List.getLast?_cons_cons] at hx
          have hlater := ih hrest (by simpa using hle) (by simpa using hge) hx
          rw [← hg, ← hg']
          simpa [charsOf_cons, hne, hne.symm] using hlater

theorem getLast?_charsOf {s : Side} {c : Char} {items : List (Side × Char)}
    (h : (s, c) ∈ items.getLast?) : (charsOf s items).getLast? = some c := by
  obtain ⟨init, rfl⟩ := List.getLast?_eq_some_iff.1 h
  rw [charsOf_append, charsOf_cons, if_pos rfl, List.getLast?_append]
  rfl

/-- Whose turn it is when: by the distance from the middle, and of two at the same distance the
right one first in a text of even length, the left one in a text of odd length. -/
def turn (count i : Nat) : Nat :=
  if count % 2 = 0 then max (2 * (i - count / 2) - 1) (2 * (count / 2 - i))
  else max (2 * (count / 2 - i) - 1) (2 * (i - count / 2))

theorem turn_bounds (count i : Nat) :
    2 * (i - count / 2 + (count / 2 - i)) ≤ turn count i + 1 ∧
      turn count i ≤ 2 * (i - count / 2 + (count / 2 - i)) := by
  unfold turn
  split
  · omega
  · omega

example : (List.range 6).map (turn 6) = [6, 4, 2, 0, 1, 3] ∧
    (List.range 5).map (turn 5) = [3, 1, 0, 2, 4] := by decide

def lastIndex (mid : Nat) (gone : List (Side × Char)) : Nat :=
  match gone.getLast? with
  | none => mid
  | some (.left, _) => mid - (charsOf .left gone).length
  | some (.right, _) => mid + (charsOf .right gone).length

theorem lastIndex_cases (mid : Nat) (gone : List (Side × Char)) :
    gone = [] ∧ lastIndex mid gone = mid ∨
      ∃ x ∈ gone.getLast?, x.1 = .left ∧ lastIndex mid gone = mid - (charsOf .left gone).length ∨
        x.1 = .right ∧ lastIndex mid gone = mid + (charsOf .right gone).length := by
  unfold lastIndex
  cases hlast : gone.getLast? with
  | none => exact .inl ⟨List.getLast?_eq_none_iff.1 hlast, rfl⟩
  | some x =>
      obtain ⟨s, c⟩ := x
      refine .inr ⟨(s, c), rfl, ?_⟩
      cases s with
      | left => exact .inl ⟨rfl, rfl⟩
      | right => exact .inr ⟨rfl, rfl⟩

/-- With `l` and `r` characters gone on the two sides, those within them had their turn before the
last one, and no others. -/
theorem turn_le_iff {count l r last i : Nat} (hl : l ≤ count / 2) (hi : i < count)
    (h : if count % 2 = 0 then
        last = count / 2 + r ∧ r = l + 1 ∨
          last = count / 2 - l ∧ (r = l ∨ r + 1 = count / 2 ∧ l = count / 2)
      else last = count / 2 - l ∧ l = r + 1 ∨ last = count / 2 + r ∧ r = l) :
    turn count i ≤ turn count last ↔ count / 2 ≤ i + l ∧ i ≤ count / 2 + r := by
  unfold turn
  split
  · rename_i heven
    rw [if_pos heven] at h
    have hi' : i < 2 * (count / 2) := by omega
    generalize count / 2 = mid at *
    clear hi heven
    omega
  · rename_i hodd
    rw [if_neg hodd] at h
    generalize count / 2 = mid at *
    clear hi hodd
    omega

theorem centreOut_balanced {count : Nat} {left right : Text} {gone kept : List (Side × Char)}
    (h : centreOut count left right = gone ++ kept) (hleft : left.length = count / 2)
    (hcount : count = left.length + 1 + right.length) {x : Side × Char} (hx : x ∈ gone.getLast?) :
    if count % 2 = 0 then
      x.1 = .right ∧ (charsOf .right gone).length = (charsOf .left gone).length + 1 ∨
        x.1 = .left ∧ ((charsOf .right gone).length = (charsOf .left gone).length ∨
          (charsOf .right gone).length = right.length ∧
            (charsOf .left gone).length = left.reverse.length)
    else
      x.1 = .left ∧ (charsOf .left gone).length = (charsOf .right gone).length + 1 ∨
        x.1 = .right ∧ ((charsOf .left gone).length = (charsOf .right gone).length ∨
          (charsOf .left gone).length = left.reverse.length ∧
            (charsOf .right gone).length = right.length) := by
  have hreverse : left.reverse.length = left.length := List.length_reverse
  unfold centreOut at h
  split
  · rename_i heven
    rw [if_pos heven] at h
    exact alternate_balanced h (by omega) (by omega) hx
  · rename_i hodd
    rw [if_neg hodd] at h
    exact alternate_balanced h (by omega) (by omega) hx

theorem turn_le_lastIndex_iff {count i : Nat} {left right : Text} {gone kept : List (Side × Char)}
    (h : centreOut count left right = gone ++ kept) (hleft : left.length = count / 2)
    (hcount : count = left.length + 1 + right.length) (hi : i < count) :
    turn count i ≤ turn count (lastIndex (count / 2) gone) ↔
      count / 2 ≤ i + (charsOf .left gone).length ∧
        i ≤ count / 2 + (charsOf .right gone).length := by
  have hl : (charsOf .left gone).length ≤ count / 2 := by
    have hchars := congrArg List.length (charsOf_centreOut count left right).1
    rw [h, charsOf_append, List.length_append, List.length_reverse] at hchars
    omega
  apply turn_le_iff hl hi
  rcases lastIndex_cases (count / 2) gone with ⟨rfl, hlast⟩ | ⟨x, hx, hlast⟩
  · simp [hlast, charsOf]
  · have hsides := centreOut_balanced h hleft hcount hx
    rw [List.length_reverse] at hsides
    rcases hlast with ⟨hside, hlast⟩ | ⟨hside, hlast⟩
    · grind
    · grind

theorem getElem?_lastIndex (before after : Text) (middle : Char) (gone : List (Side × Char)) :
    ∃ c, (before ++ ((charsOf .left gone).reverse ++ middle :: charsOf .right gone) ++ after)[
        lastIndex (before.length + (charsOf .left gone).length) gone]? = some c ∧
      (gone = [] ∧ c = middle ∨ ∃ x ∈ gone.getLast?, x.2 = c) := by
  rcases lastIndex_cases (before.length + (charsOf .left gone).length) gone with
    ⟨rfl, hlast⟩ | ⟨⟨s, c⟩, hx, ⟨rfl, hlast⟩ | ⟨rfl, hlast⟩⟩
  · rw [hlast]
    exact ⟨middle, by simp [charsOf], .inl ⟨rfl, rfl⟩⟩
  · have hend := getLast?_charsOf hx
    rw [← List.head?_reverse] at hend
    refine ⟨c, ?_, .inr ⟨_, hx, rfl⟩⟩
    rw [hlast, Nat.add_sub_cancel, List.append_assoc, List.getElem?_append_right (Nat.le_refl _),
      Nat.sub_self, ← List.head?_eq_getElem?, List.append_assoc, List.head?_append, hend]
    rfl
  · have hend : (middle :: charsOf .right gone).getLast? = some c := by
      rw [List.getLast?_cons, getLast?_charsOf hx]
      rfl
    refine ⟨c, ?_, .inr ⟨_, hx, rfl⟩⟩
    rw [List.getLast?_eq_getElem?, List.length_cons, Nat.add_sub_cancel] at hend
    rw [hlast, Nat.add_assoc, List.append_assoc, List.getElem?_append_right (by omega),
      Nat.add_sub_cancel_left, List.append_assoc, List.getElem?_append_right (by simp),
      List.length_reverse, Nat.add_sub_cancel_left, List.getElem?_append_left (by simp)]
    exact hend

end ClassLayout
