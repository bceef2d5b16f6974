import ClassLayout.Proofs.Name.Shorten

namespace ClassLayout

def addSize? (a b : Nat) : Option Nat := if a + b < sizeLimit then some (a + b) else none

def subSize? (a b : Nat) : Option Nat := if b ≤ a then some (a - b) else none

/-- What lies between two cursors is cut out: the characters from `left` on and before `right`. -/
structure Gap where
  left : Nat
  right : Nat
  freed : Nat

namespace Gap

def stepLeft? (t : Text) (g : Gap) : Option Gap :=
  if 0 < g.left then do
    let left ← subSize? g.left 1
    let c ← t[left]?
    let freed ← addSize? g.freed c.utf8Size
    return { g with left, freed }
  else some g

def stepRight? (t : Text) (target : Nat) (g : Gap) : Option Gap :=
  if g.freed < target ∧ g.right < t.length then do
    let c ← t[g.right]?
    let freed ← addSize? g.freed c.utf8Size
    let right ← addSize? g.right 1
    return { g with right, freed }
  else some g

/-- Steps to the left and to the right by turns, until enough is freed or all is gone; in fewer
than `rounds` rounds. -/
def widen? (t : Text) (target : Nat) : Nat → Gap → Option Gap
  | 0, _ => none
  | rounds + 1, g =>
      if g.freed < target ∧ (0 < g.left ∨ g.right < t.length) then
        ((g.stepLeft? t).bind (stepRight? t target)).bind (widen? t target rounds)
      else some g

def start? (t : Text) (target : Nat) : Option Gap := do
  let middle ← t[t.length / 2]?
  let right ← addSize? (t.length / 2) 1
  let g : Gap := ⟨t.length / 2, right, middle.utf8Size⟩
  if t.length % 2 = 0 then g.stepRight? t target else return g

end Gap

def shortenChecked? (t : Text) (remove : Nat) : Option Text :=
  if t = [] then some [cutMarker]
  else do
    let target ← addSize? remove 1
    let g ← Gap.start? t target
    let g ← g.widen? t target (t.length + 1)
    let size ← addSize? t.bytes 1
    let _room ← subSize? size (min g.freed t.bytes)
    return t.take g.left ++ cutMarker :: t.drop g.right

def fitChecked? (t tail : Text) (maxBytes : Nat) : Option Text := do
  let total ← addSize? t.bytes tail.bytes
  if maxBytes < total then (subSize? total maxBytes).bind (shortenChecked? t) else return t

theorem addSize?_of_lt {a b : Nat} (h : a + b < sizeLimit) : addSize? a b = some (a + b) := if_pos h

theorem subSize?_of_le {a b : Nat} (h : b ≤ a) : subSize? a b = some (a - b) := if_pos h

theorem Side.other_other (s : Side) : s.other.other = s := by cases s <;> rfl

theorem alternate_nil_left (s : Side) (ys : Text) : alternate s [] ys = ys.map (s.other, ·) := by
  rw [alternate]

theorem alternate_nil_right (s : Side) (xs : Text) : alternate s xs [] = xs.map (s, ·) := by
  cases xs <;> rfl

theorem alternate_cons (s : Side) (x : Char) (xs : Text) :
    ∀ ys, alternate s (x :: xs) ys = (s, x) :: alternate s.other ys xs
  | [] => by rw [alternate_nil_right, alternate_nil_left, s.other_other, List.map_cons]
  | y :: ys => by rw [alternate, alternate_cons s.other y ys xs, s.other_other]
  termination_by ys => xs.length + ys.length

def leftOver (target : Nat) (items : List (Side × Char)) (left right : Text) : Text × Text :=
  (left.drop ((giveUp target items).countP (·.1 = .left)),
    right.drop ((giveUp target items).countP (·.1 = .right)))

theorem leftOver_zero (items : List (Side × Char)) (left right : Text) :
    leftOver 0 items left right = (left, right) := by
  rw [leftOver, giveUp_zero]
  rfl

theorem leftOver_left {target : Nat} (h : 0 < target) (c : Char) (items : List (Side × Char))
    (left right : Text) :
    leftOver target ((.left, c) :: items) (c :: left) right =
      leftOver (target - c.utf8Size) items left right := by
  simp [leftOver, giveUp, Nat.ne_of_gt h]

theorem leftOver_right {target : Nat} (h : 0 < target) (c : Char) (items : List (Side × Char))
    (left right : Text) :
    leftOver target ((.right, c) :: items) left (c :: right) =
      leftOver (target - c.utf8Size) items left right := by
  simp [leftOver, giveUp, Nat.ne_of_gt h]

/-- The characters before the gap, backwards, and those behind it, and what is freed between. -/
structure Gap.Between (t : Text) (g : Gap) (left right : Text) : Prop where
  before : t.take g.left = left.reverse
  length_left : left.length = g.left
  after : t.drop g.right = right
  bytes_eq : g.freed + left.bytes + right.bytes = t.bytes

theorem Text.length_le_bytes (t : Text) : t.length ≤ t.bytes := by
  induction t with
  | nil => exact Nat.le_refl 0
  | cons c t ih =>
      have hpos := c.utf8Size_pos
      rw [Text.bytes_cons, List.length_cons]
      omega

namespace Gap

variable {t left right : Text} {g : Gap}

theorem Between.zero_lt_left_iff (h : g.Between t left right) : 0 < g.left ↔ left ≠ [] := by
  rw [← h.length_left, List.length_pos_iff]

theorem Between.right_lt_iff (h : g.Between t left right) : g.right < t.length ↔ right ≠ [] := by
  rw [← h.after, Ne, List.drop_eq_nil_iff, Nat.not_le]

theorem Between.stepLeft? (h : g.Between t left right) (ht : t.bytes < sizeLimit) {target : Nat}
    (hmore : g.freed < target) :
    ∃ g', g.stepLeft? t = some g' ∧ g'.Between t left.tail right ∧
      leftOver (target - g.freed) (alternate .left left right) left right =
        leftOver (target - g'.freed) (alternate .right right left.tail) left.tail right := by
  unfold Gap.stepLeft?
  cases left with
  | nil =>
      rw [if_neg (fun hpos => h.zero_lt_left_iff.1 hpos rfl)]
      refine ⟨g, rfl, h, ?_⟩
      rw [List.tail_nil, alternate_nil_left, alternate_nil_right]
      rfl
  | cons c left =>
      rw [if_pos (h.zero_lt_left_iff.2 (List.cons_ne_nil _ _))]
      obtain ⟨hbefore, hleft, hafter, hbytes⟩ := h
      rw [List.length_cons] at hleft
      rw [Text.bytes_cons] at hbytes
      rw [← hleft, List.reverse_cons] at hbefore
      have hc : t[left.length]? = some c := by
        rw [← List.getElem?_take_of_lt (Nat.lt_succ_self _), hbefore, ← List.length_reverse]
        simp
      have hsub : subSize? g.left 1 = some left.length := by
        rw [subSize?_of_le (by omega), ← hleft, Nat.add_sub_cancel]
      have hadd : addSize? g.freed c.utf8Size = some (g.freed + c.utf8Size) :=
        addSize?_of_lt (by omega)
      refine ⟨⟨left.length, g.right, g.freed + c.utf8Size⟩, ?_, ⟨?_, rfl, hafter, ?_⟩, ?_⟩
      · simp [hsub, hc, hadd]
      · have hsmaller := congrArg (List.take left.length) hbefore
        rwa [List.take_take, Nat.min_eq_left (Nat.le_succ _),
          List.take_left' List.length_reverse] at hsmaller
      · dsimp only [List.tail_cons]
        omega
      · rw [alternate_cons, leftOver_left (Nat.sub_pos_of_lt hmore), Nat.sub_sub]
        rfl

theorem Between.stepRight? (h : g.Between t left right) (ht : t.bytes < sizeLimit) (target : Nat) :
    ∃ g' right', g.stepRight? t target = some g' ∧ g'.Between t left right' ∧
      leftOver (target - g.freed) (alternate .right right left) left right =
        leftOver (target - g'.freed) (alternate .left left right') left right' ∧
      (g'.freed < target → right' = right.tail) := by
  unfold Gap.stepRight?
  by_cases hmore : g.freed < target
  · cases right with
    | nil =>
        rw [if_neg (fun hboth => h.right_lt_iff.1 hboth.2 rfl)]
        refine ⟨g, [], rfl, h, ?_, fun _ => rfl⟩
        rw [alternate_nil_left, alternate_nil_right]
        rfl
    | cons c right =>
        have hlt := h.right_lt_iff.2 (List.cons_ne_nil _ _)
        rw [if_pos ⟨hmore, hlt⟩]
        obtain ⟨hbefore, hleft, hafter, hbytes⟩ := h
        rw [Text.bytes_cons] at hbytes
        have hc : t[g.right]? = some c := by
          rw [← List.head?_drop, hafter]
          rfl
        have hlength := Text.length_le_bytes t
        have hadd : addSize? g.freed c.utf8Size = some (g.freed + c.utf8Size) :=
          addSize?_of_lt (by omega)
        have hnext : addSize? g.right 1 = some (g.right + 1) := addSize?_of_lt (by omega)
        refine ⟨⟨g.left, g.right + 1, g.freed + c.utf8Size⟩, right, ?_,
          ⟨hbefore, hleft, ?_, ?_⟩, ?_, fun _ => rfl⟩
        · simp [hc, hadd, hnext]
        · rw [← List.drop_drop, hafter]
          rfl
        · dsimp only
          omega
        · rw [alternate_cons, leftOver_right (Nat.sub_pos_of_lt hmore), Nat.sub_sub]
          rfl
  · rw [if_neg (fun hboth => hmore hboth.1)]
    refine ⟨g, right, rfl, h, ?_, fun hlt => absurd hlt hmore⟩
    rw [Nat.sub_eq_zero_of_le (Nat.not_lt.1 hmore), leftOver_zero, leftOver_zero]

theorem Between.widen? (h : g.Between t left right) (ht : t.bytes < sizeLimit) (target : Nat)
    {rounds : Nat} (hpos : 0 < rounds)
    (hrounds : g.freed < target → left.length < rounds ∧ right.length < rounds) :
    ∃ g', g.widen? t target rounds = some g' ∧
      g'.Between t (leftOver (target - g.freed) (alternate .left left right) left right).1
        (leftOver (target - g.freed) (alternate .left left right) left right).2 := by
  induction rounds generalizing g left right with
  | zero => exact absurd hpos (Nat.lt_irrefl 0)
  | succ rounds ih =>
      rw [Gap.widen?]
      by_cases hmore : g.freed < target ∧ (0 < g.left ∨ g.right < t.length)
      · rw [if_pos hmore]
        have hsome : 0 < left.length ∨ 0 < right.length :=
          hmore.2.imp (List.length_pos_iff.2 ∘ h.zero_lt_left_iff.1)
            (List.length_pos_iff.2 ∘ h.right_lt_iff.1)
        obtain ⟨hl, hr⟩ := hrounds hmore.1
        obtain ⟨g₁, hg₁, hbetween₁, hover₁⟩ := h.stepLeft? ht hmore.1
        obtain ⟨g₂, right', hg₂, hbetween₂, hover₂, htail⟩ := hbetween₁.stepRight? ht target
        rw [hg₁, Option.bind_some, hg₂, Option.bind_some, hover₁, hover₂]
        apply ih hbetween₂
        · omega
        · intro hlt
          rw [htail hlt, List.length_tail, List.length_tail]
          omega
      · rw [if_neg hmore]
        refine ⟨g, rfl, ?_⟩
        by_cases hless : g.freed < target
        · have hnone : left = [] ∧ right = [] := by
            simpa [hless, h.zero_lt_left_iff, h.right_lt_iff] using hmore
          obtain ⟨rfl, rfl⟩ := hnone
          simpa [leftOver] using h
        · rw [Nat.sub_eq_zero_of_le (Nat.not_lt.1 hless), leftOver_zero]
          exact h

theorem exists_start {middle : Char} (hdrop : t.drop (t.length / 2) = middle :: right)
    (hsize : t.bytes < sizeLimit) (target : Nat) :
    ∃ g right', Gap.start? t target = some g ∧
      g.Between t (t.take (t.length / 2)).reverse right' ∧
      leftOver (target - middle.utf8Size) (centreOut t.length (t.take (t.length / 2)) right)
          (t.take (t.length / 2)).reverse right =
        leftOver (target - g.freed) (alternate .left (t.take (t.length / 2)).reverse right')
          (t.take (t.length / 2)).reverse right' := by
  have hc : t[t.length / 2]? = some middle := by
    rw [← List.head?_drop, hdrop]
    rfl
  have hmid : t.length / 2 < t.length := (List.getElem?_eq_some_iff.1 hc).1
  have hlength := Text.length_le_bytes t
  have hadd : addSize? (t.length / 2) 1 = some (t.length / 2 + 1) := addSize?_of_lt (by omega)
  have hbetween : Between t ⟨t.length / 2, t.length / 2 + 1, middle.utf8Size⟩
      (t.take (t.length / 2)).reverse right := by
    refine ⟨(List.reverse_reverse _).symm, ?_, ?_, ?_⟩
    · rw [List.length_reverse, List.length_take]
      dsimp only
      omega
    · rw [← List.drop_drop, hdrop]
      rfl
    · have hwhole := congrArg Text.bytes (List.take_append_drop (t.length / 2) t)
      rw [hdrop, Text.bytes_append, Text.bytes_cons] at hwhole
      rw [Text.bytes_reverse]
      dsimp only
      omega
  unfold Gap.start? centreOut
  by_cases heven : t.length % 2 = 0
  · obtain ⟨g, right', hg, hnext, hover, _⟩ := hbetween.stepRight? hsize target
    refine ⟨g, right', ?_, hnext, ?_⟩
    · simp [hc, hadd, heven, hg]
    · rw [if_pos heven]
      exact hover
  · refine ⟨_, right, ?_, hbetween, ?_⟩
    · simp [hc, hadd, heven]
    · rw [if_neg heven]

end Gap

theorem shorten_eq_of_leftOver {t right : Text} {middle : Char}
    (hdrop : t.drop (t.length / 2) = middle :: right) {remove : Nat} (h : remove + 1 < sizeLimit) :
    shorten t remove =
      (leftOver (remove + 1 - middle.utf8Size) (centreOut t.length (t.take (t.length / 2)) right)
          (t.take (t.length / 2)).reverse right).1.reverse ++
        cutMarker :: (leftOver (remove + 1 - middle.utf8Size)
          (centreOut t.length (t.take (t.length / 2)) right)
          (t.take (t.length / 2)).reverse right).2 := by
  unfold shorten cutMiddle
  rw [hdrop, Nat.mod_eq_of_lt h]
  dsimp only [leftOver]
  rw [List.drop_reverse, List.reverse_reverse]

theorem shortenChecked?_eq {t : Text} {remove : Nat} (ht : t.bytes + 1 < sizeLimit)
    (hremove : remove + 1 < sizeLimit) : shortenChecked? t remove = some (shorten t remove) := by
  unfold shortenChecked?
  by_cases hne : t = []
  · rw [if_pos hne, hne]
    rfl
  · obtain ⟨middle, right, hdrop, _⟩ := exists_middle hne
    obtain ⟨g, right', hg, hbetween, hover⟩ :=
      Gap.exists_start hdrop (Nat.lt_of_succ_lt ht) (remove + 1)
    have hleft : (t.take (t.length / 2)).reverse.length ≤ t.length := by
      rw [List.length_reverse, List.length_take]
      exact Nat.min_le_right _ _
    have hright : right'.length ≤ t.length := by
      rw [← hbetween.after, List.length_drop]
      exact Nat.sub_le _ _
    obtain ⟨g', hg', hends⟩ := hbetween.widen? (Nat.lt_of_succ_lt ht) (remove + 1)
      (Nat.succ_pos t.length) fun _ => ⟨Nat.lt_succ_of_le hleft, Nat.lt_succ_of_le hright⟩
    rw [← hover] at hends
    have hroom : subSize? (t.bytes + 1) (min g'.freed t.bytes) =
        some (t.bytes + 1 - min g'.freed t.bytes) := subSize?_of_le (by omega)
    rw [if_neg hne, shorten_eq_of_leftOver hdrop hremove, ← hends.before, ← hends.after]
    simp [addSize?_of_lt hremove, hg, hg', addSize?_of_lt ht, hroom]

theorem fitChecked?_eq {t tail : Text} {maxBytes : Nat} (ht : t.bytes + 1 < sizeLimit)
    (htotal : t.bytes + tail.bytes + 1 < sizeLimit) :
    fitChecked? t tail maxBytes = some (fit t tail maxBytes) := by
  unfold fitChecked? fit
  rw [addSize?_of_lt (Nat.lt_of_succ_lt htotal), Option.bind_eq_bind, Option.bind_some]
  dsimp only
  split
  · rename_i hlt
    rw [subSize?_of_le (Nat.le_of_lt hlt), Option.bind_some]
    apply shortenChecked?_eq ht
    omega
  · rfl

end ClassLayout
