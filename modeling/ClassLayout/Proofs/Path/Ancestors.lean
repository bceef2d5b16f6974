import ClassLayout.Path
import Mathlib.Data.List.DropRight

namespace ClassLayout

namespace Path

variable {path up : Text} {pieces : List Text}

def AllBlank (pieces : List Text) : Prop := ∀ piece ∈ pieces, isBlank piece = true

instance (pieces : List Text) : Decidable (AllBlank pieces) :=
  inferInstanceAs (Decidable (∀ piece ∈ pieces, isBlank piece = true))

def SpellsRoot (path : Text) : Prop := isAbsolute path = true ∧ AllBlank (Text.pieces '/' path)

instance (path : Text) : Decidable (SpellsRoot path) := inferInstanceAs (Decidable (_ ∧ _))

theorem trimBlanks_eq_nil_iff : trimBlanks pieces = [] ↔ AllBlank pieces :=
  List.rdropWhile_eq_nil_iff

theorem exists_trimBlanks (pieces : List Text) :
    ∃ blanks, pieces = trimBlanks pieces ++ blanks ∧
      (trimBlanks pieces = [] ∨
        ∃ names last, trimBlanks pieces = names ++ [last] ∧ isBlank last = false) := by
  obtain ⟨blanks, hblanks⟩ : trimBlanks pieces <+: pieces := List.rdropWhile_prefix isBlank pieces
  refine ⟨blanks, hblanks.symm, ?_⟩
  by_cases hnil : trimBlanks pieces = []
  · exact .inl hnil
  · refine .inr ⟨_, _, (List.dropLast_append_getLast hnil).symm, ?_⟩
    rw [← Bool.not_eq_true]
    exact List.rdropWhile_last_not isBlank pieces hnil

theorem pieces_of_isAbsolute (h : isAbsolute path = true) :
    ∃ below, path = '/' :: below ∧ Text.pieces '/' path = [] :: Text.pieces '/' below := by
  cases path with
  | nil => cases h
  | cons c below =>
      obtain rfl : c = '/' := by simpa [isAbsolute] using h
      exact ⟨below, rfl, rfl⟩

theorem anchored_of_isAbsolute (h : isAbsolute path = true) :
    ∃ below, path = '/' :: below ∧ anchored path = (.root, Text.pieces '/' below) := by
  obtain ⟨below, hpath, hpieces⟩ := pieces_of_isAbsolute h
  refine ⟨below, hpath, ?_⟩
  rw [anchored, hpieces]
  exact if_pos h

theorem ofAnchored_anchored (path : Text) :
    ofAnchored (anchored path).1 (anchored path).2 = path := by
  by_cases habs : isAbsolute path = true
  · obtain ⟨below, hpath, hanchored⟩ := anchored_of_isAbsolute habs
    rw [hanchored, ofAnchored, Text.joined_pieces, hpath]
  · have hjoined := Text.joined_pieces '/' path
    unfold anchored
    cases hpieces : Text.pieces '/' path with
    | nil => exact absurd hpieces (Text.pieces_ne_nil '/' path)
    | cons first rest =>
        rw [hpieces] at hjoined
        dsimp only
        rw [if_neg habs]
        by_cases hfirst : first = ['.']
        · rw [if_pos hfirst]
          subst hfirst
          cases rest with
          | nil => exact hjoined
          | cons second more => exact hjoined
        · rw [if_neg hfirst]
          exact hjoined

theorem ofAnchored_append (anchor : Anchor) (names : List Text) {more : List Text}
    (hmore : more ≠ []) :
    ofAnchored anchor (names ++ more) = ofAnchored anchor names ++ '/' :: Text.joined '/' more ∨
      ofAnchored anchor (names ++ more) = ofAnchored anchor names ++ Text.joined '/' more := by
  by_cases hnames : names = []
  · subst hnames
    cases anchor with
    | root => exact .inr rfl
    | name => exact .inr rfl
    | here =>
        left
        cases more with
        | nil => exact absurd rfl hmore
        | cons first rest => rfl
  · have hjoined := @Text.joined_append Char '/' names more hnames hmore
    left
    cases anchor with
    | root => exact congrArg ('/' :: ·) hjoined
    | name => exact hjoined
    | here =>
        cases names with
        | nil => exact absurd rfl hnames
        | cons first rest => exact congrArg ('.' :: '/' :: ·) hjoined

theorem parent?_of_allBlank (h : AllBlank (anchored path).2) :
    parent? path = if (anchored path).1 = .here then some [] else none := by
  unfold parent?
  generalize anchored path = read at h
  obtain ⟨anchor, pieces⟩ := read
  dsimp only at h ⊢
  rw [trimBlanks_eq_nil_iff.2 h]
  cases anchor with
  | root => rfl
  | here => rfl
  | name => rfl

theorem parent?_of_not_allBlank (h : ¬ AllBlank (anchored path).2) :
    parent? path = some (ofAnchored (anchored path).1
      (trimBlanks (trimBlanks (anchored path).2).dropLast)) := by
  unfold parent?
  generalize anchored path = read at h
  obtain ⟨anchor, pieces⟩ := read
  dsimp only at h ⊢
  rw [← trimBlanks_eq_nil_iff] at h
  cases hnames : trimBlanks pieces with
  | nil => exact absurd hnames h
  | cons first rest => cases anchor <;> rfl

theorem not_allBlank_concat {names : List Text} {last : Text} (h : isBlank last = false)
    (more : List Text) : ¬ AllBlank (names ++ [last] ++ more) := by
  intro hall
  have hlast := hall last (by simp)
  rw [h] at hlast
  cases hlast

/-- The parent is read off the pieces of a path: the last name is among those that are left out, and
what is kept ends with a name, if there is one. -/
theorem parent?_cases (h : parent? path = some up) :
    up = [] ∧ (anchored path).1 = .here ∨
      ∃ names more, (anchored path).2 = names ++ more ∧ ¬ AllBlank more ∧
        up = ofAnchored (anchored path).1 names ∧ (names = [] ∨ ¬ AllBlank names) := by
  by_cases hall : AllBlank (anchored path).2
  · rw [parent?_of_allBlank hall] at h
    split at h
    · cases h
      rename_i hhere
      exact .inl ⟨rfl, hhere⟩
    · cases h
  · rw [parent?_of_not_allBlank hall] at h
    cases h
    obtain ⟨blanks, hpieces, hnames⟩ := exists_trimBlanks (anchored path).2
    obtain ⟨names, last, htrimmed, hlast⟩ :=
      hnames.resolve_left fun hnil => hall (trimBlanks_eq_nil_iff.1 hnil)
    obtain ⟨blanks', hnames', hkept⟩ := exists_trimBlanks names
    refine .inr ⟨trimBlanks names, blanks' ++ [last] ++ blanks, ?_, not_allBlank_concat hlast _, ?_,
      ?_⟩
    · rw [hpieces, htrimmed]
      nth_rewrite 1 [hnames']
      simp
    · rw [htrimmed, List.dropLast_concat]
    · rcases hkept with hnil | ⟨_, last', hconcat, hlast'⟩
      · exact .inl hnil
      · right
        rw [hconcat, ← List.append_nil (_ ++ [last'])]
        exact not_allBlank_concat hlast' []

theorem joined_ne_nil_of_not_allBlank (h : ¬ AllBlank pieces) : Text.joined '/' pieces ≠ [] := by
  obtain ⟨piece, hmem, hnamed⟩ : ∃ piece ∈ pieces, ¬ isBlank piece = true := by
    simpa [AllBlank] using h
  apply Text.joined_ne_nil hmem
  rintro rfl
  exact hnamed rfl

theorem exists_of_parent? (h : parent? path = some up) : ∃ more, more ≠ [] ∧ path = up ++ more := by
  have hpath := ofAnchored_anchored path
  rcases parent?_cases h with ⟨rfl, hhere⟩ | ⟨names, more, hpieces, hmore, rfl, _⟩
  · refine ⟨path, ?_, rfl⟩
    rintro rfl
    cases hhere
  · have hjoined := joined_ne_nil_of_not_allBlank hmore
    have hne : more ≠ [] := by
      rintro rfl
      exact hjoined rfl
    rw [hpieces] at hpath
    rcases ofAnchored_append (anchored path).1 names hne with hlonger | hlonger
    · exact ⟨_, List.cons_ne_nil _ _, by rw [← hlonger, hpath]⟩
    · exact ⟨_, hjoined, by rw [← hlonger, hpath]⟩

theorem length_lt_of_parent? (h : parent? path = some up) : up.length < path.length := by
  obtain ⟨more, hmore, rfl⟩ := exists_of_parent? h
  rw [List.length_append]
  exact Nat.lt_add_of_pos_right (List.length_pos_iff.2 hmore)

theorem eq_nil_of_allBlank (habs : ¬ isAbsolute path = true) (hhere : (anchored path).1 ≠ .here)
    (hall : AllBlank (anchored path).2) : path = [] := by
  have hjoined := Text.joined_pieces '/' path
  unfold anchored at hhere hall
  cases hpieces : Text.pieces '/' path with
  | nil => exact absurd hpieces (Text.pieces_ne_nil '/' path)
  | cons first rest =>
      rw [hpieces] at hjoined hhere hall
      dsimp only at hhere hall
      rw [if_neg habs] at hhere hall
      by_cases hfirst : first = ['.']
      · rw [if_pos hfirst] at hhere
        exact absurd rfl hhere
      · rw [if_neg hfirst] at hall
        have hblank := hall first List.mem_cons_self
        obtain rfl : first = [] := by simpa [isBlank, hfirst] using hblank
        by_cases hrest : rest = []
        · rw [hrest] at hjoined
          exact hjoined.symm
        · rw [Text.joined_cons hrest] at hjoined
          exact absurd (hjoined ▸ rfl) habs

theorem parent?_eq_none_iff : parent? path = none ↔ path = [] ∨ SpellsRoot path := by
  by_cases habs : isAbsolute path = true
  · obtain ⟨below, rfl, hanchored⟩ := anchored_of_isAbsolute habs
    have hroot : SpellsRoot ('/' :: below) ↔ AllBlank (anchored ('/' :: below)).2 := by
      rw [hanchored]
      exact ⟨fun h piece hp => h.2 piece (List.mem_cons_of_mem _ hp),
        fun h => ⟨habs, List.forall_mem_cons.2 ⟨rfl, h⟩⟩⟩
    rw [hroot, or_iff_right (List.cons_ne_nil _ _)]
    by_cases hall : AllBlank (anchored ('/' :: below)).2
    · rw [parent?_of_allBlank hall, hanchored]
      exact iff_of_true rfl hall
    · rw [parent?_of_not_allBlank hall]
      exact iff_of_false (by simp) hall
  · rw [or_iff_left fun hroot => habs hroot.1]
    by_cases hall : AllBlank (anchored path).2
    · rw [parent?_of_allBlank hall]
      by_cases hhere : (anchored path).1 = .here
      · rw [if_pos hhere]
        refine iff_of_false (by simp) ?_
        rintro rfl
        cases hhere
      · rw [if_neg hhere]
        exact iff_of_true rfl (eq_nil_of_allBlank habs hhere hall)
    · rw [parent?_of_not_allBlank hall]
      refine iff_of_false (by simp) ?_
      rintro rfl
      exact hall (by decide)

/-- The way up ends with the shortest spelling of the root, if it goes there at all. -/
theorem eq_root_of_parent? (h : parent? path = some up) (hroot : SpellsRoot up) : up = ['/'] := by
  obtain ⟨more, _, hpath⟩ := exists_of_parent? h
  obtain ⟨below, hup, hblank⟩ := pieces_of_isAbsolute hroot.1
  have habs : isAbsolute path = true := by
    rw [hpath, hup]
    rfl
  obtain ⟨_, _, hanchored⟩ := anchored_of_isAbsolute habs
  rcases parent?_cases h with ⟨rfl, _⟩ | ⟨names, more', hpieces, _, rfl, hnames⟩
  · cases hup
  · rw [hanchored] at hpieces hroot ⊢
    rcases hnames with rfl | hnamed
    · rfl
    · refine absurd (fun piece hp => hroot.2 piece ?_) hnamed
      have hseps : ∀ name ∈ names, '/' ∉ name := by
        intro name hname
        apply Text.not_mem_of_mem_pieces
        rw [show Text.pieces '/' _ = names ++ more' from hpieces]
        exact List.mem_append_left more' hname
      rw [ofAnchored]
      simp only [Text.pieces, if_pos]
      rw [Text.pieces_joined (List.ne_nil_of_mem hp) hseps]
      exact List.mem_cons_of_mem _ hp

/-- What holds at the top and, of a path, if it holds of the parent, holds of all paths. -/
@[elab_as_elim]
theorem upward {motive : Text → Prop} (top : ∀ path, parent? path = none → motive path)
    (below : ∀ path up, parent? path = some up → motive up → motive path) (path : Text) :
    motive path :=
  match h : parent? path with
  | none => top path h
  | some up => below path up h (upward top below up)
  termination_by path.length
  decreasing_by exact length_lt_of_parent? h

theorem ancestorsWithin_eq {n m : Nat} (hn : path.length ≤ n) (hm : path.length ≤ m) :
    ancestorsWithin n path = ancestorsWithin m path := by
  induction path using upward generalizing n m with
  | top path h =>
      cases n <;> cases m <;> simp [ancestorsWithin, h]
  | below path up h ih =>
      have hlt := length_lt_of_parent? h
      obtain ⟨n, rfl⟩ := Nat.exists_eq_add_one_of_ne_zero (n := n) (by omega)
      obtain ⟨m, rfl⟩ := Nat.exists_eq_add_one_of_ne_zero (n := m) (by omega)
      rw [ancestorsWithin, ancestorsWithin, h]
      exact congrArg (path :: ·) (ih (by omega) (by omega))

theorem ancestors_of_top (h : parent? path = none) : ancestors path = [path] := by
  unfold ancestors
  cases path.length with
  | zero => rfl
  | succ n => rw [ancestorsWithin, h]

theorem ancestors_of_parent? (h : parent? path = some up) :
    ancestors path = path :: ancestors up := by
  have hlt := length_lt_of_parent? h
  unfold ancestors
  obtain ⟨n, hn⟩ := Nat.exists_eq_add_one_of_ne_zero (n := path.length) (by omega)
  rw [hn, ancestorsWithin, h]
  exact congrArg (path :: ·) (ancestorsWithin_eq (by omega) (Nat.le_refl _))

theorem mem_ancestors_self (path : Text) : path ∈ ancestors path := by
  cases h : parent? path with
  | none => simp [ancestors_of_top h]
  | some up => simp [ancestors_of_parent? h]

theorem length_le_of_mem_ancestors {a : Text} (h : a ∈ ancestors path) :
    a.length ≤ path.length := by
  induction path using upward with
  | top path htop =>
      rw [ancestors_of_top htop, List.mem_singleton] at h
      rw [h]
  | below path up hup ih =>
      rw [ancestors_of_parent? hup, List.mem_cons] at h
      rcases h with rfl | h
      · exact Nat.le_refl _
      · exact (ih h).trans (Nat.le_of_lt (length_lt_of_parent? hup))

theorem pairwise_ancestors (path : Text) :
    (ancestors path).Pairwise fun a b => b.length < a.length := by
  induction path using upward with
  | top path htop =>
      rw [ancestors_of_top htop]
      exact List.pairwise_singleton _ _
  | below path up hup ih =>
      rw [ancestors_of_parent? hup]
      refine List.pairwise_cons.2 ⟨fun a ha => ?_, ih⟩
      exact Nat.lt_of_le_of_lt (length_le_of_mem_ancestors ha) (length_lt_of_parent? hup)

/-- Upward a path gets shorter, so the first ancestor to pass is the longest. -/
theorem find?_ancestors_eq_some_iff {a : Text} {p : Text → Bool} :
    (ancestors path).find? p = some a ↔
      a ∈ ancestors path ∧ p a = true ∧
        ∀ b ∈ ancestors path, a.length < b.length → p b = false := by
  have hshrinks := pairwise_ancestors path
  generalize ancestors path = l at hshrinks ⊢
  constructor
  · intro hfound
    obtain ⟨hp, before, after, rfl, hbefore⟩ := List.find?_eq_some_iff_append.1 hfound
    refine ⟨List.mem_of_find?_eq_some hfound, hp, fun b hb hlonger => ?_⟩
    have hafter := (List.pairwise_cons.1 (List.pairwise_append.1 hshrinks).2.1).1
    rcases List.mem_append.1 hb with hb | hb
    · simpa using hbefore b hb
    · rcases List.mem_cons.1 hb with rfl | hb
      · exact absurd hlonger (Nat.lt_irrefl _)
      · exact absurd (hafter b hb) (Nat.lt_asymm hlonger)
  · rintro ⟨hmem, hp, hlonger⟩
    obtain ⟨before, after, rfl⟩ := List.append_of_mem hmem
    have hbefore := (List.pairwise_append.1 hshrinks).2.2
    refine List.find?_eq_some_iff_append.2 ⟨hp, before, after, rfl, fun b hb => ?_⟩
    rw [hlonger b (List.mem_append_left _ hb) (hbefore b hb a List.mem_cons_self)]
    rfl

theorem exists_top (path : Text) :
    ∃ a ∈ ancestors path, a = [] ∨ a = ['/'] ∨ a = path ∧ SpellsRoot path := by
  induction path using upward with
  | top path htop =>
      refine ⟨path, mem_ancestors_self path, ?_⟩
      exact (parent?_eq_none_iff.1 htop).imp_right fun hroot => .inr ⟨rfl, hroot⟩
  | below path up hup ih =>
      obtain ⟨a, ha, hend⟩ := ih
      refine ⟨a, ?_, ?_⟩
      · rw [ancestors_of_parent? hup]
        exact List.mem_cons_of_mem path ha
      · rcases hend with rfl | rfl | ⟨rfl, hroot⟩
        · exact .inl rfl
        · exact .inr (.inl rfl)
        · exact .inr (.inl (eq_root_of_parent? hup hroot))

end Path

end ClassLayout
