import ClassLayout.Proofs.Text.Lowercase
import ClassLayout.Proofs.Volume.Below
import ClassLayout.Proofs.Volume.CaseProbe
import Mathlib.Data.Finset.Card
import Mathlib.Order.Interval.Finset.Nat

namespace ClassLayout.Volume

variable {v : Volume} {place : Place} {path dir name : Text} {n m : Nat}

/-- The first directory on the way up from a path, the path itself included. Above a relative path
stands the working directory. -/
structure IsNearest (v : Volume) (path dir : Text) : Prop where
  isDirectory : v.isDirectory dir = true
  first : ∃ nearer farther, (Path.ancestors path).map (fun p => if p.isEmpty then ['.'] else p) =
    nearer ++ dir :: farther ∧ ∀ p ∈ nearer, v.isDirectory p = false

def IsProbeName (n : Nat) (name : Text) : Prop :=
  name = "case_probe.".toList ++ Text.decimal n ∨ name = "CASE_PROBE.".toList ++ Text.decimal n

def IsFree (v : Volume) (dir : Text) (n : Nat) : Prop :=
  1 ≤ n ∧ v.exists (lowerProbe dir n) = false ∧ v.exists (upperProbe dir n) = false

instance (v : Volume) (dir : Text) : DecidablePred (v.IsFree dir) :=
  fun _ => inferInstanceAs (Decidable (_ ∧ _))

def TellsCase (v : Volume) (dir : Text) (n : Nat) : Prop :=
  ∃ created, v.create (lowerProbe dir n) (.file probeContent) = .ok created ∧
    created.read (upperProbe dir n) = .error .notFound

theorem isSegment_append_decimal {stem : Text} (h : IsSegment stem) (n : Nat) :
    IsSegment (stem ++ Text.decimal n) := by
  refine ⟨List.append_ne_nil_of_left_ne_nil h.1 _, fun hsep => ?_⟩
  rcases List.mem_append.1 hsep with hsep | hsep
  · exact h.2 hsep
  · exact absurd (mem_decimalDigits_of_mem_decimal hsep) (by decide)

theorem lower_ne_upper (s t : Text) : "case_probe.".toList ++ s ≠ "CASE_PROBE.".toList ++ t := by
  intro he
  simp at he

namespace IsProbeName

theorem isSegment (h : IsProbeName n name) : IsSegment name := by
  rcases h with rfl | rfl
  · exact isSegment_append_decimal (by decide) n
  · exact isSegment_append_decimal (by decide) n

theorem not_isDots (h : IsProbeName n name) : ¬ Path.IsDots name := by
  rcases h with rfl | rfl
  · simp [Path.IsDots]
  · simp [Path.IsDots]

theorem number_eq (h : IsProbeName n name) (h' : IsProbeName m name) : n = m := by
  rcases h with rfl | rfl
  · rcases h' with h' | h'
    · exact Text.decimal_injective (List.append_cancel_left h')
    · exact absurd h' (lower_ne_upper _ _)
  · rcases h' with h' | h'
    · exact absurd h'.symm (lower_ne_upper _ _)
    · exact Text.decimal_injective (List.append_cancel_left h')

end IsProbeName

theorem isFree_iff (hn : 1 ≤ n) : v.IsFree dir n ↔
    (!v.exists (lowerProbe dir n) && !v.exists (upperProbe dir n)) = true := by
  simp [IsFree, hn]

theorem exists_isProbeName_of_not_isFree (hn : 1 ≤ n) (h : ¬ v.IsFree dir n) :
    ∃ name, IsProbeName n name ∧ v.exists (Path.join dir name) = true := by
  by_cases hlower : v.exists (lowerProbe dir n) = true
  · exact ⟨_, .inl rfl, hlower⟩
  · by_cases hupper : v.exists (upperProbe dir n) = true
    · exact ⟨_, .inr rfl, hupper⟩
    · exact absurd ⟨hn, by simpa using hlower, by simpa using hupper⟩ h

section Below

variable (hdir : v.locate .inspect dir = .ok place) (hplace : v.node? place = some .directory)

include hdir hplace

theorem exists_isFree : ∃ n, v.IsFree dir n ∧ n ≤ (v.entriesIn place).toFinset.card + 1 := by
  by_contra! hnone
  -- each number would have an entry of the directory to itself
  have htaken : ∀ n ∈ Finset.Icc 1 ((v.entriesIn place).toFinset.card + 1),
      ∃ name, IsProbeName n name ∧ v.exists (Path.join dir name) = true := by
    intro n hn
    obtain ⟨hpos, hle⟩ := Finset.mem_Icc.1 hn
    exact exists_isProbeName_of_not_isFree hpos fun hfree => (hnone n hfree).not_ge hle
  choose! name hname hthere using htaken
  have hcard := Finset.card_le_card_of_injOn (fun n => place.child (name n))
    (s := Finset.Icc 1 ((v.entriesIn place).toFinset.card + 1))
    (t := (v.entriesIn place).toFinset) ?_ ?_
  · rw [Nat.card_Icc] at hcard
    omega
  · intro n hn
    exact List.mem_toFinset.2 (child_mem_entriesIn hdir hplace (hname n hn).isSegment
      (hname n hn).not_isDots (hthere n hn))
  · intro n hn m hm he
    have hnames : name n = name m := place.child_injective he
    exact (hname n hn).number_eq (hnames ▸ hname m hm)

theorem exists_freeProbe? : ∃ n, v.freeProbe? dir = some n ∧ IsLeast {n | v.IsFree dir n} n ∧
    n ≤ (v.entriesIn place).toFinset.card + 1 := by
  obtain ⟨m, hm, hbound⟩ := exists_isFree hdir hplace
  have hex : ∃ n, v.IsFree dir n := ⟨m, hm⟩
  have hfree := Nat.find_spec hex
  have hle := (Nat.find_min' hex hm).trans hbound
  refine ⟨Nat.find hex, ?_, ⟨hfree, fun n hn => Nat.find_min' hex hn⟩, hle⟩
  rw [freeProbe?, hdir]
  refine List.find?_range'_eq_some.2 ⟨(isFree_iff hfree.1).1 hfree, ?_, fun j hj hlt => ?_⟩
  · have hlength := (v.entriesIn place).toFinset_card_le
    have hpos := hfree.1
    dsimp only
    rw [List.mem_range'_1]
    omega
  · rw [Bool.not_eq_true', ← Bool.not_eq_true, ← isFree_iff hj]
    exact Nat.find_min hex hlt

end Below

/-- However the looks at the upper name go, they come to whether something is found there. -/
theorem tellsApart_iff (hdir : v.locate .inspect dir = .ok place)
    (hplace : v.node? place = some .directory) (hname : IsSegment name)
    (hdots : ¬ Path.IsDots name) : (v.tellsApart (Path.join dir name)).1 = true ↔
      v.read (Path.join dir name) = .error .notFound := by
  unfold tellsApart
  constructor
  · intro h
    split at h
    · cases h
    · split at h
      · -- what could be created was not there before
        rename_i hcreate
        obtain ⟨p, hlocate, hfree, -⟩ := create_eq_ok_iff.1 hcreate
        refine read_of_free (locate_inspect_of_not_link hlocate fun target hlink => ?_) hfree
        rw [hfree] at hlink
        cases hlink
      · split at h
        · assumption
        · cases h
      · cases h
  · intro h
    have hlocate := locate_occupy_of_read hdir hplace hname hdots h
    rw [not_exists_of_read h, if_neg Bool.false_ne_true]
    cases hthere : v.node? (place.child name) with
    | none => rw [create_eq_ok_iff.2 ⟨_, hlocate, hthere, rfl⟩]
    | some n =>
        -- a link that leads nowhere: not found, but not free to be created either
        rw [create_of_taken hlocate hthere]
        dsimp only
        rw [h]

theorem tryCase_iff (hdir : v.locate .inspect dir = .ok place)
    (hplace : v.node? place = some .directory) :
    (v.tryCase (lowerProbe dir n) (upperProbe dir n)).1 = true ↔ v.TellsCase dir n := by
  unfold tryCase TellsCase
  cases hcreate : v.create (lowerProbe dir n) (.file probeContent) with
  | error fault => simp
  | ok created =>
      obtain ⟨p, _, hfree, rfl⟩ := create_eq_ok_iff.1 hcreate
      have hways := SameWays.put_file hfree probeContent
      have hupper : IsProbeName n ("CASE_PROBE.".toList ++ Text.decimal n) := .inr rfl
      -- the file that was created leaves the directory where it was
      have hiff := tellsApart_iff (hways.locate hdir) (hways.directory hplace) hupper.isSegment
        hupper.not_isDots
      simp only [Except.ok.injEq, exists_eq_left']
      exact hiff

theorem nearestDirectory?_eq_some_iff : v.nearestDirectory? path = some dir ↔
    v.IsNearest path dir := by
  rw [nearestDirectory?, List.find?_eq_some_iff_append]
  simp only [Bool.not_eq_true']
  exact ⟨fun h => ⟨h.1, h.2⟩, fun h => ⟨h.isDirectory, h.first⟩⟩

theorem exists_place_of_isDirectory (h : v.isDirectory dir = true) :
    ∃ place, v.locate .inspect dir = .ok place ∧ v.node? place = some .directory := by
  unfold isDirectory at h
  split at h
  · rename_i hinspect
    exact inspect_eq_ok_iff.1 hinspect
  · cases h

theorem caseSensitivity_of_freeProbe? (hdir : v.nearestDirectory? path = some dir)
    (hfree : v.freeProbe? dir = some n) : (v.caseSensitivity path).1 =
      if (v.tryCase (lowerProbe dir n) (upperProbe dir n)).1 then .sensitive else .insensitive := by
  unfold caseSensitivity
  rw [hdir]
  dsimp only
  rw [hfree]

theorem IsNearest.caseSensitivity (h : v.IsNearest path dir) : ∃ place n,
    v.locate .inspect dir = .ok place ∧ v.node? place = some .directory ∧
    v.freeProbe? dir = some n ∧ IsLeast {n | v.IsFree dir n} n ∧
    n ≤ (v.entriesIn place).toFinset.card + 1 ∧
    ((v.caseSensitivity path).1 = .sensitive ∧ v.TellsCase dir n ∨
      (v.caseSensitivity path).1 = .insensitive ∧ ¬ v.TellsCase dir n) := by
  obtain ⟨place, hdir, hplace⟩ := exists_place_of_isDirectory h.isDirectory
  obtain ⟨n, hfree, hleast, hbound⟩ := exists_freeProbe? hdir hplace
  refine ⟨place, n, hdir, hplace, hfree, hleast, hbound, ?_⟩
  rw [caseSensitivity_of_freeProbe? (nearestDirectory?_eq_some_iff.2 h) hfree,
    ← tryCase_iff hdir hplace]
  cases (v.tryCase (lowerProbe dir n) (upperProbe dir n)).1 with
  | true => exact .inl ⟨rfl, rfl⟩
  | false => exact .inr ⟨rfl, Bool.false_ne_true⟩

theorem caseSensitivity_of_not_isNearest (h : ∀ dir, ¬ v.IsNearest path dir) :
    (v.caseSensitivity path).1 = .insensitive := by
  have hnone : v.nearestDirectory? path = none :=
    Option.eq_none_iff_forall_ne_some.2 fun dir hdir => h dir (nearestDirectory?_eq_some_iff.1 hdir)
  rw [caseSensitivity, hnone]

theorem IsNearest.unique {dir' : Text} (h : v.IsNearest path dir) (h' : v.IsNearest path dir') :
    dir = dir' := by
  rw [← nearestDirectory?_eq_some_iff] at h h'
  exact Option.some.inj (h.symm.trans h')

/-- The probe always answers, by the least number whose two names lead to nothing in the nearest
directory: case is told apart if the lower one can be created and the upper one is not found then.
-/
theorem caseSensitivity_answers (path : Text) (v : Volume) :
    ((v.caseSensitivity path).1 = .sensitive ↔ ∃ dir n, v.IsNearest path dir ∧
      IsLeast {n | v.IsFree dir n} n ∧ v.TellsCase dir n) ∧
    ((v.caseSensitivity path).1 = .sensitive ∨ (v.caseSensitivity path).1 = .insensitive) ∧
    ∀ dir, v.IsNearest path dir → ∃ place n,
      v.locate .inspect dir = .ok place ∧ v.node? place = some .directory ∧
      v.freeProbe? dir = some n ∧ IsLeast {n | v.IsFree dir n} n ∧
      n ≤ (v.entriesIn place).toFinset.card + 1 := by
  rw [← and_assoc]
  refine ⟨?_, fun dir hdir => ?_⟩
  · by_cases hnearest : ∃ dir, v.IsNearest path dir
    · obtain ⟨dir, hdir⟩ := hnearest
      obtain ⟨place, n, -, -, -, hleast, -, hverdict⟩ := hdir.caseSensitivity
      rcases hverdict with ⟨hsensitive, htells⟩ | ⟨hinsensitive, htells⟩
      · exact ⟨iff_of_true hsensitive ⟨dir, n, hdir, hleast, htells⟩, .inl hsensitive⟩
      · refine ⟨iff_of_false (by rw [hinsensitive]; decide) ?_, .inr hinsensitive⟩
        rintro ⟨dir', n', hdir', hleast', htells'⟩
        obtain rfl := hdir.unique hdir'
        obtain rfl := hleast.unique hleast'
        exact htells htells'
    · have hnone := not_exists.1 hnearest
      have hverdict := caseSensitivity_of_not_isNearest hnone
      refine ⟨iff_of_false (by rw [hverdict]; decide) ?_, .inr hverdict⟩
      rintro ⟨dir, n, hdir, _⟩
      exact hnone dir hdir
  · obtain ⟨place, n, hlocate, hplace, hfree, hleast, hbound, -⟩ := hdir.caseSensitivity
    exact ⟨place, n, hlocate, hplace, hfree, hleast, hbound⟩

/-- The first number is taken by a file. With the second one, a link gives the lower file under the
upper name. -/
def linkedNames : Volume :=
  ⟨⟨[(Place.root.child "CASE_PROBE.1".toList, .file []),
    (Place.root.child "CASE_PROBE.2".toList, .link "case_probe.2".toList)]⟩, .root⟩

theorem caseSensitivity_answers_linkedNames :
    linkedNames.IsNearest ['x', '/', 'y'] ['.'] ∧
      IsLeast {n | linkedNames.IsFree ['.'] n} 2 ∧
      2 ≤ (linkedNames.entriesIn .root).toFinset.card + 1 ∧
      (linkedNames.caseSensitivity ['x', '/', 'y']).1 = .insensitive ∧
      ¬ linkedNames.TellsCase ['.'] 2 := by
  have hnearest : linkedNames.IsNearest ['x', '/', 'y'] ['.'] :=
    nearestDirectory?_eq_some_iff.1 (by decide +kernel)
  have hsecond : linkedNames.freeProbe? ['.'] = some 2 := by decide +kernel
  have hverdict : (linkedNames.caseSensitivity ['x', '/', 'y']).1 = .insensitive := by
    decide +kernel
  obtain ⟨hiff, -, hsearch⟩ := caseSensitivity_answers ['x', '/', 'y'] linkedNames
  obtain ⟨place, n, hdir, _, hfree, hleast, hbound⟩ := hsearch ['.'] hnearest
  obtain rfl : Place.root = place := Except.ok.inj hdir
  obtain rfl : 2 = n := Option.some.inj (hsecond.symm.trans hfree)
  refine ⟨hnearest, hleast, hbound, hverdict, fun htells => ?_⟩
  have hsensitive := hiff.2 ⟨['.'], 2, hnearest, hleast, htells⟩
  rw [hverdict] at hsensitive
  cases hsensitive

end ClassLayout.Volume
