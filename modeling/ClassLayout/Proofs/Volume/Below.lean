import ClassLayout.Proofs.Path
import ClassLayout.Proofs.Volume.Changes

namespace ClassLayout.Volume

variable {v : Volume} {goal : Goal} {links : Nat} {place last : Place} {piece dir name : Text}
  {pieces rest more : List Text}

theorem Leads.dropBlank (h : v.Leads .inspect links place (pieces ++ [[]]) last) :
    v.Leads .inspect links place pieces last := by
  generalize hall : pieces ++ [[]] = all at h
  -- the last piece is blank, so only the step for blank pieces can be the last one
  induction h generalizing pieces with
  | here => exact absurd hall (List.append_ne_nil_of_right_ne_nil _ (List.cons_ne_nil _ _))
  | blank directory blank onward ih =>
      cases pieces with
      | nil =>
          cases hall
          exact onward
      | cons first others =>
          cases hall
          exact .blank directory blank (ih rfl)
  | up directory _ ih =>
      cases pieces with
      | nil => cases hall
      | cons first others =>
          cases hall
          exact .up directory (ih rfl)
  | free descends _ =>
      cases pieces with
      | nil =>
          cases hall
          cases descends.named
      | cons first others => simp at hall
  | down descends there noLink _ ih =>
      cases pieces with
      | nil =>
          cases hall
          cases descends.named
      | cons first others =>
          cases hall
          exact .down (descends.changeGoal rfl) there noLink (ih rfl)
  | link _ _ stays => cases stays
  | jump descends link spelled _ _ ih =>
      cases pieces with
      | nil =>
          cases hall
          cases descends.named
      | cons first others =>
          cases hall
          exact .jump (descends.changeGoal rfl) link spelled (.inr rfl)
            (ih (List.append_assoc _ _ _))

theorem Descends.append (h : v.Descends .inspect place piece rest)
    (hmore : ¬ more.all List.isEmpty) : v.Descends goal place piece (rest ++ more) where
  directory := h.directory
  named := h.named
  notUp := h.notUp
  allowed hblocked := by
    rw [List.all_append, Bool.and_eq_true] at hblocked
    exact hmore hblocked.2.2.2
  short := h.short

theorem Leads.follow_append (h : v.Leads .inspect links place pieces last)
    (hlast : v.node? last = some .directory) :
    ∃ fewer, ∀ (goal : Goal) (more : List Text), ¬ more.all List.isEmpty →
      v.follow goal links place (pieces ++ more) = v.follow goal fewer last more := by
  induction h with
  | @here links place => exact ⟨links, fun _ _ _ => rfl⟩
  | blank directory blank _ ih =>
      obtain ⟨fewer, ih⟩ := ih hlast
      refine ⟨fewer, fun goal more hmore => ?_⟩
      rw [List.cons_append, follow_of_blank directory blank, ih goal more hmore]
  | up directory _ ih =>
      obtain ⟨fewer, ih⟩ := ih hlast
      refine ⟨fewer, fun goal more hmore => ?_⟩
      rw [List.cons_append, follow_up directory, ih goal more hmore]
  | free _ free =>
      rw [free] at hlast
      cases hlast
  | @down _ _ _ _ _ n descends there noLink _ ih =>
      obtain ⟨fewer, ih⟩ := ih hlast
      refine ⟨fewer, fun goal more hmore => ?_⟩
      rw [List.cons_append, (descends.append hmore).follow_eq, there]
      cases n with
      | directory => exact ih goal more hmore
      | file content => exact ih goal more hmore
      | link target => exact absurd rfl (noLink target)
  | link _ _ stays => cases stays
  | jump descends link spelled _ _ ih =>
      obtain ⟨fewer, ih⟩ := ih hlast
      refine ⟨fewer, fun goal more hmore => ?_⟩
      have hgoes : more ≠ [] := fun he => hmore (by rw [he]; rfl)
      rw [List.cons_append, (descends.append hmore).follow_eq, link]
      dsimp only
      rw [if_neg fun he => hgoes (List.append_eq_nil_iff.1 he.1).2, if_neg spelled,
        ← List.append_assoc]
      exact ih goal more hmore

theorem eq_nil_of_flaw? {path : Text} (h : flaw? path = some .notFound) : path = [] := by
  unfold flaw? at h
  split at h
  · cases h
  · split at h
    · assumption
    · split at h
      · cases h
      · cases h

section Names

variable (hdir : v.locate .inspect dir = .ok place) (hplace : v.node? place = some .directory)
  (hname : IsSegment name) (hdots : ¬ Path.IsDots name)

include hdir hplace hname

/-- The path of a name below a directory leads where the name leads from the directory. -/
theorem exists_locate_join : ∃ fewer, ∀ goal, flaw? (Path.join dir name) = none →
    v.locate goal (Path.join dir name) = v.follow goal fewer place [name] := by
  obtain ⟨hflaw, hleads⟩ := locate_eq_ok_iff.1 hdir
  have hne : dir ≠ [] := by
    rintro rfl
    cases hflaw
  obtain ⟨before, hpieces, hbefore⟩ := Path.pieces_join hne hname
  have hleads' : v.Leads .inspect mostLinks (start v.workingDir dir) before place := by
    rcases hbefore with hdir | hdir
    · rwa [hdir] at hleads
    · rw [hdir] at hleads
      exact hleads.dropBlank
  have hstart : start v.workingDir (Path.join dir name) = start v.workingDir dir := by
    rw [start, Path.isAbsolute_join dir hname, start]
  obtain ⟨fewer, hfollow⟩ := hleads'.follow_append hplace
  refine ⟨fewer, fun goal hflaw => ?_⟩
  rw [locate, hflaw]
  dsimp only
  rw [hstart, hpieces, hfollow goal [name] (by simpa using hname.1)]

include hdots

theorem locate_join_cases :
    (∃ fault, fault ≠ .notFound ∧ ∀ goal, v.locate goal (Path.join dir name) = .error fault) ∨
    ∃ fewer, ∀ goal, v.Descends goal place name [] ∧
      v.locate goal (Path.join dir name) = v.follow goal fewer place [name] := by
  cases hflaw : flaw? (Path.join dir name) with
  | some fault =>
      refine .inl ⟨fault, ?_, fun goal => by rw [locate, hflaw]⟩
      rintro rfl
      have hempty := eq_nil_of_flaw? hflaw
      rw [Path.join_eq dir hname] at hempty
      exact hname.1 (List.append_eq_nil_iff.1 hempty).2
  | none =>
      obtain ⟨fewer, hjoin⟩ := exists_locate_join hdir hplace hname
      obtain ⟨hdot, hup⟩ := not_or.1 hdots
      have hblank : Path.isBlank name = false := by simp [Path.isBlank, hname.1, hdot]
      rcases Nat.lt_or_ge longestName name.bytes with hlong | hshort
      · refine .inl ⟨.nameTooLong, by decide, fun goal => ?_⟩
        rw [hjoin goal hflaw, follow_eq, followWith, if_neg (not_not_intro hplace), hblank,
          if_neg Bool.false_ne_true, if_neg hup, if_neg fun h => h.2.1 rfl, if_pos hlong]
      · exact .inr ⟨fewer, fun goal =>
          ⟨⟨hplace, hblank, hup, fun h => h.2.1 rfl, hshort⟩, hjoin goal hflaw⟩⟩

theorem child_mem_entriesIn (h : v.exists (Path.join dir name) = true) :
    place.child name ∈ v.entriesIn place := by
  obtain ⟨p, n, hlocate, hnode⟩ := exists_iff.1 h
  have hthere : v.node? (place.child name) ≠ none := by
    intro hfree
    rcases locate_join_cases hdir hplace hname hdots with ⟨fault, _, hfails⟩ | ⟨fewer, hgoes⟩
    · rw [hfails] at hlocate
      cases hlocate
    · rw [(hgoes .inspect).2, (hgoes .inspect).1.follow_eq, hfree] at hlocate
      cases hlocate
      rw [hfree] at hnode
      cases hnode
  have hroot : place.child name ≠ .root := fun he => by cases he
  rw [← get?_nodes_of_ne_root hroot, Option.ne_none_iff_isSome] at hthere
  exact List.mem_filter.2 ⟨(Table.find_isSome_iff _ _).1 hthere,
    decide_eq_true ⟨hroot, Place.parent_child _ _⟩⟩

/-- Where nothing is found by a name, nothing but a link keeps the name from being taken. -/
theorem locate_occupy_of_read (h : v.read (Path.join dir name) = .error .notFound) :
    v.locate .occupy (Path.join dir name) = .ok (place.child name) := by
  rcases locate_join_cases hdir hplace hname hdots with ⟨fault, hne, hfails⟩ | ⟨fewer, hgoes⟩
  · rw [read, inspect, hfails] at h
    exact absurd (Except.error.inj h) hne
  · rw [(hgoes .occupy).2, (hgoes .occupy).1.follow_eq]
    cases v.node? (place.child name) with
    | none => rfl
    | some n =>
        cases n with
        | directory => exact follow_nil
        | file content => exact follow_nil
        | link target => rfl

end Names

end ClassLayout.Volume
