import ClassLayout.Proofs.Volume.Changes
import ClassLayout.Volume.Probe

namespace ClassLayout.Volume

variable {v w x : Volume} {goal : Goal} {links : Nat} {place last : Place} {pieces : List Text}
  {path lower upper : Text}

/-- The other volume lacks some links of this one and differs in nothing else. -/
structure LosesLinks (v w : Volume) : Prop where
  workingDir_eq : w.workingDir = v.workingDir
  node?_eq : ∀ place, w.node? place = v.node? place ∨
    (w.node? place = none ∧ ∃ target, v.node? place = some (.link target))

namespace LosesLinks

theorem refl (v : Volume) : v.LosesLinks v := ⟨rfl, fun _ => .inl rfl⟩

theorem node?_eq_none (h : v.LosesLinks w) (hv : v.node? place = none) : w.node? place = none := by
  rcases h.node?_eq place with he | ⟨hnone, _⟩
  · rw [he, hv]
  · exact hnone

theorem node?_eq_some (h : v.LosesLinks w) {n : Node} (hw : w.node? place = some n) :
    v.node? place = some n := by
  rcases h.node?_eq place with he | ⟨hnone, _⟩
  · rw [← he, hw]
  · rw [hw] at hnone
    cases hnone

theorem trans (h : v.LosesLinks w) (h' : w.LosesLinks x) : v.LosesLinks x := by
  refine ⟨h'.workingDir_eq.trans h.workingDir_eq, fun p => ?_⟩
  rcases h'.node?_eq p with he | ⟨hnone, target, hlink⟩
  · rw [he]
    exact h.node?_eq p
  · exact .inr ⟨hnone, target, h.node?_eq_some hlink⟩

theorem descends (h : v.LosesLinks w) {piece : Text} {rest : List Text}
    (hw : w.Descends goal place piece rest) : v.Descends goal place piece rest :=
  ⟨h.node?_eq_some hw.directory, hw.named, hw.notUp, hw.allowed, hw.short⟩

theorem leads (h : v.LosesLinks w) (hw : w.Leads goal links place pieces last)
    (hlast : w.node? last ≠ none) : v.Leads goal links place pieces last := by
  induction hw with
  | here => exact .here
  | blank directory blank _ ih => exact .blank (h.node?_eq_some directory) blank (ih hlast)
  | up directory _ ih => exact .up (h.node?_eq_some directory) (ih hlast)
  | free _ free => exact absurd free hlast
  | down descends there noLink _ ih =>
      exact .down (h.descends descends) (h.node?_eq_some there) noLink (ih hlast)
  | link descends link stays =>
      exact .link (h.descends descends) (h.node?_eq_some link) stays
  | jump descends link spelled follows _ ih =>
      exact .jump (h.descends descends) (h.node?_eq_some link) spelled follows (ih hlast)

theorem exists_eq_false (h : v.LosesLinks w) (hv : v.exists path = false) :
    w.exists path = false := by
  rw [← Bool.not_eq_true] at hv ⊢
  refine mt (fun hw => ?_) hv
  obtain ⟨p, n, hlocate, hnode⟩ := exists_iff.1 hw
  rw [locate_eq_ok_iff, h.workingDir_eq] at hlocate
  refine exists_iff.2 ⟨p, n, locate_eq_ok_iff.2 ⟨hlocate.1, ?_⟩, h.node?_eq_some hnode⟩
  exact h.leads hlocate.2 (by rw [hnode]; exact Option.some_ne_none n)

end LosesLinks

def dropLink (v : Volume) (path : Text) : Volume :=
  match v.linkAt? path with
  | none => v
  | some place => v.erase place

theorem dropLink_of_none (h : v.linkAt? path = none) : v.dropLink path = v := by
  rw [dropLink, h]

theorem node?_dropLink_of_some (h : v.linkAt? path = some place) :
    (v.dropLink path).node? place = none ∧ v.node? place ≠ none := by
  obtain ⟨_, target, hlink⟩ := linkAt?_eq_some_iff.1 h
  rw [dropLink, h]
  dsimp only
  rw [node?_erase (ne_root_of_link hlink), if_pos rfl, hlink]
  exact ⟨rfl, Option.some_ne_none _⟩

theorem losesLinks_dropLink (v : Volume) (path : Text) : v.LosesLinks (v.dropLink path) := by
  unfold dropLink
  split
  · exact .refl v
  · rename_i p hp
    obtain ⟨_, target, hlink⟩ := linkAt?_eq_some_iff.1 hp
    refine ⟨rfl, fun q => ?_⟩
    rw [node?_erase (ne_root_of_link hlink)]
    by_cases hq : q = p
    · rw [if_pos hq, hq]
      exact .inr ⟨rfl, target, hlink⟩
    · rw [if_neg hq]
      exact .inl rfl

theorem losesLinks_foldl (v : Volume) (paths : List Text) :
    v.LosesLinks (paths.foldl dropLink v) := by
  induction paths generalizing v with
  | nil => exact .refl v
  | cons path rest ih => exact (v.losesLinks_dropLink path).trans (ih _)

theorem foldl_dropLink_eq_self_iff {paths : List Text} :
    paths.foldl dropLink v = v ↔ ∀ path ∈ paths, v.linkAt? path = none := by
  induction paths with
  | nil => simp
  | cons path rest ih =>
      rw [List.foldl_cons, List.forall_mem_cons]
      cases hlink : v.linkAt? path with
      | none => rw [dropLink_of_none hlink, ih, and_iff_right rfl]
      | some p =>
          obtain ⟨hgone, hthere⟩ := node?_dropLink_of_some hlink
          -- nothing that comes after puts the link back
          have hkept := ((v.dropLink path).losesLinks_foldl rest).node?_eq_none hgone
          constructor
          · intro he
            rw [he] at hkept
            exact absurd hkept hthere
          · rintro ⟨hnone, _⟩
            cases hnone

theorem removeIfThere_of_not_exists (h : v.exists path = false) :
    v.removeIfThere path = v.dropLink path := by
  unfold removeIfThere
  cases hremove : v.remove path with
  | error fault =>
      have hnone : v.linkAt? path = none := by
        rw [Option.eq_none_iff_forall_ne_some]
        intro p hp
        obtain ⟨hlocate, target, hlink⟩ := linkAt?_eq_some_iff.1 hp
        have hok := remove_eq_ok_iff.2 ⟨p, _, hlocate, hlink, nofun, rfl⟩
        rw [hremove] at hok
        cases hok
      rw [dropLink_of_none hnone]
  | ok removed =>
      obtain ⟨p, n, hlocate, hnode, _, rfl⟩ := remove_eq_ok_iff.1 hremove
      by_cases hlink : ∃ target, n = .link target
      · obtain ⟨target, rfl⟩ := hlink
        rw [dropLink, linkAt?_eq_some_iff.2 ⟨hlocate, target, hnode⟩]
      · rw [exists_of_locate_remove hlocate hnode (not_exists.1 hlink)] at h
        cases h

theorem tellsApart_cases (upper : Text) (v : Volume) :
    (v.tellsApart upper).2 = v ∨
      ∃ p, v.locate .occupy upper = .ok p ∧ v.node? p = none ∧
        (v.tellsApart upper).2 = v.put p (.file []) := by
  unfold tellsApart
  split
  · exact .inl rfl
  · split
    · rename_i hcreate
      obtain ⟨p, hlocate, hfree, rfl⟩ := create_eq_ok_iff.1 hcreate
      exact .inr ⟨p, hlocate, hfree, rfl⟩
    · split
      · exact .inl rfl
      · exact .inl rfl
    · exact .inl rfl

theorem removeIfThere_of_created {content : List UInt8} (hways : w.SameWays v)
    (hlocate : v.locate .remove path = .ok place) (hnode : w.node? place = some (.file content)) :
    w.removeIfThere path = w.erase place := by
  have hremove := remove_eq_ok_iff.2 ⟨place, _, hways.symm.locate hlocate, hnode, nofun, rfl⟩
  rw [removeIfThere, hremove]

theorem locate_remove_of_occupy (h : v.locate .occupy path = .ok place) :
    v.locate .remove path = .ok place := by
  rw [locate_eq_ok_iff] at h ⊢
  exact ⟨h.1, h.2.changeGoal rfl id .inl⟩

theorem linkAt?_of_occupy (hlocate : v.locate .occupy path = .ok place)
    (hfree : v.node? place = none) : v.linkAt? path = none :=
  linkAt?_eq_none_of_node? (locate_remove_of_occupy hlocate) fun _ he => by
    rw [hfree] at he
    cases he

/-- Whichever way the attempt ends, the files that it created are gone, and the links under both
names with them. -/
theorem tryCase_eq (hlower : v.exists lower = false) (hupper : v.exists upper = false) :
    (v.tryCase lower upper).2 = (v.dropLink lower).dropLink upper := by
  unfold tryCase
  cases hcreate : v.create lower (.file probeContent) with
  | error fault =>
      have hupper' := (v.losesLinks_dropLink lower).exists_eq_false hupper
      dsimp only
      rw [removeIfThere_of_not_exists hlower, removeIfThere_of_not_exists hupper']
  | ok created =>
      obtain ⟨p, hlocate, hfree, rfl⟩ := create_eq_ok_iff.1 hcreate
      have hroot := ne_root_of_node?_eq_none hfree
      have hways := SameWays.put_file hfree probeContent
      rw [dropLink_of_none (linkAt?_of_occupy hlocate hfree)]
      dsimp only
      rcases tellsApart_cases upper (v.put p (.file probeContent)) with he | ⟨q, hq, hqfree, he⟩
      · rw [he, removeIfThere_of_created hways.symm (locate_remove_of_occupy hlocate)
          (node?_put_self hroot _), erase_put_self hfree, removeIfThere_of_not_exists hupper]
      · have hne : q ≠ p := by
          rintro rfl
          rw [node?_put_self hroot] at hqfree
          cases hqfree
        have hqfree' : v.node? q = none := by rwa [node?_put_of_ne hroot _ hne] at hqfree
        have hqroot := ne_root_of_node?_eq_none hqfree
        have hqlocate : v.locate .occupy upper = .ok q := hways.symm.locate hq
        have hways' := hways.trans (SameWays.put_file hqfree [])
        have hlowerThere : ((v.put p (.file probeContent)).put q (.file [])).node? p =
            some (.file probeContent) := by
          rw [node?_put_of_ne hqroot _ hne.symm, node?_put_self hroot]
        rw [he, removeIfThere_of_created hways'.symm (locate_remove_of_occupy hlocate) hlowerThere,
          erase_put_of_ne hne, erase_put_self hfree,
          removeIfThere_of_created (SameWays.put_file hqfree' []).symm
            (locate_remove_of_occupy hqlocate) (node?_put_self hqroot _), erase_put_self hqfree',
          dropLink_of_none (linkAt?_of_occupy hqlocate hqfree')]

def probePaths (v : Volume) (path : Text) : List Text :=
  match v.nearestDirectory? path with
  | none => []
  | some dir =>
      match v.freeProbe? dir with
      | none => []
      | some n => [lowerProbe dir n, upperProbe dir n]

theorem not_exists_of_freeProbe? {dir : Text} {n : Nat} (h : v.freeProbe? dir = some n) :
    v.exists (lowerProbe dir n) = false ∧ v.exists (upperProbe dir n) = false := by
  have hfound := List.find?_some h
  rwa [Bool.and_eq_true, Bool.not_eq_true', Bool.not_eq_true'] at hfound

theorem caseSensitivity_eq (path : Text) (v : Volume) :
    (v.caseSensitivity path).2 = (v.probePaths path).foldl dropLink v := by
  unfold caseSensitivity probePaths
  cases v.nearestDirectory? path with
  | none => rfl
  | some dir =>
      dsimp only
      cases hfree : v.freeProbe? dir with
      | none => rfl
      | some n =>
          obtain ⟨hlower, hupper⟩ := not_exists_of_freeProbe? hfree
          exact tryCase_eq hlower hupper

/-- The probe leaves a volume as it was just where none of its two names is that of a link. In any
case it takes away the links under these names and does nothing else. -/
theorem caseSensitivity_unchanged_iff (path : Text) (v : Volume) :
    ((v.caseSensitivity path).2 = v ↔ ∀ probe ∈ v.probePaths path, v.linkAt? probe = none) ∧
    (v.caseSensitivity path).2 = (v.probePaths path).foldl dropLink v ∧
    v.LosesLinks (v.caseSensitivity path).2 := by
  rw [caseSensitivity_eq]
  exact ⟨foldl_dropLink_eq_self_iff, rfl, v.losesLinks_foldl _⟩

/-- A link that leads to nothing is removed, though the probe did not create it. -/
theorem caseSensitivity_removes_link :
    (caseSensitivity ['.']
        ⟨⟨[(Place.root.child "case_probe.1".toList, .link "gone".toList)]⟩, .root⟩).2 = {} ∧
      (⟨⟨[(Place.root.child "case_probe.1".toList, .link "gone".toList)]⟩, .root⟩ : Volume) ≠
        {} := by
  decide +kernel

end ClassLayout.Volume
