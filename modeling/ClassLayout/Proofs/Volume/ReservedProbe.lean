import ClassLayout.Proofs.Volume.Changes
import ClassLayout.Volume.Probe

namespace ClassLayout.Volume

variable {v w x : Volume} {place : Place} {path dir extension : Text}

def LeadsToFree (v : Volume) (path : Text) : Prop :=
  (v.linkAt? path).isSome ∧ ∃ place, v.locate .write path = .ok place ∧ v.node? place = none

def accepts (v : Volume) (path : Text) : Bool := v.exists path || (v.write path probeContent).isOk

/-- Files and directories are the same. Free places and links may have become free or a file of the
probe. -/
structure KeepsFiles (v w : Volume) : Prop where
  workingDir_eq : w.workingDir = v.workingDir
  node?_eq : ∀ place, w.node? place = v.node? place ∨
    ((v.node? place = none ∨ ∃ target, v.node? place = some (.link target)) ∧
      (w.node? place = none ∨ w.node? place = some (.file probeContent)))

namespace KeepsFiles

theorem refl (v : Volume) : v.KeepsFiles v := ⟨rfl, fun _ => .inl rfl⟩

theorem trans (h : v.KeepsFiles w) (h' : w.KeepsFiles x) : v.KeepsFiles x := by
  refine ⟨h'.workingDir_eq.trans h.workingDir_eq, fun p => ?_⟩
  rcases h.node?_eq p with he | ⟨hv, hw⟩
  · rw [← he]
    exact h'.node?_eq p
  · rcases h'.node?_eq p with he | ⟨_, hx⟩
    · rw [he]
      exact .inr ⟨hv, hw⟩
    · exact .inr ⟨hv, hx⟩

theorem file (h : v.KeepsFiles w) {content : List UInt8}
    (hv : v.node? place = some (.file content)) : w.node? place = some (.file content) := by
  rcases h.node?_eq place with he | ⟨hnone | ⟨target, hlink⟩, _⟩
  · rw [he, hv]
  · rw [hv] at hnone
    cases hnone
  · rw [hv] at hlink
    cases hlink

theorem put_file (h : v.node? place = none) : v.KeepsFiles (v.put place (.file probeContent)) := by
  refine ⟨rfl, fun p => ?_⟩
  rw [node?_put (ne_root_of_node?_eq_none h)]
  by_cases hp : p = place
  · rw [if_pos hp, hp]
    exact .inr ⟨.inl h, .inr rfl⟩
  · rw [if_neg hp]
    exact .inl rfl

theorem erase_link {target : Text} (h : v.node? place = some (.link target)) :
    v.KeepsFiles (v.erase place) := by
  refine ⟨rfl, fun p => ?_⟩
  rw [node?_erase (ne_root_of_link h)]
  by_cases hp : p = place
  · rw [if_pos hp, hp]
    exact .inr ⟨.inr ⟨target, h⟩, .inl rfl⟩
  · rw [if_neg hp]
    exact .inl rfl

end KeepsFiles

theorem exists_free_of_write {content : List UInt8} (hexists : v.exists path = false)
    (h : v.write path content = .ok w) :
    ∃ p, v.locate .write path = .ok p ∧ v.node? p = none ∧ w = v.put p (.file content) := by
  obtain ⟨p, hlocate, hfree | ⟨old, hfile⟩, hw⟩ := write_eq_ok_iff.1 h
  · exact ⟨p, hlocate, hfree, hw⟩
  · rw [exists_iff.2 ⟨p, _, locate_inspect_of_write hlocate, hfile⟩] at hexists
    cases hexists

theorem remove_after_write (content : List UInt8) (hlocate : v.locate .write path = .ok place)
    (hfree : v.node? place = none) :
    (v.linkAt? path = none ∧ (v.put place (.file content)).remove path = .ok v) ∨
    ∃ p target, v.linkAt? path = some p ∧ v.node? p = some (.link target) ∧
      (v.put place (.file content)).remove path = .ok ((v.put place (.file content)).erase p) := by
  have hroot := ne_root_of_node?_eq_none hfree
  have hways := SameWays.put_file hfree content
  obtain ⟨hflaw, hleads⟩ := locate_eq_ok_iff.1 hlocate
  obtain ⟨p, hremove, rfl | ⟨target, hlink⟩⟩ := hleads.exists_remove
  · have hlocate' := locate_eq_ok_iff.2 ⟨hflaw, hremove⟩
    left
    constructor
    · exact linkAt?_eq_none_of_node? hlocate' fun _ he => by
        rw [hfree] at he
        cases he
    · refine remove_eq_ok_iff.2 ⟨p, _, hways.locate hlocate', node?_put_self hroot _, nofun, ?_⟩
      rw [erase_put_self hfree]
  · have hlocate' := locate_eq_ok_iff.2 ⟨hflaw, hremove⟩
    right
    refine ⟨p, target, linkAt?_eq_some_iff.2 ⟨hlocate', target, hlink⟩, hlink, ?_⟩
    exact remove_eq_ok_iff.2 ⟨p, _, hways.locate hlocate', hways.link hlink, nofun, rfl⟩

/-- What trying one name comes to: the volume with which the next name is tried, if there is to be
a next one. -/
inductive Tried (v : Volume) (path : Text) : Option Volume → Prop
  | refused (refuses : v.accepts path = false) : Tried v path none
  | unchanged (accepted : v.accepts path = true) (harmless : ¬ v.LeadsToFree path) :
      Tried v path (some v)
  | moved {place p : Place} {target : Text} (accepted : v.accepts path = true)
      (leads : v.LeadsToFree path) (free : v.node? place = none)
      (link : v.node? p = some (.link target)) :
      Tried v path (some ((v.put place (.file probeContent)).erase p))

theorem not_leadsToFree_of_exists (h : v.exists path = true) : ¬ v.LeadsToFree path := by
  rintro ⟨_, place, hlocate, hfree⟩
  obtain ⟨p, n, hinspect, hnode⟩ := exists_iff.1 h
  rw [locate_inspect_of_write hlocate] at hinspect
  cases hinspect
  rw [hfree] at hnode
  cases hnode

theorem accepts_of_exists (h : v.exists path = true) : v.accepts path = true := by
  rw [accepts, h, Bool.true_or]

theorem accepts_of_not_exists (h : v.exists path = false) :
    v.accepts path = (v.write path probeContent).isOk := by
  rw [accepts, h, Bool.false_or]

theorem refusesSome_cons (dir extension name : Text) (rest : List Text) (v : Volume) :
    ∃ next, v.Tried (Path.join dir (name ++ extension)) next ∧
      (refusesSome dir extension (name :: rest) v).2 =
        match next with
        | none => v
        | some w => (refusesSome dir extension rest w).2 := by
  rw [refusesSome]
  cases hexists : v.exists (Path.join dir (name ++ extension)) with
  | true =>
      exact ⟨_, .unchanged (accepts_of_exists hexists) (not_leadsToFree_of_exists hexists), rfl⟩
  | false =>
      have haccepts := accepts_of_not_exists hexists
      rw [if_neg Bool.false_ne_true]
      cases hwrite : v.write (Path.join dir (name ++ extension)) probeContent with
      | error fault =>
          rw [hwrite] at haccepts
          exact ⟨none, .refused haccepts, rfl⟩
      | ok written =>
          rw [hwrite] at haccepts
          obtain ⟨place, hlocate, hfree, rfl⟩ := exists_free_of_write hexists hwrite
          rcases remove_after_write probeContent hlocate hfree with
            ⟨hnone, hremove⟩ | ⟨p, target, hsome, hlink, hremove⟩
          · refine ⟨some v, .unchanged haccepts ?_, by dsimp only; rw [hremove]⟩
            rintro ⟨hlink, _⟩
            rw [hnone] at hlink
            cases hlink
          · have hleads : v.LeadsToFree (Path.join dir (name ++ extension)) :=
              ⟨by rw [hsome]; rfl, place, hlocate, hfree⟩
            exact ⟨_, .moved haccepts hleads hfree hlink, by dsimp only; rw [hremove]⟩

theorem ne_of_free_of_link {p : Place} {target : Text} (hfree : v.node? place = none)
    (hlink : v.node? p = some (.link target)) : p ≠ place := by
  rintro rfl
  rw [hfree] at hlink
  cases hlink

theorem Tried.keepsFiles (h : v.Tried path (some w)) : v.KeepsFiles w := by
  cases h with
  | unchanged => exact .refl v
  | moved accepted leads free link =>
      have hlink := (SameWays.put_file free probeContent).link link
      exact (KeepsFiles.put_file free).trans (.erase_link hlink)

theorem refusesSome_keepsFiles (dir extension : Text) (names : List Text) (v : Volume) :
    v.KeepsFiles (refusesSome dir extension names v).2 := by
  induction names generalizing v with
  | nil => exact .refl v
  | cons name rest ih =>
      obtain ⟨next, htried, he⟩ := refusesSome_cons dir extension name rest v
      rw [he]
      cases next with
      | none => exact .refl v
      | some w => exact htried.keepsFiles.trans (ih w)

theorem refusesSome_ne_of_moved {dir extension : Text} {names : List Text} {p : Place}
    {target : Text} (hfree : v.node? place = none) (hlink : v.node? p = some (.link target)) :
    (refusesSome dir extension names ((v.put place (.file probeContent)).erase p)).2 ≠ v := by
  have hfile : ((v.put place (.file probeContent)).erase p).node? place =
      some (.file probeContent) := by
    rw [node?_erase (ne_root_of_link hlink), if_neg (ne_of_free_of_link hfree hlink).symm,
      node?_put_self (ne_root_of_node?_eq_none hfree)]
  intro he
  -- the file is where the link led, and later names take no file away
  have hstays := (refusesSome_keepsFiles dir extension names _).file hfile
  rw [he, hfree] at hstays
  cases hstays

theorem refusesSome_eq_self_iff (dir extension : Text) (names : List Text) (v : Volume) :
    (refusesSome dir extension names v).2 = v ↔
      ∀ probe ∈ (names.map fun name => Path.join dir (name ++ extension)).takeWhile v.accepts,
        ¬ v.LeadsToFree probe := by
  induction names with
  | nil => exact iff_of_true rfl (List.forall_mem_nil _)
  | cons name rest ih =>
      obtain ⟨next, htried, he⟩ := refusesSome_cons dir extension name rest v
      rw [he, List.map_cons, List.takeWhile_cons]
      cases htried with
      | refused refuses =>
          rw [if_neg (Bool.not_eq_true _ ▸ refuses)]
          exact iff_of_true rfl (List.forall_mem_nil _)
      | unchanged accepted harmless =>
          rw [if_pos accepted, List.forall_mem_cons, and_iff_right harmless]
          exact ih
      | moved accepted leads free link =>
          rw [if_pos accepted, List.forall_mem_cons]
          exact iff_of_false (refusesSome_ne_of_moved free link) fun h => h.1 leads

/-- The paths that the probe tries on a volume that it does not change: those of the device names
up to the first that is refused, and none if there is no directory to try them in. -/
def triedPaths (v : Volume) (path extension : Text) : List Text :=
  match v.nearestDirectory? path with
  | none => []
  | some dir =>
      (triedNames.map fun name => Path.join dir (name ++ extension)).takeWhile v.accepts

/-- The probe leaves a volume as it was just where no name that it tries is that of a link to a
place where a file can be created. In any case it keeps files and directories, and what it adds are
files of its own. -/
theorem rejectsReserved_unchanged_iff (path extension : Text) (v : Volume) :
    ((v.rejectsReserved path extension).2 = v ↔
      ∀ probe ∈ v.triedPaths path extension, ¬ v.LeadsToFree probe) ∧
    v.KeepsFiles (v.rejectsReserved path extension).2 := by
  unfold rejectsReserved triedPaths
  cases v.nearestDirectory? path with
  | none => exact ⟨iff_of_true rfl (List.forall_mem_nil _), .refl v⟩
  | some dir =>
      exact ⟨refusesSome_eq_self_iff dir extension triedNames v,
        refusesSome_keepsFiles dir extension triedNames v⟩

/-- A link that leads to nothing is removed, and a file is left where it led. -/
theorem rejectsReserved_creates_target :
    (rejectsReserved ['.'] ".smali".toList
        ⟨⟨[(Place.root.child "aux.smali".toList, .link "gone".toList)]⟩, .root⟩).2 =
      ⟨⟨[(Place.root.child "gone".toList, .file probeContent)]⟩, .root⟩ ∧
    (⟨⟨[(Place.root.child "gone".toList, .file probeContent)]⟩, .root⟩ : Volume) ≠
      ⟨⟨[(Place.root.child "aux.smali".toList, .link "gone".toList)]⟩, .root⟩ := by
  decide +kernel

end ClassLayout.Volume
