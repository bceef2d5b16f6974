import ClassLayout.Proofs.Path.Ancestors
import ClassLayout.Proofs.Volume.CaseVerdict

namespace ClassLayout.Volume

def orHere (ancestor : Text) : Text := if ancestor.isEmpty then ['.'] else ancestor

/-- A spelling of the root that is too long to be followed. It has nothing above it. -/
def LongRoot (path : Text) : Prop := Path.SpellsRoot path ∧ longestPath < path.bytes

instance (path : Text) : Decidable (LongRoot path) := inferInstanceAs (Decidable (_ ∧ _))

structure IsClosest (v : Volume) (path a : Text) : Prop where
  mem : a ∈ Path.ancestors path
  isDirectory : v.isDirectory (orHere a) = true
  longest : ∀ b ∈ Path.ancestors path, a.length < b.length → v.isDirectory (orHere b) = false

structure Grows (v w : Volume) : Prop where
  workingDir_eq : w.workingDir = v.workingDir
  keeps : ∀ place n, v.node? place = some n → w.node? place = some n

/-- The directory `d` is the nearest one above a path, and the one that both probes go to. -/
structure Finds (v : Volume) (path d : Text) : Prop where
  closest : ∃ a, d = orHere a ∧ v.IsClosest path a ∧ ∀ w, v.Grows w →
    ∃ a', w.nearestDirectory? path = some (orHere a') ∧ w.IsClosest path a' ∧ a.length ≤ a'.length
  again : v.nearestDirectory? d = some d
  reserved : ∀ extension, v.rejectsReserved path extension = v.refusesSome d extension triedNames
  case : ∃ n, v.freeProbe? d = some n ∧ (v.caseSensitivity path).1 =
    if (v.tryCase (lowerProbe d n) (upperProbe d n)).1 then .sensitive else .insensitive

variable {v w : Volume} {links : Nat} {place last : Place} {path d a : Text}
  {pieces rest : List Text}

theorem orHere_of_ne_nil (h : a ≠ []) : orHere a = a := by
  cases a with
  | nil => exact absurd rfl h
  | cons c rest => rfl

theorem nearestDirectory?_eq (v : Volume) (path : Text) : v.nearestDirectory? path =
    ((Path.ancestors path).find? fun a => v.isDirectory (orHere a)).map orHere :=
  List.find?_map

theorem nearestDirectory?_iff_isClosest : v.nearestDirectory? path = some d ↔
    ∃ a, d = orHere a ∧ v.IsClosest path a := by
  rw [nearestDirectory?_eq, Option.map_eq_some_iff]
  refine exists_congr fun a => ?_
  rw [Path.find?_ancestors_eq_some_iff, and_comm, eq_comm]
  exact and_congr_right fun _ => ⟨fun h => ⟨h.1, h.2.1, h.2.2⟩,
    fun h => ⟨h.mem, h.isDirectory, h.longest⟩⟩

theorem nearestDirectory?_eq_none_iff : v.nearestDirectory? path = none ↔
    ∀ a ∈ Path.ancestors path, v.isDirectory (orHere a) = false := by
  simp [nearestDirectory?_eq]

theorem isDirectory_iff : v.isDirectory path = true ↔
    ∃ place, v.locate .inspect path = .ok place ∧ v.node? place = some .directory := by
  refine ⟨exists_place_of_isDirectory, fun h => ?_⟩
  rw [isDirectory, inspect_eq_ok_iff.2 h]

theorem isDirectory_nil (v : Volume) : v.isDirectory [] = false := rfl

theorem leads_of_allBlank (hplace : v.node? place = some .directory)
    (h : Path.AllBlank pieces) (goal : Goal) : v.Leads goal links place pieces place := by
  induction pieces with
  | nil => exact .here
  | cons piece rest ih =>
      obtain ⟨hblank, hrest⟩ := List.forall_mem_cons.1 h
      exact .blank hplace hblank (ih hrest)

theorem isDirectory_here (h : v.node? v.workingDir = some .directory) :
    v.isDirectory ['.'] = true :=
  isDirectory_iff.2 ⟨v.workingDir,
    locate_eq_ok_iff.2 ⟨by decide, leads_of_allBlank h (by decide) .inspect⟩, h⟩

theorem not_nul_mem_of_spellsRoot (h : Path.SpellsRoot path) : '\x00' ∉ path := by
  intro hnul
  rw [← Text.joined_pieces '/' path] at hnul
  rcases Text.mem_of_mem_joined hnul with hsep | ⟨piece, hmem, hnul⟩
  · exact absurd hsep (by decide)
  · have hblank := h.2 piece hmem
    rw [Path.isBlank, Bool.or_eq_true, List.isEmpty_iff, beq_iff_eq] at hblank
    rcases hblank with rfl | rfl
    · cases hnul
    · exact absurd hnul (by decide)

theorem isDirectory_of_spellsRoot (h : Path.SpellsRoot path) :
    v.isDirectory path = true ↔ path.bytes ≤ longestPath := by
  have hne : path ≠ [] := by
    rintro rfl
    cases h.1
  have hflaw : flaw? path = none ↔ path.bytes ≤ longestPath := by
    rw [flaw?, if_neg (not_nul_mem_of_spellsRoot h), if_neg hne]
    simp
  rw [← hflaw, isDirectory_iff]
  constructor
  · rintro ⟨place, hlocate, _⟩
    exact (locate_eq_ok_iff.1 hlocate).1
  · intro hnone
    refine ⟨.root, locate_eq_ok_iff.2 ⟨hnone, ?_⟩, rfl⟩
    rw [start, if_pos h.1]
    exact leads_of_allBlank rfl h.2 .inspect

theorem nearestDirectory?_eq_none_iff_long (h : v.node? v.workingDir = some .directory) :
    v.nearestDirectory? path = none ↔ LongRoot path := by
  rw [nearestDirectory?_eq_none_iff]
  constructor
  · intro hnone
    obtain ⟨a, ha, hend⟩ := Path.exists_top path
    have hfails := hnone a ha
    rcases hend with rfl | rfl | ⟨rfl, hroot⟩
    · rw [show orHere [] = ['.'] from rfl, isDirectory_here h] at hfails
      cases hfails
    · have hroot : v.isDirectory ['/'] = true :=
        (isDirectory_of_spellsRoot (by decide)).2 (by decide)
      rw [show orHere ['/'] = ['/'] from rfl, hroot] at hfails
      cases hfails
    · refine ⟨hroot, Nat.not_le.1 fun hshort => ?_⟩
      rw [orHere_of_ne_nil (by rintro rfl; cases hroot.1),
        (isDirectory_of_spellsRoot hroot).2 hshort] at hfails
      cases hfails
  · rintro ⟨hroot, hlong⟩ a ha
    have htop := Path.ancestors_of_top (Path.parent?_eq_none_iff.2 (.inr hroot))
    rw [htop, List.mem_singleton] at ha
    rw [ha, orHere_of_ne_nil (by rintro rfl; cases hroot.1), ← Bool.not_eq_true,
      isDirectory_of_spellsRoot hroot]
    exact Nat.not_le.2 hlong

theorem nearestDirectory?_of_isDirectory (h : v.isDirectory d = true) :
    v.nearestDirectory? d = some d := by
  have hne : d ≠ [] := by
    rintro rfl
    rw [isDirectory_nil] at h
    cases h
  refine nearestDirectory?_iff_isClosest.2 ⟨d, (orHere_of_ne_nil hne).symm,
    Path.mem_ancestors_self d, ?_, ?_⟩
  · rwa [orHere_of_ne_nil hne]
  · intro b hb hlonger
    exact absurd (Path.length_le_of_mem_ancestors hb) (Nat.not_le.2 hlonger)

namespace Grows

theorem put (h : v.node? place = none) (n : Node) : v.Grows (v.put place n) := by
  refine ⟨rfl, fun p m hm => ?_⟩
  rw [node?_put_of_ne (ne_root_of_node?_eq_none h) n]
  · exact hm
  · rintro rfl
    rw [h] at hm
    cases hm

theorem create {made : Text} {n : Node} (h : v.create made n = .ok w) : v.Grows w := by
  obtain ⟨p, _, hfree, rfl⟩ := create_eq_ok_iff.1 h
  exact .put hfree n

theorem descends {piece : Text} (h : v.Grows w) (hv : v.Descends .inspect place piece rest) :
    w.Descends .inspect place piece rest :=
  ⟨h.keeps _ _ hv.directory, hv.named, hv.notUp, hv.allowed, hv.short⟩

theorem leads {n : Node} (h : v.Grows w) (hv : v.Leads .inspect links place pieces last)
    (hlast : v.node? last = some n) : w.Leads .inspect links place pieces last := by
  induction hv with
  | here => exact .here
  | blank directory blank _ ih => exact .blank (h.keeps _ _ directory) blank (ih hlast)
  | up directory _ ih => exact .up (h.keeps _ _ directory) (ih hlast)
  | free _ free =>
      rw [free] at hlast
      cases hlast
  | down descends there noLink _ ih =>
      exact .down (h.descends descends) (h.keeps _ _ there) noLink (ih hlast)
  | link _ _ stays => cases stays
  | jump descends link spelled follows _ ih =>
      exact .jump (h.descends descends) (h.keeps _ _ link) spelled follows (ih hlast)

theorem isDirectory (h : v.Grows w) (hv : v.isDirectory path = true) :
    w.isDirectory path = true := by
  obtain ⟨place, hlocate, hplace⟩ := isDirectory_iff.1 hv
  obtain ⟨hflaw, hleads⟩ := locate_eq_ok_iff.1 hlocate
  refine isDirectory_iff.2 ⟨place, locate_eq_ok_iff.2 ⟨hflaw, ?_⟩, h.keeps _ _ hplace⟩
  rw [h.workingDir_eq]
  exact h.leads hleads hplace

theorem exists_closest (h : v.Grows w) (ha : v.IsClosest path a) :
    ∃ a', w.nearestDirectory? path = some (orHere a') ∧ w.IsClosest path a' ∧
      a.length ≤ a'.length := by
  have hdirectory := h.isDirectory ha.isDirectory
  cases hfound : w.nearestDirectory? path with
  | none =>
      rw [nearestDirectory?_eq_none_iff.1 hfound a ha.mem] at hdirectory
      cases hdirectory
  | some d =>
      obtain ⟨a', rfl, ha'⟩ := nearestDirectory?_iff_isClosest.1 hfound
      refine ⟨a', rfl, ha', Nat.not_lt.1 fun hshorter => ?_⟩
      rw [ha'.longest a ha.mem hshorter] at hdirectory
      cases hdirectory

end Grows

theorem rejectsReserved_of_nearestDirectory? (h : v.nearestDirectory? path = some d)
    (extension : Text) :
    v.rejectsReserved path extension = v.refusesSome d extension triedNames := by
  rw [rejectsReserved, h]

theorem finds_of_nearestDirectory? (h : v.nearestDirectory? path = some d) : v.Finds path d := by
  obtain ⟨a, rfl, ha⟩ := nearestDirectory?_iff_isClosest.1 h
  obtain ⟨_, n, _, _, hfree, _⟩ := (nearestDirectory?_eq_some_iff.1 h).caseSensitivity
  exact ⟨⟨a, rfl, ha, fun w hw => hw.exists_closest ha⟩,
    nearestDirectory?_of_isDirectory ha.isDirectory, rejectsReserved_of_nearestDirectory? h,
    n, hfree, caseSensitivity_of_freeProbe? h hfree⟩

theorem probes_of_nearestDirectory?_eq_none (h : v.nearestDirectory? path = none) :
    v.caseSensitivity path = (.insensitive, v) ∧
      ∀ extension, v.rejectsReserved path extension = (true, v) := by
  refine ⟨?_, fun extension => ?_⟩
  · rw [caseSensitivity, h]
  · rw [rejectsReserved, h]

/-- Where there is a working directory, every path has a nearest directory, which is the longest
ancestor that is one, except the root when its spelling is too long. The probes go to it. -/
theorem nearestDirectory?_found (h : v.node? v.workingDir = some .directory) (path : Text) :
    (¬ LongRoot path → ∃ d, v.nearestDirectory? path = some d ∧ v.Finds path d) ∧
      (LongRoot path → v.nearestDirectory? path = none ∧
        v.caseSensitivity path = (.insensitive, v) ∧
        ∀ extension, v.rejectsReserved path extension = (true, v)) := by
  constructor
  · intro hshort
    obtain ⟨d, hfound⟩ := Option.ne_none_iff_exists'.1
      (mt (nearestDirectory?_eq_none_iff_long h).1 hshort)
    exact ⟨d, hfound, finds_of_nearestDirectory? hfound⟩
  · intro hlong
    have hnone := (nearestDirectory?_eq_none_iff_long h).2 hlong
    exact ⟨hnone, probes_of_nearestDirectory?_eq_none hnone⟩

def linkedDirectory : Volume :=
  ⟨⟨[(Place.root.child ['a'], .directory), (Place.root.child ['l'], .link ['a'])]⟩, .root⟩

theorem nearestDirectory?_found_past_link :
    linkedDirectory.node? linkedDirectory.workingDir = some .directory ∧
      ¬ LongRoot "l/./n//x\x00".toList ∧
      linkedDirectory.nearestDirectory? "l/./n//x\x00".toList = some ['l'] ∧
      linkedDirectory.Finds "l/./n//x\x00".toList ['l'] ∧
      ∃ w, linkedDirectory.create "a/n".toList .directory = .ok w ∧ linkedDirectory.Grows w ∧
        w.nearestDirectory? "l/./n//x\x00".toList = some "l/./n".toList := by
  have hnearest : linkedDirectory.nearestDirectory? "l/./n//x\x00".toList = some ['l'] := by
    decide +kernel
  have hcreate : linkedDirectory.create "a/n".toList .directory =
      .ok (linkedDirectory.put ((Place.root.child ['a']).child ['n']) .directory) := by rfl
  have hshort : ¬ LongRoot "l/./n//x\x00".toList := by decide
  obtain ⟨d, hfound, hfinds⟩ := (nearestDirectory?_found (v := linkedDirectory) rfl _).1 hshort
  obtain rfl : ['l'] = d := Option.some.inj (hnearest.symm.trans hfound)
  exact ⟨rfl, hshort, hnearest, hfinds, _, hcreate, .create hcreate, by decide +kernel⟩

theorem spellsRoot_replicate (n : Nat) : Path.SpellsRoot (List.replicate (n + 1) '/') := by
  refine ⟨rfl, fun piece hpiece => ?_⟩
  rw [Text.pieces_replicate] at hpiece
  rw [List.eq_of_mem_replicate hpiece]
  rfl

/-- The root, spelled with one separator more than a path may have. -/
theorem nearestDirectory?_of_long_root :
    ({} : Volume).node? ({} : Volume).workingDir = some .directory ∧
      Path.ancestors (List.replicate 4096 '/') = [List.replicate 4096 '/'] ∧
      ({} : Volume).nearestDirectory? (List.replicate 4096 '/') = none ∧
      ({} : Volume).caseSensitivity (List.replicate 4096 '/') = (.insensitive, {}) ∧
      ({} : Volume).rejectsReserved (List.replicate 4096 '/') [] = (true, {}) := by
  have hroot := spellsRoot_replicate 4095
  have hlong : longestPath < Text.bytes (List.replicate 4096 '/') := by
    rw [Text.bytes_replicate]
    decide
  have hnone := (nearestDirectory?_eq_none_iff_long (v := {}) rfl).2 ⟨hroot, hlong⟩
  obtain ⟨hcase, hreserved⟩ := probes_of_nearestDirectory?_eq_none hnone
  exact ⟨rfl, Path.ancestors_of_top (Path.parent?_eq_none_iff.2 (.inr hroot)), hnone, hcase,
    hreserved []⟩

end ClassLayout.Volume
