import ClassLayout.Proofs.Config
import ClassLayout.Proofs.Volume.Changes
import ClassLayout.Volume.Document

namespace ClassLayout

namespace Volume

variable {v w : Volume} {place : Place} {path : Text} {content : List UInt8}

/-- One file is new or has new content, and nothing else is different. -/
structure Rewrites (v w : Volume) (place : Place) (content : List UInt8) : Prop where
  workingDir_eq : w.workingDir = v.workingDir
  before : v.node? place = none ∨ ∃ old, v.node? place = some (.file old)
  after : w.node? place = some (.file content)
  elsewhere : ∀ p, p ≠ place → w.node? p = v.node? p

theorem read_of_locate (hlocate : v.locate .inspect path = .ok place)
    (hnode : v.node? place = some (.file content)) : v.read path = .ok content := by
  rw [read, inspect_eq_ok_iff.2 ⟨place, hlocate, hnode⟩]
  rfl

theorem rewrites_of_write (h : v.write path content = .ok w) :
    ∃ place, v.locate .write path = .ok place ∧ w.locate .inspect path = .ok place ∧
      v.Rewrites w place content := by
  obtain ⟨place, hlocate, hbefore, rfl⟩ := write_eq_ok_iff.1 h
  have hway : v.way? place = none := way?_eq_none_iff.2 hbefore
  have hroot := ne_root_of_way?_eq_none hway
  have hinspect := (SameWays.put_content hway content).locate (locate_inspect_of_write hlocate)
  exact ⟨place, hlocate, hinspect, rfl, hbefore, node?_put_self hroot _,
    fun _ hp => node?_put_of_ne hroot _ hp⟩

theorem load_of_read {t : Text} (h : v.read path = .ok (Text.encode t)) :
    v.load path = match Config.parse? t with
      | none => .error .json
      | some c => .ok c := by
  cases hparse : Config.parse? t with
  | none => simp only [load, h, Text.decode?_encode, hparse]
  | some c => simp only [load, h, Text.decode?_encode, hparse]

end Volume

namespace Config

theorem exists_print?_iff {c : Config} :
    (∃ t, c.print? = some t) ↔ ∃ dir, c.outputDir = .text dir := by
  obtain ⟨dir, settings⟩ := c
  cases dir with
  | text dir => exact iff_of_true ⟨_, rfl⟩ ⟨dir, rfl⟩
  | bytes name undecodable => exact iff_of_false nofun nofun

theorem parse?_of_print? {c : Config} {t : Text} (hprint : c.print? = some t)
    (hbytes : c.settings.maxComponentBytes < UInt64.size) : parse? t = some c := by
  obtain ⟨dir, hdir⟩ := exists_print?_iff.1 ⟨t, hprint⟩
  obtain ⟨_, settings⟩ := c
  subst hdir
  obtain ⟨r, hrecord, hread⟩ := exists_toRecord? dir hbytes
  rw [print?, hrecord, Option.map_some, Option.some.injEq] at hprint
  rw [parse?, ← hprint, r.parse_pretty, Option.bind_some, hread]

theorem save_cases (c : Config) (path : Text) (v : Volume) :
    (∃ e, c.save path v = (.error e, v)) ∨
    ∃ t w, c.print? = some t ∧ v.write path (Text.encode t) = .ok w ∧
      c.save path v = (.ok (), w) := by
  unfold save
  cases c.print? with
  | none => exact .inl ⟨_, rfl⟩
  | some t =>
      dsimp only
      cases hwrite : v.write path (Text.encode t) with
      | error fault => exact .inl ⟨_, rfl⟩
      | ok w => exact .inr ⟨t, w, rfl, hwrite, rfl⟩

/-- Saving fails and changes nothing, or else changes the one file that the path leads to, from
where the settings are loaded again. -/
theorem save_all_or_nothing (c : Config) (path : Text) (v : Volume)
    (hbytes : c.settings.maxComponentBytes < UInt64.size) :
    (∀ e, (c.save path v).1 = .error e → (c.save path v).2 = v) ∧
    ((c.save path v).1 = .ok () → ∃ place t, c.print? = some t ∧
      v.locate .write path = .ok place ∧ (c.save path v).2.locate .inspect path = .ok place ∧
      v.Rewrites (c.save path v).2 place (Text.encode t) ∧
      (c.save path v).2.load path = .ok c) ∧
    ((c.save path v).1 = .ok () ↔ (∃ dir, c.outputDir = .text dir) ∧
      ∃ place, v.locate .write path = .ok place ∧
        (v.node? place = none ∨ ∃ old, v.node? place = some (.file old))) := by
  refine ⟨?_, ?_, ?_⟩
  · intro e he
    rcases c.save_cases path v with ⟨_, hsave⟩ | ⟨t, w, _, _, hsave⟩
    · rw [hsave]
    · rw [hsave] at he
      cases he
  · intro hok
    rcases c.save_cases path v with ⟨_, hsave⟩ | ⟨t, w, hprint, hwrite, hsave⟩
    · rw [hsave] at hok
      cases hok
    · obtain ⟨place, hlocate, hinspect, hrewrites⟩ := Volume.rewrites_of_write hwrite
      have hread := Volume.read_of_locate hinspect hrewrites.after
      rw [hsave]
      refine ⟨place, t, hprint, hlocate, hinspect, hrewrites, ?_⟩
      rw [Volume.load_of_read hread, parse?_of_print? hprint hbytes]
  · rw [← exists_print?_iff]
    constructor
    · intro hok
      rcases c.save_cases path v with ⟨_, hsave⟩ | ⟨t, w, hprint, hwrite, _⟩
      · rw [hsave] at hok
        cases hok
      · obtain ⟨place, hlocate, hbefore, _⟩ := Volume.write_eq_ok_iff.1 hwrite
        exact ⟨⟨t, hprint⟩, place, hlocate, hbefore⟩
    · rintro ⟨⟨t, hprint⟩, place, hlocate, hbefore⟩
      have hwrite : v.write path (Text.encode t) = .ok (v.put place (.file (Text.encode t))) :=
        Volume.write_eq_ok_iff.2 ⟨place, hlocate, hbefore, rfl⟩
      rw [save, hprint]
      dsimp only
      rw [hwrite]

theorem save_all_or_nothing_through_link :
    ∃ (c : Config) (v : Volume), c.outputDir = .text ['"', 'é'] ∧
      v = ⟨⟨[(Place.root.child ['d'], .directory),
        (Place.root.child ['l'], .link ['.', '/', 'd', '/', 'n'])]⟩, .root⟩ ∧
      c.settings.maxComponentBytes < UInt64.size ∧
      ((c.save ['d'] v).1 = .error (.io .isDirectory) ∧ (c.save ['d'] v).2 = v) ∧
      (c.save ['l'] v).1 = .ok () ∧
      ∃ place t, c.print? = some t ∧ v.locate .write ['l'] = .ok place ∧
        (c.save ['l'] v).2.locate .inspect ['l'] = .ok place ∧
        v.Rewrites (c.save ['l'] v).2 place (Text.encode t) ∧
        (c.save ['l'] v).2.load ['l'] = .ok c := by
  have hbytes : ({} : Settings).maxComponentBytes < UInt64.size := by decide
  refine ⟨⟨_, {}⟩, _, rfl, rfl, hbytes, ⟨rfl, ?_⟩, ?_⟩
  · exact (save_all_or_nothing _ _ _ hbytes).1 (.io .isDirectory) rfl
  · obtain ⟨_, hfound, hok⟩ := save_all_or_nothing ⟨.text ['"', 'é'], {}⟩ ['l']
      ⟨⟨[(Place.root.child ['d'], .directory),
        (Place.root.child ['l'], .link ['.', '/', 'd', '/', 'n'])]⟩, .root⟩ hbytes
    have hsaved := hok.2 ⟨⟨_, rfl⟩, (Place.root.child ['d']).child ['n'], rfl, .inl rfl⟩
    exact ⟨hsaved, hfound hsaved⟩

end Config

end ClassLayout
