import ClassLayout.Proofs.Directory.Entries
import ClassLayout.Proofs.Tree.Reachable

namespace ClassLayout

def Slot.find? (slot : Slot) (id : EntryId) : Option Entry :=
  match slot with
  | .single e => if e.id = id then some e else none
  | .group g => g.members.get? id

structure Group.WellKept (g : Group) : Prop where
  keys_nodup : g.members.keys.Nodup
  several : 2 ≤ g.members.size
  id_eq : ∀ id e, g.members.get? id = some e → e.id = id

namespace Directory

def find? (d : Directory) (key : Text) (id : EntryId) : Option Entry :=
  (d.index.get? key).bind (·.find? id)

structure WellKept (rules : Rules) (d : Directory) : Prop where
  mem_keys_iff : ∀ key, key ∈ d.index.keys ↔ ∃ e ∈ d.entries, fold e.name = key
  fold_single : ∀ key e, d.index.get? key = some (.single e) → fold e.name = key
  /-- An entry is found under the key of its name and that of its plain name, and nowhere else. -/
  find?_iff : ∀ key e, d.find? key e.id = some e ↔
    e ∈ d.entries ∧ (fold e.name = key ∨ fold (rules.plainName e.id) = key)
  group : ∀ key g, d.index.get? key = some (.group g) → g.WellKept
  ids_apart : Set.InjOn Entry.id d.entries
  names_apart : Set.InjOn Entry.name d.entries

/-- A request changes no entry and adds at most the one that it is answered with. -/
structure Keeps {σ : Type} (rules : Rules) (d : Directory) (id : EntryId) (r : Reply σ) :
    Prop where
  wellKept : r.directory.WellKept rules
  id_eq : r.entry.id = id
  entries_eq : r.directory.entries = insert r.entry d.entries
  same : r.entry ∈ d.entries → r.directory = d ∧ r.tally = {}

open Listing

variable {σ : Type} {naming : Naming σ} {rules : Rules} {allowed : CaseSensitivity → Prop}
  {d : Directory} {l : Listing} {s : σ}

theorem Lists.find?_eq (h : d.Lists rules allowed l) (key : Text) (id : EntryId) :
    d.find? key id = (meeting rules l key).find? (·.id = id) := by
  have hkey := h key
  unfold find?
  generalize d.index.get? key = slot at hkey
  generalize meeting rules l key = m at hkey
  cases hkey with
  | vacant => rfl
  | single e => by_cases he : e.id = id <;> simp [Slot.find?, he]
  | group _ holds => exact holds.get?_eq id

theorem Lists.find?_eq_some_iff (h : d.Lists rules allowed l) (hl : l.Sound rules) (key : Text)
    (e : Entry) : d.find? key e.id = some e ↔
      e ∈ d.entries ∧ (fold e.name = key ∨ fold (rules.plainName e.id) = key) := by
  rw [h.find?_eq, h.entries_eq, List.mem_toFinset, ← mem_meeting]
  constructor
  · exact List.mem_of_find?_eq_some
  · intro he
    cases hfound : (meeting rules l key).find? (·.id = e.id) with
    | none => exact absurd (List.mem_map_of_mem he) (find?_id_eq_none.1 hfound)
    | some e' =>
        have hid : e'.id = e.id := by simpa using List.find?_some hfound
        have hmem := (mem_meeting.1 (List.mem_of_find?_eq_some hfound)).1
        rw [hl.eq_of_id_eq hmem (mem_meeting.1 he).1 hid]

theorem Lists.mem_keys_iff (h : d.Lists rules allowed l) (hl : l.Sound rules) (key : Text) :
    key ∈ d.index.keys ↔ ∃ e ∈ d.entries, fold e.name = key := by
  rw [← Table.contains_iff_mem_keys, h.contains_eq hl, decide_eq_true_iff, h.entries_eq]
  simp only [List.mem_toFinset]
  rfl

theorem Lists.fold_single (h : d.Lists rules allowed l) (hl : l.Sound rules) {key : Text}
    {e : Entry} (hslot : d.index.get? key = some (.single e)) : fold e.name = key := by
  have hkey := h key
  rw [hslot] at hkey
  have hmeets := hkey.eq_singleton
  -- somebody's name leads to the key, and nobody else is there
  obtain ⟨first, hmem, hname⟩ := (hl.takes_iff key).2 (by rw [hmeets]; exact List.cons_ne_nil _ _)
  have hfirst : first ∈ meeting rules l key := mem_meeting.2 ⟨hmem, .inl hname⟩
  rw [hmeets, List.mem_singleton] at hfirst
  rwa [hfirst] at hname

theorem Lists.group_wellKept (h : d.Lists rules allowed l) (hl : l.Sound rules) {key : Text}
    {g : Group} (hslot : d.index.get? key = some (.group g)) : g.WellKept := by
  have hkey := h key
  rw [hslot] at hkey
  obtain ⟨hseveral, holds⟩ := hkey.of_group
  refine ⟨?_, ?_, ?_⟩
  · have hids : g.members.keys = (meeting rules l key).map Entry.id := by
      rw [Table.keys, holds.members, List.map_map]
      rfl
    rw [hids]
    exact hl.ids_nodup.sublist (List.filter_sublist.map Entry.id)
  · rw [holds.size_eq]
    exact hseveral
  · intro id e he
    rw [holds.get?_eq] at he
    simpa using List.find?_some he

theorem Lists.wellKept (h : d.Lists rules allowed l) (hl : l.Sound rules) : d.WellKept rules where
  mem_keys_iff := h.mem_keys_iff hl
  fold_single := fun _ _ => h.fold_single hl
  find?_iff := h.find?_eq_some_iff hl
  group := fun _ _ => h.group_wellKept hl
  ids_apart := by
    intro e he e' he' hid
    rw [h.entries_eq, List.coe_toFinset] at he he'
    exact hl.eq_of_id_eq he he' hid
  names_apart := by
    intro e he e' he' hname
    rw [h.entries_eq, List.coe_toFinset] at he he'
    exact List.inj_on_of_nodup_map hl.names_nodup he he' hname

theorem Lists.keeps (h : d.Lists naming.rules allowed l) (hl : l.Sound naming.rules) (id : EntryId)
    (hs : naming.Decides allowed s) : d.Keeps naming.rules id (d.entryFor naming id s) := by
  obtain ⟨v, _, hentry, hdirectory⟩ := h.entryFor hl id hs
  have hid : (d.entryFor naming id s).entry.id = id := by
    rw [hentry, Listing.entryFor_id]
  refine ⟨hdirectory.wellKept (hl.entryFor v id), hid, ?_, ?_⟩
  · rw [hdirectory.entries_eq, h.entries_eq, hentry]
    ext e
    rw [List.mem_toFinset, mem_entryFor, Finset.mem_insert, List.mem_toFinset, or_comm]
  · intro he
    rw [h.entries_eq, List.mem_toFinset] at he
    have hsame := h.entryFor_of_mem hl he s
    rw [hid] at hsame
    rw [hsame]
    exact ⟨rfl, rfl⟩

end Directory

namespace Tree

variable {σ : Type} {probe : Probe σ} {settings : Settings} {outputDir : Location} {t : Tree}

/-- In every tree that calls may lead to, index and groups of a directory agree on what there is and
where it is found. A further request keeps it so, and makes at most the entry asked for. -/
theorem Reachable.directories_wellKept (h : Reachable probe settings outputDir t) (p : Place) :
    (t.directory p).WellKept t.rules ∧ ∀ (path : Location) (id : EntryId) (s : σ),
      (t.directory p).Keeps t.rules id
        ((t.directory p).entryFor (t.naming probe path) id s) := by
  obtain ⟨c, hlists⟩ := h.consistent.lists
  obtain ⟨hdirectory, hsound⟩ := hlists p
  refine ⟨hdirectory.wellKept hsound, ?_⟩
  intro path id s
  have hnamed : (t.directory p).Lists (t.naming probe path).rules (fun _ => True) (c p) :=
    hdirectory
  exact hnamed.keeps hsound id (decides_any (t.naming probe path) s)

/-- The class `foo` gets a number and meets the class `foo.2` at the key of its numbered name: it is
a member of two groups there. -/
theorem Reachable.directories_wellKept_second_group :
    ∃ t : Tree, Reachable (.scripted true) {} (.text ['o']) t ∧
      (t.directory .root).index.keys =
        ["foo.smali".toList, "foo.2.smali".toList, "foo.2.2.smali".toList] ∧
      (t.directory .root).find? "foo.smali".toList ⟨"foo".toList, .classFile⟩ =
        some ⟨⟨"foo".toList, .classFile⟩, "foo.2.smali".toList⟩ ∧
      (t.directory .root).find? "foo.2.smali".toList ⟨"foo".toList, .classFile⟩ =
        some ⟨⟨"foo".toList, .classFile⟩, "foo.2.smali".toList⟩ ∧
      t.stats.virtualGroups = 2 ∧ (t.directory .root).WellKept t.rules ∧
      ∀ (path : Location) (id : EntryId) (s : List CaseSensitivity),
        (t.directory .root).Keeps t.rules id
          ((t.directory .root).entryFor (t.naming (.scripted true) path) id s) := by
  have built : Reachable (.scripted true) {} (.text ['o'])
      { outputDir := .text ['o'], settings := {}, escapes := true } :=
    .built (s := [.unknown]) rfl
  have reachable := ((built.parsed "LFoo;".toList [.unknown]).parsed "Lfoo;".toList
    [.insensitive]).parsed "Lfoo.2;".toList [.unknown]
  refine ⟨_, reachable, ?_, ?_, ?_, ?_, reachable.directories_wellKept .root⟩
  all_goals decide +kernel

end Tree

end ClassLayout
