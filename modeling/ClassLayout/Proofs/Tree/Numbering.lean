import ClassLayout.Proofs.Directory.Entries
import ClassLayout.Proofs.Tree.Reachable

namespace ClassLayout

theorem Group.keepsPlain_members {σ : Type} (naming : Naming σ) (g : Group) (name : Text) (s : σ) :
    (g.keepsPlain naming name s).2.1.members = g.members := by
  rw [keepsPlain_snd]
  split
  · rfl
  · rfl

namespace Directory

variable {σ : Type} {naming : Naming σ} {rules : Rules} {allowed : CaseSensitivity → Prop}
  {d : Directory} {l : Listing} {id : EntryId} {g : Group} {s : σ}

def groupFor? (rules : Rules) (d : Directory) (id : EntryId) : Option Group :=
  match d.index.get? (fold (rules.plainName id)) with
  | none => none
  | some (.single e) => if e.id = id then none else some (.around e)
  | some (.group g) => if (g.members.get? id).isSome then none else some g

structure Numbered (rules : Rules) (d : Directory) (id : EntryId) (g : Group) (r : Reply σ)
    (n : Nat) : Prop where
  from_size : g.members.size + 1 ≤ n
  within_keys : n ≤ g.members.size + 1 + d.index.size
  free : ¬ d.index.contains (fold (rules.numberedName id n))
  least : ∀ m, g.members.size + 1 ≤ m → m < n →
    d.index.contains (fold (rules.numberedName id m))
  found : d.freeNumber? rules id (g.members.size + 1) = some n
  entry_eq : r.entry = ⟨id, rules.numberedName id n⟩
  ne_plainName : r.entry.name ≠ rules.plainName id
  folded_apart : ∀ e ∈ d.entries, fold e.name ≠ fold r.entry.name
  entered : r.directory.index.get? (fold r.entry.name) = some (.single r.entry)
  joined : ∃ verdict, r.directory.index.get? (fold (rules.plainName id)) =
    some (.group ⟨g.members.insert id r.entry, verdict⟩)
  others_kept : ∀ key, key ≠ fold (rules.plainName id) → key ≠ fold r.entry.name →
    r.directory.index.get? key = d.index.get? key

theorem groupFor?_spec (h : d.groupFor? naming.rules id = some g) (s : σ) :
    g.members.get? id = none ∧ d.index.contains (fold (naming.rules.plainName id)) ∧
      ∃ tally, d.entryFor naming id s =
        { d.joinGroup naming (fold (naming.rules.plainName id)) g id s with tally } := by
  unfold groupFor? at h
  cases hslot : d.index.get? (fold (naming.rules.plainName id)) with
  | none =>
      rw [hslot] at h
      cases h
  | some slot =>
      have hkey : d.index.contains (fold (naming.rules.plainName id)) := by
        rw [Table.contains, hslot]
        rfl
      rw [hslot] at h
      cases slot with
      | single e =>
          by_cases he : e.id = id
          · simp [he] at h
          · obtain rfl : Group.around e = g := by simpa [he] using h
            refine ⟨?_, hkey, _, entryFor_of_other hslot he⟩
            exact if_neg he
      | group g' =>
          by_cases hmem : (g'.members.get? id).isSome
          · simp [hmem] at h
          · obtain rfl : g' = g := by simpa [hmem] using h
            exact ⟨Option.not_isSome_iff_eq_none.1 hmem, hkey, _, entryFor_of_group hslot⟩

theorem Lists.numbered (h : d.Lists naming.rules allowed l) (hl : l.Sound naming.rules)
    (hg : d.groupFor? naming.rules id = some g)
    (hk : ¬ (g.keepsPlain naming (naming.rules.plainName id) s).1) :
    ∃ n, d.Numbered naming.rules id g (d.entryFor naming id s) n := by
  obtain ⟨hnew, hkey, tally, hreply⟩ := groupFor?_spec hg s
  have hfound := h.freeNumber?_eq hl id (g.members.size + 1)
  obtain ⟨hfree, hrange, hleast⟩ := List.find?_range'_eq_some.1 hfound
  rw [List.mem_range'_1] at hrange
  generalize Listing.leastFree naming.rules l id (g.members.size + 1) = n at *
  have hfree : ¬ d.index.contains (fold (naming.rules.numberedName id n)) := by simpa using hfree
  have hname : naming.rules.numberedName id n = d.numberedName naming.rules id
      ((g.keepsPlain naming (naming.rules.plainName id) s).2.1.members.size + 1) := by
    rw [Group.keepsPlain_members, numberedName, hfound]
  have hapart : fold (naming.rules.plainName id) ≠ fold (naming.rules.numberedName id n) := by
    intro heq
    exact hfree (heq ▸ hkey)
  rw [joinGroup_of_not_keepsPlain hnew hk _ hname] at hreply
  rw [hreply]
  refine ⟨n, hrange.1, by omega, hfree, ?_, hfound, rfl, ?_, ?_, ?_, ?_, ?_⟩
  · intro m hm hlt
    simpa using hleast m hm hlt
  · intro heq
    exact hapart (congrArg fold heq.symm)
  · intro e he heq
    rw [h.entries_eq, List.mem_toFinset] at he
    rw [h.contains_eq hl, decide_eq_true_iff] at hfree
    exact hfree ⟨e, he, heq⟩
  · dsimp only
    rw [Table.get?_insert, if_pos rfl]
  · refine ⟨(g.keepsPlain naming (naming.rules.plainName id) s).2.1.verdict, ?_⟩
    dsimp only
    rw [Table.get?_insert, if_neg hapart, Table.get?_insert, if_pos rfl, Group.withMember,
      Group.keepsPlain_members]
  · intro key hplain hnumbered
    dsimp only
    rw [Table.get?_insert, if_neg hnumbered, Table.get?_insert, if_neg hplain]

end Directory

namespace Tree

variable {σ : Type} {probe : Probe σ} {settings : Settings} {outputDir : Location} {t : Tree}

/-- In every tree that calls may lead to, a newcomer that cannot keep its plain name gets the least
number whose key is free, and one of the first numbers is, since different ones fold apart. -/
theorem Reachable.number_is_found (h : Reachable probe settings outputDir t) (p : Place)
    (path : Location) (id : EntryId) (s : σ) :
    (∀ n m, fold (t.rules.numberedName id n) = fold (t.rules.numberedName id m) → n = m) ∧
      ∀ g, (t.directory p).groupFor? t.rules id = some g →
        ¬ (g.keepsPlain (t.naming probe path) (t.rules.plainName id) s).1 →
        ∃ n, (t.directory p).Numbered t.rules id g
          ((t.directory p).entryFor (t.naming probe path) id s) n := by
  obtain ⟨c, hlists⟩ := h.consistent.lists
  refine ⟨fun _ _ => Rules.number_eq_of_fold_eq, ?_⟩
  intro g hg hk
  have hdirectory : (t.directory p).Lists (t.naming probe path).rules (fun _ => True) (c p) :=
    (hlists p).1
  exact hdirectory.numbered (hlists p).2 hg hk

/-- Least room, and an extension that a number runs into. The first candidate is the plain name of
another class. -/
theorem Reachable.number_is_found_after_collision :
    ∃ (t : Tree) (g : Group) (id : EntryId),
      Reachable (.fixed .insensitive true : Probe Unit) ⟨"7Σ".toList, 11, .insensitive, none⟩
        (.text ['o']) t ∧
      (t.directory .root).groupFor? t.rules id = some g ∧ g.members.size = 2 ∧
      ¬ (g.keepsPlain (t.naming (.fixed .insensitive true) (.text ['o']))
        (t.rules.plainName id) ()).1 ∧
      (t.directory .root).index.contains (fold (t.rules.numberedName id 3)) ∧
      (∀ n m, fold (t.rules.numberedName id n) = fold (t.rules.numberedName id m) → n = m) ∧
      ((t.directory .root).entryFor (t.naming (.fixed .insensitive true) (.text ['o']))
        id ()).entry.name = "aBc#kl.47Σ".toList ∧
      ∃ n, (t.directory .root).Numbered t.rules id g
        ((t.directory .root).entryFor (t.naming (.fixed .insensitive true) (.text ['o']))
          id ()) n := by
  have built : Reachable (.fixed .insensitive true : Probe Unit)
      ⟨"7Σ".toList, 11, .insensitive, none⟩ (.text ['o'])
      { outputDir := .text ['o'], settings := ⟨"7Σ".toList, 11, .insensitive, none⟩,
        escapes := true } := .built (s := ()) rfl
  have reachable := ((built.parsed "LABCDEFGHIJKL;".toList ()).parsed "Labcdefghijkl;".toList
    ()).parsed "LaBc#kl.3;".toList ()
  obtain ⟨hdistinct, hnumbered⟩ := reachable.number_is_found .root (.text ['o'])
    ⟨"aBcdefghijkl".toList, .classFile⟩ ()
  refine ⟨_, (Group.around ⟨⟨"ABCDEFGHIJKL".toList, .classFile⟩, "ABCD#JKL7Σ".toList⟩).withMember
    ⟨⟨"abcdefghijkl".toList, .classFile⟩, "abc#kl.27Σ".toList⟩, _, reachable, ?_, rfl, ?_, ?_,
    hdistinct, ?_, hnumbered _ ?_ ?_⟩
  all_goals decide +kernel

end Tree

end ClassLayout
