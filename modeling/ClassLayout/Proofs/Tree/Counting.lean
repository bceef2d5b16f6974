import ClassLayout.Proofs.Directory.Tally
import ClassLayout.Proofs.Tree.Embedding
import ClassLayout.Proofs.Tree.Requests
import ClassLayout.Proofs.Tree.Visits

namespace ClassLayout

namespace Tree

/-- What the directories of a tree hold, each thing with the place of its directory. -/
def gather {α : Type} [DecidableEq α] (t : Tree) (f : Directory → Finset α) :
    Finset (Place × α) :=
  t.directories.keys.toFinset.biUnion fun p => (f (t.directory p)).image (Prod.mk p)

def entries (t : Tree) : Finset (Place × Entry) := t.gather Directory.entries

def sharedKeys (t : Tree) : Finset (Place × Text) := t.gather (Directory.sharedKeys t.rules)

structure Tallied (t : Tree) : Prop where
  packages_eq : t.stats.packages = (t.entries.filter (·.2.id.kind = .package)).card
  classes_eq : t.stats.classes = (t.entries.filter (·.2.id.kind = .classFile)).card
  virtualGroups_eq : t.stats.virtualGroups = t.sharedKeys.card
  disambiguated_eq : t.stats.disambiguated =
    (t.entries.filter fun x => x.2.name ≠ t.rules.plainName x.2.id).card

variable {σ : Type} {probe : Probe σ} {t₀ t : Tree} {s₀ s : σ} {c : Catalogue}
  {allowed : CaseSensitivity → Prop} {p : Place} {id : EntryId} {name : Text} {d : Directory}

theorem mem_gather {α : Type} [DecidableEq α] {f : Directory → Finset α} (hf : f {} = ∅)
    {x : Place × α} : x ∈ t.gather f ↔ x.2 ∈ f (t.directory x.1) := by
  rw [gather, Finset.mem_biUnion]
  constructor
  · rintro ⟨p, _, hx⟩
    obtain ⟨a, ha, rfl⟩ := Finset.mem_image.1 hx
    exact ha
  · intro hx
    refine ⟨x.1, ?_, Finset.mem_image.2 ⟨x.2, hx, rfl⟩⟩
    rw [List.mem_toFinset, ← Table.contains_iff_mem_keys, Table.contains]
    cases hd : t.directories.get? x.1 with
    | some d => rfl
    | none =>
        rw [directory_of_get?_eq_none hd, hf] at hx
        exact absurd hx (Finset.notMem_empty _)

theorem mem_entries {x : Place × Entry} : x ∈ t.entries ↔ x.2 ∈ (t.directory x.1).entries :=
  mem_gather rfl

theorem mem_sharedKeys {x : Place × Text} :
    x ∈ t.sharedKeys ↔ x.2 ∈ (t.directory x.1).sharedKeys t.rules :=
  mem_gather rfl

theorem Lists.mem_entries (h : t.Lists allowed c) {x : Place × Entry} :
    x ∈ t.entries ↔ x.2 ∈ c x.1 := by
  rw [Tree.mem_entries, (h x.1).1.entries_eq, List.mem_toFinset]

theorem Lists.mem_sharedKeys (h : t.Lists allowed c) {x : Place × Text} :
    x ∈ t.sharedKeys ↔ 2 ≤ (Listing.meeting t.rules (c x.1) x.2).length := by
  rw [Tree.mem_sharedKeys, Directory.mem_sharedKeys, (h x.1).1.card_entriesMeeting (h x.1).2]

theorem Lists.entries_concat {t' : Tree} (h : t.Lists allowed c)
    (h' : t'.Lists allowed (Function.update c p (c p ++ [⟨id, name⟩]))) :
    t'.entries = insert (p, ⟨id, name⟩) t.entries := by
  ext ⟨q, e⟩
  rw [h'.mem_entries, Finset.mem_insert, h.mem_entries, Prod.mk.injEq]
  by_cases hq : q = p
  · subst q
    simp [or_comm]
  · simp [hq]

theorem Lists.sharedKeys_concat {t' : Tree} (h : t.Lists allowed c)
    (h' : t'.Lists allowed (Function.update c p (c p ++ [⟨id, name⟩])))
    (hrules : t'.rules = t.rules)
    (hname : name = t.rules.plainName id ∨ ¬ Listing.Takes (c p) (fold name)) :
    t'.sharedKeys =
      if (Listing.meeting t.rules (c p) (fold (t.rules.plainName id))).length = 1 then
        insert (p, fold (t.rules.plainName id)) t.sharedKeys
      else t.sharedKeys := by
  have hkey := (h p).2.two_le_meeting_concat hname
  ext ⟨q, key⟩
  rw [h'.mem_sharedKeys, hrules]
  by_cases hq : q = p
  · subst q
    rw [Function.update_self, hkey]
    split
    · rename_i hone
      rw [Finset.mem_insert, h.mem_sharedKeys, Prod.mk.injEq, or_comm]
      apply or_congr_left
      constructor
      · exact fun hk => ⟨rfl, hk.1⟩
      · rintro ⟨_, rfl⟩
        exact ⟨rfl, hone⟩
    · rename_i hmore
      rw [h.mem_sharedKeys, or_iff_left]
      rintro ⟨rfl, hone⟩
      exact hmore hone
  · rw [Function.update_of_ne hq]
    split
    · rw [Finset.mem_insert, h.mem_sharedKeys, or_iff_right]
      intro he
      exact hq (Prod.mk.inj he).1
    · rw [h.mem_sharedKeys]

theorem rules_withDirectory (t : Tree) (p : Place) (d : Directory) (tally : Stats) :
    (t.withDirectory p d tally).rules = t.rules := rfl

theorem stats_withDirectory (t : Tree) (p : Place) (d : Directory) (tally : Stats) :
    (t.withDirectory p d tally).stats = t.stats + tally := rfl

theorem card_filter_insert {α : Type} [DecidableEq α] {x : α} {xs : Finset α} (h : x ∉ xs)
    (P : α → Prop) [DecidablePred P] :
    ((insert x xs).filter P).card = (xs.filter P).card + if P x then 1 else 0 := by
  rw [Finset.filter_insert]
  split
  · exact Finset.card_insert_of_notMem fun hx => h (Finset.mem_filter.1 hx).1
  · rfl

theorem Tallied.concat (h : t.Tallied) (hlists : t.Lists allowed c) (hid : id ∉ (c p).map Entry.id)
    (hname : name = t.rules.plainName id ∨ ¬ Listing.Takes (c p) (fold name))
    (hnext : (t.withDirectory p d (Listing.tally t.rules (c p) id name)).Lists allowed
      (Function.update c p (c p ++ [⟨id, name⟩]))) :
    (t.withDirectory p d (Listing.tally t.rules (c p) id name)).Tallied := by
  have hentries := hlists.entries_concat hnext
  have hshared := hlists.sharedKeys_concat hnext rfl hname
  have hnew : (p, (⟨id, name⟩ : Entry)) ∉ t.entries := by
    rw [hlists.mem_entries]
    exact fun hm => hid (List.mem_map_of_mem hm)
  constructor
  · rw [hentries, card_filter_insert hnew, ← h.packages_eq, stats_withDirectory,
      Stats.packages_add, Listing.tally_eq]
  · rw [hentries, card_filter_insert hnew, ← h.classes_eq, stats_withDirectory,
      Stats.classes_add, Listing.tally_eq]
  · rw [hshared, stats_withDirectory, Stats.virtualGroups_add, Listing.tally_eq,
      h.virtualGroups_eq]
    dsimp only
    split
    · rename_i hone
      rw [Finset.card_insert_of_notMem]
      rw [hlists.mem_sharedKeys, hone]
      omega
    · rfl
  · rw [hentries, rules_withDirectory, card_filter_insert hnew, ← h.disambiguated_eq,
      stats_withDirectory, Stats.disambiguated_add, Listing.tally_eq]

theorem Tallied.request (h : t.Tallied) (harrives : Arrives probe t₀ s₀ t s c) (p : Place)
    (path : Location) (id : EntryId) {r : Reply σ}
    (hr : (t.directory p).entryFor (t.naming probe path) id s = r) :
    (t.withDirectory p r.directory r.tally).Tallied := by
  have hlists := harrives.lists
  have hp : (t.directory p).Lists (t.naming probe path).rules _ (c p) := (hlists p).1
  by_cases hid : id ∈ (c p).map Entry.id
  · obtain ⟨e, he, rfl⟩ := List.mem_map.1 hid
    rw [hp.entryFor_of_mem (hlists p).2 he] at hr
    subst hr
    rwa [hlists.withDirectory_self he]
  · obtain ⟨v, _, hentry, hnext⟩ := harrives.request p path id hr
    have htally := hp.tally_entryFor (hlists p).2 hid s
    rw [hr, hentry] at htally
    rw [Listing.entryFor_of_not_mem hid] at htally hnext
    rw [htally]
    have hlater := hnext.lists
    rw [htally] at hlater
    refine h.concat hlists hid ?_ hlater
    rcases Listing.nameFor_cases t.rules v (c p) id with ⟨hplain, _⟩ | ⟨_, _, hfree⟩
    · exact .inl hplain
    · exact .inr hfree

theorem Requested.tallied (h : Requested probe t₀ s₀ t s) (h₀ : t₀.Tallied) {c₀ : Catalogue}
    (hc : t₀.Lists (t₀.settings.MayDecide probe s₀) c₀) : t.Tallied := by
  induction h with
  | start => exact h₀
  | next before p path id hr ih =>
      obtain ⟨c, harrives⟩ := before.arrives hc
      exact ih.request harrives p path id hr

def fullName (x : Place × Entry) : List Text := x.1.toList ++ [x.2.id.segment]

theorem Lists.fullName_injOn (h : t.Lists allowed c) (kind : Kind) :
    Set.InjOn fullName (t.entries.filter (·.2.id.kind = kind) : Set (Place × Entry)) := by
  rintro ⟨p, e⟩ hx ⟨q, e'⟩ hy he
  obtain ⟨hmem, hkind⟩ := Finset.mem_filter.1 hx
  obtain ⟨hmem', hkind'⟩ := Finset.mem_filter.1 hy
  obtain ⟨hplace, hsegment⟩ := List.append_inj' he rfl
  rw [h.mem_entries] at hmem hmem'
  have hq : p = q := Place.toList_injective hplace
  subst q
  have hid : e.id = e'.id :=
    EntryId.ext (List.singleton_injective hsegment) (hkind.trans hkind'.symm)
  rw [Prod.mk.injEq]
  exact ⟨rfl, (h p).2.eq_of_id_eq hmem hmem' hid⟩

theorem Lists.card_entries_of_kind (h : t.Lists allowed c) {kind : Kind}
    {names : Finset (List Text)} (hnames : ∀ name, name ∈ names ↔ c.Holds kind name) :
    (t.entries.filter (·.2.id.kind = kind)).card = names.card := by
  rw [← Finset.card_image_of_injOn (h.fullName_injOn kind)]
  congr 1
  ext name
  rw [Finset.mem_image, hnames]
  constructor
  · rintro ⟨⟨q, e⟩, hx, rfl⟩
    obtain ⟨hmem, hkind⟩ := Finset.mem_filter.1 hx
    exact ⟨q, e.id, List.mem_map_of_mem (h.mem_entries.1 hmem), hkind, rfl⟩
  · rintro ⟨q, id, hid, hkind, rfl⟩
    obtain ⟨e, he, rfl⟩ := List.mem_map.1 hid
    exact ⟨(q, e), Finset.mem_filter.2 ⟨h.mem_entries.2 he, hkind⟩, rfl⟩

structure Counts (t : Tree) (identifiers : List Identifier) : Prop where
  classes_eq : t.stats.classes = identifiers.toFinset.card
  packages_eq : t.stats.packages =
    (identifiers.toFinset.biUnion Identifier.enclosingPackages).card
  disambiguated_eq : t.stats.disambiguated =
    (t.entries.filter fun x => x.2.name ≠ t.rules.plainName x.2.id).card
  virtualGroups_eq : t.stats.virtualGroups = t.sharedKeys.card

variable {settings : Settings} {outputDir : Location} {identifiers : List Identifier}
  {given : List (List Text)} {rules : Rules}

theorem Tallied.counts (h : t.Tallied) (hlists : t.Lists allowed c)
    (hruns : Catalogue.Runs rules allowed identifiers .empty given c) : t.Counts identifiers where
  classes_eq := by
    rw [h.classes_eq, ← Finset.card_image_of_injective _ fun _ _ => Identifier.segments_injective]
    apply hlists.card_entries_of_kind
    intro name
    rw [hruns.holds_classFile_iff]
    simp
  packages_eq := by
    rw [h.packages_eq]
    apply hlists.card_entries_of_kind
    intro name
    rw [hruns.holds_package_iff]
    simp
  disambiguated_eq := h.disambiguated_eq
  virtualGroups_eq := h.virtualGroups_eq

theorem tallied_of_build (h : (build probe settings outputDir s).1 = .ok t) : t.Tallied := by
  have hnone : t.directories = {} := (builtFrom_of_build h).directories_eq
  have hstats : t.stats = {} := by
    unfold build at h
    split at h
    · cases h
    · split at h
      · cases h
        rfl
      · cases h
        rfl
  have hgather {α : Type} [DecidableEq α] (f : Directory → Finset α) : t.gather f = ∅ := by
    rw [gather, hnone]
    rfl
  constructor
  · rw [hstats, entries, hgather]
    rfl
  · rw [hstats, entries, hgather]
    rfl
  · rw [hstats, sharedKeys, hgather]
    rfl
  · rw [hstats, entries, hgather]
    rfl

theorem counts_allocateAll (built : (build probe settings outputDir s₀).1 = .ok t)
    (identifiers : List Identifier) (s : σ) :
    (t.allocateAll probe identifiers s).2.1.Counts identifiers := by
  have hbuilt := builtFrom_of_build built
  obtain ⟨given, c, hruns, _, harrives⟩ := allocateAll_simulates hbuilt probe identifiers s
  rw [← hbuilt.settings_eq] at hruns
  have hrequested : Requested probe t s _ _ := Requested.start.allocateAll identifiers
  exact (hrequested.tallied (tallied_of_build built) (hbuilt.lists _)).counts harrives.lists hruns

/-- The counts are exact after every run, and those of classes and packages are the same in
whatever order the identifiers come. -/
theorem allocateAll_counts (built : (build probe settings outputDir s₀).1 = .ok t)
    (identifiers : List Identifier) (s : σ) :
    (t.allocateAll probe identifiers s).2.1.Counts identifiers ∧
      ∀ identifiers' : List Identifier, identifiers'.Perm identifiers →
        (t.allocateAll probe identifiers' s).2.1.stats.classes =
          (t.allocateAll probe identifiers s).2.1.stats.classes ∧
        (t.allocateAll probe identifiers' s).2.1.stats.packages =
          (t.allocateAll probe identifiers s).2.1.stats.packages := by
  have hcounts := counts_allocateAll built identifiers s
  refine ⟨hcounts, ?_⟩
  intro identifiers' hperm
  have hcounts' := counts_allocateAll built identifiers' s
  have hsame := List.toFinset_eq_of_perm _ _ hperm
  constructor
  · rw [hcounts'.classes_eq, hcounts.classes_eq, hsame]
  · rw [hcounts'.packages_eq, hcounts.packages_eq, hsame]

/-- Two groups, since the number given in the first is a name that a later package has. -/
theorem allocateAll_counts_second_group :
    ∃ t identifiers,
      (build (.fixed .insensitive true) {} (.text ['o']) ()).1 = .ok t ∧
      identifiers.map Identifier.display =
        ["LA/b;".toList, "La/b;".toList, "La.2/b;".toList] ∧
      (t.allocateAll (.fixed .insensitive true) identifiers ()).2.1.Counts identifiers ∧
      (t.allocateAll (.fixed .insensitive true) identifiers ()).2.1.stats = ⟨3, 3, 2, 2⟩ := by
  have built : (build (.fixed .insensitive true) {} (.text ['o']) ()).1 =
      .ok { outputDir := .text ['o'], settings := {}, escapes := true } := rfl
  refine ⟨_, [⟨[['A']], ['b'], ?_, ?_⟩, ⟨[['a']], ['b'], ?_, ?_⟩, ⟨["a.2".toList], ['b'], ?_, ?_⟩],
    built, ?_, (allocateAll_counts built _ _).1, ?_⟩
  all_goals decide +kernel

end Tree

end ClassLayout
