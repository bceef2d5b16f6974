import ClassLayout.Proofs.Tree.Transcript

namespace ClassLayout

/-- No two entries that the identifiers need in one directory have plain names which `key` makes
alike. -/
def PlainApart (key : Text → Text) (rules : Rules) (identifiers : List Identifier) : Prop :=
  ∀ i ∈ identifiers, ∀ j ∈ identifiers, ∀ x ∈ visits .root i.steps, ∀ y ∈ visits .root j.steps,
    x.1 = y.1 → key (rules.plainName x.2) = key (rules.plainName y.2) → x.2 = y.2

instance (key : Text → Text) (rules : Rules) (identifiers : List Identifier) :
    Decidable (PlainApart key rules identifiers) :=
  inferInstanceAs (Decidable (∀ i ∈ identifiers, ∀ j ∈ identifiers, ∀ x ∈ _, ∀ y ∈ _, _ → _ → _))

def Needed (identifiers : List Identifier) (p : Place) (id : EntryId) : Prop :=
  ∃ i ∈ identifiers, (p, id) ∈ visits .root i.steps

def Clear (rules : Rules) (allowed : CaseSensitivity → Prop) (needed : Place → EntryId → Prop) :
    Prop :=
  ∀ v, allowed v → ∀ p id id', needed p id → needed p id' → id ≠ id' →
    fold (rules.plainName id) ≠ fold (rules.plainName id') ∨
      v = .sensitive ∧ rules.plainName id ≠ rules.plainName id'

variable {rules : Rules} {allowed : CaseSensitivity → Prop} {needed : Place → EntryId → Prop}
  {identifiers : List Identifier}

theorem PlainApart.eq_of_needed {key : Text → Text} (h : PlainApart key rules identifiers)
    {p : Place} {id id' : EntryId} (hid : Needed identifiers p id) (hid' : Needed identifiers p id')
    (hkey : key (rules.plainName id) = key (rules.plainName id')) : id = id' := by
  obtain ⟨i, hi, hx⟩ := hid
  obtain ⟨j, hj, hy⟩ := hid'
  exact h i hi j hj _ hx _ hy rfl hkey

theorem PlainApart.clear_of_fold (h : PlainApart fold rules identifiers)
    (allowed : CaseSensitivity → Prop) : Clear rules allowed (Needed identifiers) :=
  fun _ _ _ _ _ hid hid' hne => .inl fun hkey => hne (h.eq_of_needed hid hid' hkey)

theorem PlainApart.clear_of_sensitive (h : PlainApart id rules identifiers)
    (always : ∀ v, allowed v → v = .sensitive) : Clear rules allowed (Needed identifiers) :=
  fun v hv _ _ _ hid hid' hne =>
    .inr ⟨always v hv, fun hname => hne (h.eq_of_needed hid hid' hname)⟩

theorem Listing.entryFor_of_clear {v : CaseSensitivity} {l : Listing} {id : EntryId}
    (hl : ∀ e ∈ l, e.name = rules.plainName e.id)
    (clear : ∀ e ∈ l, e.id ≠ id → fold (rules.plainName e.id) ≠ fold (rules.plainName id) ∨
      v = .sensitive ∧ rules.plainName e.id ≠ rules.plainName id) :
    (entryFor rules v l id).1 = ⟨id, rules.plainName id⟩ := by
  rcases entryFor_cases rules v l id with ⟨e, he, hid, hfound⟩ | ⟨hid, hnew⟩
  · rw [hfound, ← hid, ← hl e he]
  · have hother : ∀ e ∈ l, e.id ≠ id := fun e he heq => hid (List.mem_map.2 ⟨e, he, heq⟩)
    have hplain : nameFor rules v l id = rules.plainName id := by
      apply nameFor_eq_plainName
      by_cases htaken : Takes l (fold (rules.plainName id))
      · obtain ⟨e, he, hkey⟩ := htaken
        rw [hl e he] at hkey
        have hv := ((clear e he (hother e he)).resolve_left (not_not.2 hkey)).1
        refine .inr ⟨hv, ?_⟩
        intro e' he' hname
        rw [hl e' he'] at hname
        rcases clear e' he' (hother e' he') with hfold | ⟨_, hne⟩
        · exact hfold (congrArg fold hname)
        · exact hne hname
      · exact .inl htaken
    rw [hnew, newcomer, hplain]

namespace Catalogue

variable {c c' : Catalogue} {p : Place} {ids : List EntryId} {names : List Text}
  {given : List (List Text)}

def Plain (rules : Rules) (needed : Place → EntryId → Prop) (c : Catalogue) : Prop :=
  ∀ q, ∀ e ∈ c q, needed q e.id ∧ e.name = rules.plainName e.id

theorem Walks.plain (h : Walks rules allowed ids p c names c') (clear : Clear rules allowed needed)
    (hids : ∀ x ∈ visits p ids, needed x.1 x.2) (hc : c.Plain rules needed) :
    names = ids.map rules.plainName ∧ c'.Plain rules needed := by
  induction h with
  | nil => exact ⟨rfl, hc⟩
  | @cons id rest p c c' names v hv tail ih =>
      have hneeded : needed p id := hids (p, id) List.mem_cons_self
      have hentry : (Listing.entryFor rules v (c p) id).1 = ⟨id, rules.plainName id⟩ :=
        Listing.entryFor_of_clear (fun e he => (hc p e he).2) fun e he hne =>
          clear v hv p e.id id (hc p e he).1 hneeded hne
      have hlisting : ∀ e ∈ (Listing.entryFor rules v (c p) id).2,
          needed p e.id ∧ e.name = rules.plainName e.id := by
        intro e he
        rcases Listing.mem_entryFor.1 he with he | rfl
        · exact hc p e he
        · rw [hentry]
          exact ⟨hneeded, rfl⟩
      have hnext : Catalogue.Plain rules needed
          (Function.update c p (Listing.entryFor rules v (c p) id).2) :=
        (Function.forall_update_iff c fun q l =>
          ∀ e ∈ l, needed q e.id ∧ e.name = rules.plainName e.id).2 ⟨hlisting, fun q _ => hc q⟩
      obtain ⟨hnames, hplain⟩ := ih (fun x hx => hids x (List.mem_cons_of_mem _ hx)) hnext
      rw [hentry, hnames]
      exact ⟨rfl, hplain⟩

theorem Runs.plain (h : Runs rules allowed identifiers c given c')
    (clear : Clear rules allowed needed)
    (hids : ∀ i ∈ identifiers, ∀ x ∈ visits .root i.steps, needed x.1 x.2)
    (hc : c.Plain rules needed) :
    given = identifiers.map (fun i => i.steps.map rules.plainName) ∧ c'.Plain rules needed := by
  induction h with
  | nil => exact ⟨rfl, hc⟩
  | @cons i rest c c' c'' names given walk tail ih =>
      obtain ⟨hnames, hplain⟩ := walk.plain clear (hids i List.mem_cons_self) hc
      obtain ⟨hgiven, hends⟩ := ih (fun j hj => hids j (List.mem_cons_of_mem _ hj)) hplain
      rw [hnames, hgiven]
      exact ⟨rfl, hends⟩

end Catalogue

namespace Tree

variable {σ : Type} {probe : Probe σ} {settings : Settings} {outputDir : Location} {t : Tree}
  {s₀ s : σ}
  {c : Catalogue} {order : List Identifier}

theorem Lists.plain_entries (h : t.Lists allowed c) (hc : c.Plain t.rules needed) :
    ∀ x ∈ t.entries, needed x.1 x.2.id ∧ x.2.name = t.rules.plainName x.2.id :=
  fun x hx => hc x.1 x.2 (h.mem_entries.1 hx)

theorem card_numbered_of_plain (h : ∀ x ∈ t.entries, x.2.name = t.rules.plainName x.2.id) :
    (t.entries.filter fun x => x.2.name ≠ t.rules.plainName x.2.id).card = 0 := by
  rw [Finset.card_eq_zero, Finset.filter_eq_empty_iff]
  exact fun x hx => not_not.2 (h x hx)

theorem sharedKeys_eq_empty (h : ∀ x ∈ t.entries, Needed identifiers x.1 x.2.id ∧
      x.2.name = t.rules.plainName x.2.id)
    (apart : PlainApart fold t.rules identifiers) : t.sharedKeys = ∅ := by
  rw [Finset.eq_empty_iff_forall_notMem]
  rintro ⟨p, key⟩ hshared
  rw [mem_sharedKeys, Directory.mem_sharedKeys] at hshared
  obtain ⟨e, he, e', he', hne⟩ := Finset.one_lt_card.1 hshared
  have hmeets : ∀ e ∈ (t.directory p).entriesMeeting t.rules key, Needed identifiers p e.id ∧
      e.name = t.rules.plainName e.id ∧ fold (t.rules.plainName e.id) = key := by
    intro e he
    obtain ⟨hmem, hkey⟩ := Finset.mem_filter.1 he
    obtain ⟨hneeded, hname⟩ := h (p, e) (mem_entries.2 hmem)
    refine ⟨hneeded, hname, ?_⟩
    rcases hkey with hkey | hkey
    · rwa [← hname]
    · exact hkey
  obtain ⟨hneeded, hname, hkey⟩ := hmeets e he
  obtain ⟨hneeded', hname', hkey'⟩ := hmeets e' he'
  have hid : e.id = e'.id := apart.eq_of_needed hneeded hneeded' (hkey.trans hkey'.symm)
  apply hne
  calc e = ⟨e.id, t.rules.plainName e.id⟩ := by rw [← hname]
    _ = ⟨e'.id, t.rules.plainName e'.id⟩ := by rw [hid]
    _ = e' := by rw [← hname']

theorem allocateAll_of_clear (built : BuiltFrom t settings outputDir) (probe : Probe σ)
    (horder : order ⊆ identifiers)
    (clear : Clear t.rules (settings.MayDecide probe s) (Needed identifiers)) :
    (t.allocateAll probe order s).1 =
        order.map (fun i => .ok (outputDir.joinAll (i.steps.map t.rules.plainName))) ∧
      ∀ x ∈ (t.allocateAll probe order s).2.1.entries, Needed identifiers x.1 x.2.id ∧
        x.2.name = t.rules.plainName x.2.id := by
  obtain ⟨given, c, hruns, hpaths, harrives⟩ := allocateAll_simulates built probe order s
  obtain ⟨hgiven, hplain⟩ := hruns.plain clear (fun i hi _ hx => ⟨i, horder hi, hx⟩)
    fun q e he => absurd he List.not_mem_nil
  have hrules := harrives.sameSetup.rules_eq
  rw [← hrules] at hplain
  have hentries := harrives.lists.plain_entries hplain
  rw [hrules] at hentries
  refine ⟨?_, hentries⟩
  rw [hpaths, hgiven, List.map_map]
  rfl

theorem state_of_sharedKeys_eq_empty (built : BuiltFrom t settings outputDir) (probe : Probe σ)
    (identifiers : List Identifier) (s : σ)
    (hnone : (t.allocateAll probe identifiers s).2.1.sharedKeys = ∅) :
    (t.allocateAll probe identifiers s).2.2 = s := by
  obtain ⟨c, _, events, htranscribed, _⟩ := (built.transcribed probe s).allocateAll identifiers
  rw [List.nil_append] at htranscribed
  have hasking : asking events = [] := by
    rw [List.eq_nil_iff_forall_not_mem]
    intro r hr
    have hshared := htranscribed.mem_sharedKeys hr
    rw [hnone] at hshared
    exact Finset.notMem_empty _ hshared
  have hinterview := htranscribed.interview_eq
  rw [hasking] at hinterview
  exact (congrArg Prod.snd hinterview).symm

/-- Where no two plain names of one directory fold to one key, every order gives each identifier its
plain names and asks nothing. Where case is always told apart, they need only be different. -/
theorem allocateAll_plain (built : (build probe settings outputDir s₀).1 = .ok t)
    (horder : order ⊆ identifiers) (s : σ) :
    (PlainApart fold t.rules identifiers →
      (t.allocateAll probe order s).1 =
          order.map (fun i => .ok (outputDir.joinAll (i.steps.map t.rules.plainName))) ∧
        (t.allocateAll probe order s).2.1.stats.virtualGroups = 0 ∧
        (t.allocateAll probe order s).2.1.stats.disambiguated = 0 ∧
        (t.allocateAll probe order s).2.2 = s) ∧
    ((∀ v, settings.MayDecide probe s v → v = .sensitive) → PlainApart id t.rules identifiers →
      (t.allocateAll probe order s).1 =
          order.map (fun i => .ok (outputDir.joinAll (i.steps.map t.rules.plainName))) ∧
        (t.allocateAll probe order s).2.1.stats.disambiguated = 0) := by
  have hbuilt := builtFrom_of_build built
  have hcounts := counts_allocateAll built order s
  have hrules : (t.allocateAll probe order s).2.1.rules = t.rules := by
    obtain ⟨_, _, _, _, harrives⟩ := allocateAll_simulates hbuilt probe order s
    exact harrives.sameSetup.rules_eq
  constructor
  · intro apart
    obtain ⟨hpaths, hentries⟩ := allocateAll_of_clear hbuilt probe horder (apart.clear_of_fold _)
    rw [← hrules] at hentries apart
    have hnone := sharedKeys_eq_empty hentries apart
    refine ⟨hpaths, ?_, ?_, state_of_sharedKeys_eq_empty hbuilt probe order s hnone⟩
    · rw [hcounts.virtualGroups_eq, hnone, Finset.card_empty]
    · rw [hcounts.disambiguated_eq, card_numbered_of_plain fun x hx => (hentries x hx).2]
  · intro always apart
    obtain ⟨hpaths, hentries⟩ :=
      allocateAll_of_clear hbuilt probe horder (apart.clear_of_sensitive always)
    rw [← hrules] at hentries
    refine ⟨hpaths, ?_⟩
    rw [hcounts.disambiguated_eq, card_numbered_of_plain fun x hx => (hentries x hx).2]

theorem allocateAll_plain_rewritten :
    (∃ t identifiers,
      (build (Probe.scripted true).recording { maxComponentBytes := 16 } (.text ['o'])
        ([.unknown], [])).1 = .ok t ∧
      identifiers.map Identifier.display =
        ["LcommonPackageName/Aux;".toList, "Laux/ClassName12;".toList,
          "Laux/ClassName345;".toList] ∧
      PlainApart fold t.rules identifiers ∧
      (t.allocateAll (Probe.scripted true).recording (identifiers.reverse ++ identifiers)
          ([.unknown], [])).1 =
        (identifiers.reverse ++ identifiers).map
          (fun i => .ok ((Location.text ['o']).joinAll (i.steps.map t.rules.plainName))) ∧
      (t.allocateAll (Probe.scripted true).recording (identifiers.reverse ++ identifiers)
          ([.unknown], [])).2.1.stats = ⟨2, 3, 0, 0⟩ ∧
      (t.allocateAll (Probe.scripted true).recording (identifiers.reverse ++ identifiers)
          ([.unknown], [])).2.2 = ([.unknown], []) ∧
      identifiers.map (fun i => (Location.text ['o']).joinAll (i.steps.map t.rules.plainName)) =
        ["o/commonP#kageName/Aux#.smali".toList, "o/aux#/Clas#ame12.smali".toList,
          "o/aux#/Class#e345.smali".toList].map .text) ∧
    ∃ t identifiers,
      (build (.fixed .sensitive true) {} (.text ['o']) ()).1 = .ok t ∧
      identifiers.map Identifier.display =
        ["LA/b;".toList, "La/b;".toList, "La/B;".toList] ∧
      (∀ v, Settings.MayDecide {} (.fixed .sensitive true) () v → v = .sensitive) ∧
      PlainApart id t.rules identifiers ∧
      (t.allocateAll (.fixed .sensitive true) identifiers ()).1 =
        identifiers.map
          (fun i => .ok ((Location.text ['o']).joinAll (i.steps.map t.rules.plainName))) ∧
      (t.allocateAll (.fixed .sensitive true) identifiers ()).2.1.stats = ⟨2, 3, 2, 0⟩ := by
  constructor
  · have built : (build (Probe.scripted true).recording { maxComponentBytes := 16 } (.text ['o'])
        ([.unknown], [])).1 = .ok
          { outputDir := .text ['o'], settings := { maxComponentBytes := 16 },
            escapes := true } := rfl
    have twice {l m : List Identifier} (h : l ⊆ m) : l.reverse ++ l ⊆ m :=
      List.append_subset.2 ⟨List.reverse_subset.2 h, h⟩
    refine ⟨_, [⟨["commonPackageName".toList], "Aux".toList, ?_, ?_⟩,
      ⟨["aux".toList], "ClassName12".toList, ?_, ?_⟩,
      ⟨["aux".toList], "ClassName345".toList, ?_, ?_⟩], built, ?_, ?_,
      ((allocateAll_plain built (twice (List.Subset.refl _)) _).1 ?_).1, ?_,
      ((allocateAll_plain built (twice (List.Subset.refl _)) _).1 ?_).2.2.2, ?_⟩
    all_goals decide +kernel
  · have built : (build (.fixed .sensitive true) {} (.text ['o']) ()).1 =
        .ok { outputDir := .text ['o'], settings := {}, escapes := true } := rfl
    have always : ∀ v, Settings.MayDecide {} (.fixed .sensitive true) () v → v = .sensitive := by
      rintro v ⟨dir, s, _, h⟩
      exact h.symm
    refine ⟨_, [⟨[['A']], ['b'], ?_, ?_⟩, ⟨[['a']], ['b'], ?_, ?_⟩, ⟨[['a']], ['B'], ?_, ?_⟩],
      built, ?_, always, ?_, ((allocateAll_plain built (List.Subset.refl _) ()).2 always ?_).1, ?_⟩
    all_goals decide +kernel

end Tree

end ClassLayout
