import ClassLayout.Proofs.Directory.Index
import ClassLayout.Proofs.Tree.Catalogue

namespace ClassLayout

inductive Probe.Reaches {σ : Type} (probe : Probe σ) (s : σ) : σ → Prop where
  | here : Probe.Reaches probe s s
  | asked {s' : σ} (before : Probe.Reaches probe s s') (dir : Location) :
      Probe.Reaches probe s (probe.caseSensitivity dir s').2

theorem Probe.Reaches.trans {σ : Type} {probe : Probe σ} {s s' s'' : σ} (h : probe.Reaches s s')
    (h' : probe.Reaches s' s'') : probe.Reaches s s'' := by
  induction h' with
  | here => exact h
  | asked _ dir ih => exact ih.asked dir

/-- A verdict on which a newcomer may be decided from now on: the one forced, or any answer that
the probe may come to give. -/
def Settings.MayDecide {σ : Type} (settings : Settings) (probe : Probe σ) (s : σ)
    (v : CaseSensitivity) : Prop :=
  if settings.caseSensitivity.isKnown then v = settings.caseSensitivity
  else ∃ dir s', probe.Reaches s s' ∧ (probe.caseSensitivity dir s').1 = v

namespace Tree

def Lists (t : Tree) (allowed : CaseSensitivity → Prop) (c : Catalogue) : Prop :=
  ∀ p, (t.directory p).Lists t.rules allowed (c p) ∧ (c p).Sound t.rules

structure SameSetup (t t' : Tree) : Prop where
  outputDir_eq : t'.outputDir = t.outputDir
  settings_eq : t'.settings = t.settings
  escapes_eq : t'.escapes = t.escapes

variable {σ : Type} {probe : Probe σ} {t : Tree} {c : Catalogue} {s₀ s : σ}

theorem SameSetup.refl (t : Tree) : SameSetup t t := ⟨rfl, rfl, rfl⟩

theorem SameSetup.trans {t t' t'' : Tree} (h : SameSetup t t') (h' : SameSetup t' t'') :
    SameSetup t t'' :=
  ⟨h'.outputDir_eq.trans h.outputDir_eq, h'.settings_eq.trans h.settings_eq,
    h'.escapes_eq.trans h.escapes_eq⟩

theorem SameSetup.rules_eq {t t' : Tree} (h : SameSetup t t') : t'.rules = t.rules := by
  rw [rules, rules, h.settings_eq, h.escapes_eq]

theorem naming_decides (h : probe.Reaches s₀ s) (path : Location) :
    (t.naming probe path).Decides (t.settings.MayDecide probe s₀) s := by
  unfold Naming.Decides Settings.MayDecide naming
  split
  · rfl
  · exact ⟨path, s, h, rfl⟩

theorem reaches_entryFor (h : probe.Reaches s₀ s) (d : Directory) (path : Location) (id : EntryId) :
    probe.Reaches s₀ (d.entryFor (t.naming probe path) id s).state := by
  rcases d.entryFor_state (t.naming probe path) id s with hs | hs
  · rwa [hs]
  · rw [hs]
    exact h.asked path

def withDirectory (t : Tree) (p : Place) (d : Directory) (tally : Stats) : Tree :=
  { t with directories := t.directories.insert p d, stats := t.stats + tally }

theorem sameSetup_withDirectory (t : Tree) (p : Place) (d : Directory) (tally : Stats) :
    SameSetup t (t.withDirectory p d tally) := ⟨rfl, rfl, rfl⟩

theorem directory_withDirectory (t : Tree) (p q : Place) (d : Directory) (tally : Stats) :
    (t.withDirectory p d tally).directory q = if q = p then d else t.directory q := by
  simp only [directory, withDirectory, Table.get?_insert]
  split
  · rfl
  · rfl

theorem Lists.withDirectory {allowed : CaseSensitivity → Prop} (h : t.Lists allowed c) {p : Place}
    {d : Directory} {l : Listing} (hd : d.Lists t.rules allowed l) (hl : l.Sound t.rules)
    (tally : Stats) : (t.withDirectory p d tally).Lists allowed (Function.update c p l) := by
  intro q
  rw [directory_withDirectory]
  by_cases hq : q = p
  · subst q
    rw [if_pos rfl, Function.update_self]
    exact ⟨hd, hl⟩
  · rw [if_neg hq, Function.update_of_ne hq]
    exact h q

/-- Where requests to the tree `t` may lead: a tree of the same setup that a catalogue lists, and
surroundings in which only questions about letter case were put. -/
structure Arrives (probe : Probe σ) (t : Tree) (s₀ : σ) (t' : Tree) (s : σ) (c : Catalogue) :
    Prop where
  lists : t'.Lists (t.settings.MayDecide probe s₀) c
  sameSetup : SameSetup t t'
  reaches : probe.Reaches s₀ s

theorem Lists.request {allowed : CaseSensitivity → Prop} (h : t.Lists allowed c) (p : Place)
    (path : Location) (id : EntryId) (hs : (t.naming probe path).Decides allowed s) {r : Reply σ}
    (hr : (t.directory p).entryFor (t.naming probe path) id s = r) :
    ∃ v, allowed v ∧ r.entry = (Listing.entryFor t.rules v (c p) id).1 ∧
      (t.withDirectory p r.directory r.tally).Lists allowed
        (Function.update c p (Listing.entryFor t.rules v (c p) id).2) := by
  have hp : (t.directory p).Lists (t.naming probe path).rules allowed (c p) := (h p).1
  obtain ⟨v, hv, hentry, hdir⟩ := hp.entryFor (h p).2 id hs
  rw [hr] at hentry hdir
  exact ⟨v, hv, hentry, h.withDirectory hdir ((h p).2.entryFor v id) r.tally⟩

theorem Arrives.request {t₀ : Tree} (h : Arrives probe t₀ s₀ t s c) (p : Place) (path : Location)
    (id : EntryId) {r : Reply σ} (hr : (t.directory p).entryFor (t.naming probe path) id s = r) :
    ∃ v, t₀.settings.MayDecide probe s₀ v ∧ r.entry = (Listing.entryFor t.rules v (c p) id).1 ∧
      Arrives probe t₀ s₀ (t.withDirectory p r.directory r.tally) r.state
        (Function.update c p (Listing.entryFor t.rules v (c p) id).2) := by
  have hdecides := naming_decides (t := t) h.reaches path
  rw [h.sameSetup.settings_eq] at hdecides
  obtain ⟨v, hv, hentry, hnext⟩ := h.lists.request p path id hdecides hr
  have hreaches := reaches_entryFor (t := t) h.reaches (t.directory p) path id
  rw [hr] at hreaches
  exact ⟨v, hv, hentry, hnext, h.sameSetup.trans (sameSetup_withDirectory t p r.directory r.tally),
    hreaches⟩

theorem walk_cons (probe : Probe σ) {id : EntryId} (rest : List EntryId) {p : Place}
    {path : Location}
    {t : Tree} {s : σ} {r : Reply σ}
    (hr : (t.directory p).entryFor (t.naming probe path) id s = r) (hid : r.entry.id = id) :
    walk probe (id :: rest) p path t s =
      let w := walk probe rest (p.child id.segment) (path.join r.entry.name)
        (t.withDirectory p r.directory r.tally) r.state
      { w with names := w.names.map (r.entry.name :: ·) } := by
  subst hr
  rw [walk, if_pos (by rw [hid])]
  rfl

theorem Lists.exists_walks {allowed : CaseSensitivity → Prop} (ids : List EntryId) (p : Place)
    (path : Location) (h : t.Lists allowed c)
    (hs : ∀ path s', probe.Reaches s s' → (t.naming probe path).Decides allowed s') :
    ∃ names c', Catalogue.Walks t.rules allowed ids p c names c' ∧
      (walk probe ids p path t s).names = .ok names ∧
      (walk probe ids p path t s).tree.Lists allowed c' ∧
      SameSetup t (walk probe ids p path t s).tree ∧
      probe.Reaches s (walk probe ids p path t s).state := by
  -- the listing of the whole tree is carried down; one request replaces one directory of it
  induction ids generalizing p path t s c with
  | nil => exact ⟨[], c, .nil p c, rfl, h, .refl t, .here⟩
  | cons id rest ih =>
      generalize hr : (t.directory p).entryFor (t.naming probe path) id s = r
      obtain ⟨v, hv, hentry, hnext⟩ := h.request p path id (hs path s .here) hr
      have hid : r.entry.id = id := by rw [hentry, Listing.entryFor_id]
      have hreaches : probe.Reaches s _ := reaches_entryFor (t := t) .here (t.directory p) path id
      rw [hr] at hreaches
      obtain ⟨names, c', hwalks, hnames, hlists, hsetup, hends⟩ := ih (p.child id.segment)
        (path.join r.entry.name) hnext fun path s' hs' => hs path s' (hreaches.trans hs')
      rw [walk_cons probe rest hr hid]
      refine ⟨r.entry.name :: names, c', ?_, ?_, hlists, ?_, hreaches.trans hends⟩
      · rw [hentry]
        exact .cons v hv hwalks
      · simp only [hnames]
        rfl
      · exact (sameSetup_withDirectory t p r.directory r.tally).trans hsetup

theorem walk_simulates (ids : List EntryId) (p : Place) (path : Location)
    (h : t.Lists (t.settings.MayDecide probe s₀) c) (hs : probe.Reaches s₀ s) :
    ∃ names c', Catalogue.Walks t.rules (t.settings.MayDecide probe s₀) ids p c names c' ∧
      (walk probe ids p path t s).names = .ok names ∧
      Arrives probe t s₀ (walk probe ids p path t s).tree (walk probe ids p path t s).state c' := by
  obtain ⟨names, c', hwalks, hnames, hlists, hsetup, hends⟩ :=
    h.exists_walks ids p path fun path s' hs' => naming_decides (hs.trans hs') path
  exact ⟨names, c', hwalks, hnames, hlists, hsetup, hs.trans hends⟩

theorem allocate_simulates (i : Identifier) (h : t.Lists (t.settings.MayDecide probe s₀) c)
    (hs : probe.Reaches s₀ s) :
    ∃ names c', Catalogue.Walks t.rules (t.settings.MayDecide probe s₀) i.steps .root c names c' ∧
      (t.allocate probe i s).1 = .ok (t.outputDir.joinAll names) ∧
      Arrives probe t s₀ (t.allocate probe i s).2.1 (t.allocate probe i s).2.2 c' := by
  obtain ⟨names, c', hwalks, hnames, harrives⟩ := walk_simulates i.steps .root t.outputDir h hs
  refine ⟨names, c', hwalks, ?_, harrives⟩
  simp only [allocate, namesFor, hnames]
  rfl

theorem allocateAll_simulates_from (probe : Probe σ) (identifiers : List Identifier)
    (h : t.Lists (t.settings.MayDecide probe s₀) c) (hs : probe.Reaches s₀ s) :
    ∃ given c', Catalogue.Runs t.rules (t.settings.MayDecide probe s₀) identifiers c given c' ∧
      (t.allocateAll probe identifiers s).1 =
        given.map (fun names => .ok (t.outputDir.joinAll names)) ∧
      Arrives probe t s₀ (t.allocateAll probe identifiers s).2.1
        (t.allocateAll probe identifiers s).2.2 c' := by
  induction identifiers generalizing t c s with
  | nil => exact ⟨[], c, .nil c, rfl, h, .refl t, hs⟩
  | cons i rest ih =>
      obtain ⟨names, c', hwalks, hpath, harrives⟩ := allocate_simulates i h hs
      have hsetup := harrives.sameSetup
      have hlists := harrives.lists
      rw [← hsetup.settings_eq] at hlists
      obtain ⟨given, c'', hruns, hpaths, hends⟩ := ih hlists harrives.reaches
      rw [hsetup.settings_eq, hsetup.rules_eq] at hruns
      rw [hsetup.outputDir_eq] at hpaths
      have hlists' := hends.lists
      rw [hsetup.settings_eq] at hlists'
      refine ⟨names :: given, c'', .cons hwalks hruns, ?_, hlists', hsetup.trans hends.sameSetup,
        hends.reaches⟩
      rw [List.map_cons, ← hpath, ← hpaths]
      rfl

variable {settings : Settings} {outputDir : Location}

structure BuiltFrom (t : Tree) (settings : Settings) (outputDir : Location) : Prop where
  outputDir_eq : t.outputDir = outputDir
  settings_eq : t.settings = settings
  accepted : t.rules.Accepted
  directories_eq : t.directories = {}

theorem builtFrom_of_build (h : (build probe settings outputDir s).1 = .ok t) :
    BuiltFrom t settings outputDir := by
  unfold build at h
  cases hflaw : settings.flaw? with
  | some flaw => simp [hflaw] at h
  | none =>
      simp only [hflaw] at h
      cases hescape : settings.escapeReservedNames with
      | some escapes =>
          simp only [hescape, Except.ok.injEq] at h
          subst h
          exact ⟨rfl, rfl, settings.accepted_of_flaw? hflaw _, rfl⟩
      | none =>
          simp only [hescape, Except.ok.injEq] at h
          subst h
          exact ⟨rfl, rfl, settings.accepted_of_flaw? hflaw _, rfl⟩

theorem BuiltFrom.lists (h : BuiltFrom t settings outputDir) (allowed : CaseSensitivity → Prop) :
    t.Lists allowed .empty := by
  intro p
  have hd : t.directory p = {} := by
    rw [directory, h.directories_eq]
    rfl
  rw [hd]
  exact ⟨.empty t.rules allowed, .nil t.rules⟩

/-- A run on a new tree is a run of the catalogue, on verdicts that the settings and the probe
leave open. -/
theorem allocateAll_simulates (h : BuiltFrom t settings outputDir) (probe : Probe σ)
    (identifiers : List Identifier) (s : σ) :
    ∃ given c, Catalogue.Runs t.rules (settings.MayDecide probe s) identifiers .empty given c ∧
      (t.allocateAll probe identifiers s).1 =
        given.map (fun names => .ok (outputDir.joinAll names)) ∧
      Arrives probe t s (t.allocateAll probe identifiers s).2.1
        (t.allocateAll probe identifiers s).2.2 c := by
  have hsim := allocateAll_simulates_from probe identifiers (h.lists _) (.here (s := s))
  rwa [h.settings_eq, h.outputDir_eq] at hsim

/-- With one verdict throughout, forced or always answered, every path is the one that the plain
listings give. -/
theorem allocateAll_eq_pathsFor {verdict : CaseSensitivity}
    (built : (build probe settings outputDir s₀).1 = .ok t)
    (always : ∀ v, settings.MayDecide probe s v → v = verdict) (identifiers : List Identifier) :
    (t.allocateAll probe identifiers s).1 =
      (Catalogue.pathsFor t.rules verdict outputDir identifiers .empty).map .ok := by
  obtain ⟨given, c, hruns, hpaths, _⟩ :=
    allocateAll_simulates (builtFrom_of_build built) probe identifiers s
  rw [hpaths, hruns.pathsFor_eq always, List.map_map]
  rfl

theorem allocateAll_eq_pathsFor_insensitive :
    ∃ t identifiers,
      (build (.fixed .insensitive true) { maxComponentBytes := 16 } (.text ['o']) ()).1 = .ok t ∧
      (∀ v, Settings.MayDecide { maxComponentBytes := 16 } (.fixed .insensitive true) () v →
        v = .insensitive) ∧
      identifiers.map Identifier.display =
        ["LCON/Long_class_name;".toList, "Lcon/long_class_name;".toList,
          "Lcon/Long_class_name;".toList] ∧
      (t.allocateAll (.fixed .insensitive true) identifiers ()).1 =
        ["o/CON#/Long#_name.smali".toList, "o/con#.2/long#_name.smali".toList,
          "o/con#.2/Lon#name.2.smali".toList].map (.ok ∘ .text) ∧
      (t.allocateAll (.fixed .insensitive true) identifiers ()).1 =
        (Catalogue.pathsFor t.rules .insensitive (.text ['o']) identifiers .empty).map .ok := by
  have built : (build (.fixed .insensitive true) { maxComponentBytes := 16 } (.text ['o']) ()).1 =
      .ok { outputDir := .text ['o'], settings := { maxComponentBytes := 16 }, escapes := true } :=
    rfl
  have always : ∀ v, Settings.MayDecide { maxComponentBytes := 16 } (.fixed .insensitive true) ()
      v → v = .insensitive := by
    rintro v ⟨dir, s, _, h⟩
    exact h.symm
  refine ⟨_, [⟨["CON".toList], "Long_class_name".toList, ?_, ?_⟩,
    ⟨["con".toList], "long_class_name".toList, ?_, ?_⟩,
    ⟨["con".toList], "Long_class_name".toList, ?_, ?_⟩], built, always, ?_, ?_,
    allocateAll_eq_pathsFor built always _⟩
  all_goals decide +kernel

end Tree

end ClassLayout
