import ClassLayout.Proofs.Tree.Embedding

namespace ClassLayout

namespace Tree

variable {σ : Type} {probe : Probe σ} {settings : Settings} {outputDir : Location} {t : Tree}
  {c : Catalogue}

/-- A tree after some calls. What becomes of the surroundings between two of them is left open. -/
inductive Reachable (probe : Probe σ) (settings : Settings) (outputDir : Location) : Tree → Prop
  | built {t : Tree} {s : σ} (h : (build probe settings outputDir s).1 = .ok t) :
      Reachable probe settings outputDir t
  | allocated {t : Tree} (before : Reachable probe settings outputDir t) (i : Identifier) (s : σ) :
      Reachable probe settings outputDir (t.allocate probe i s).2.1
  | parsed {t : Tree} (before : Reachable probe settings outputDir t) (descriptor : Text) (s : σ) :
      Reachable probe settings outputDir (t.allocateParsed probe descriptor s).2.1

/-- The directories are those of a catalogue, come to from a new tree on verdicts of any kind. -/
structure Consistent (t : Tree) (settings : Settings) (outputDir : Location) : Prop where
  lists : ∃ c, t.Lists (fun _ => True) c
  accepted : t.rules.Accepted
  outputDir_eq : t.outputDir = outputDir

theorem decides_any (naming : Naming σ) (s : σ) : naming.Decides (fun _ => True) s := by
  unfold Naming.Decides
  split
  · trivial
  · trivial

theorem BuiltFrom.consistent (h : BuiltFrom t settings outputDir) :
    t.Consistent settings outputDir :=
  ⟨⟨.empty, h.lists _⟩, h.accepted, h.outputDir_eq⟩

theorem Consistent.allocate (h : t.Consistent settings outputDir) (probe : Probe σ) (i : Identifier)
    (s : σ) :
    (∃ names : List Text, names.length = i.segments.length ∧ (∀ name ∈ names, IsSegment name) ∧
      (t.allocate probe i s).1 = .ok (outputDir.joinAll names)) ∧
      (t.allocate probe i s).2.1.Consistent settings outputDir := by
  obtain ⟨c, hlists⟩ := h.lists
  obtain ⟨names, c', hwalks, hnames, hlists', hsetup, _⟩ :=
    hlists.exists_walks i.steps .root t.outputDir fun path s' (_ : probe.Reaches s s') =>
      decides_any (t.naming probe path) s'
  have hspells := hwalks.spells
  constructor
  · refine ⟨names, ?_, ?_, ?_⟩
    · rw [hspells.length_eq, i.length_steps]
    · have hsound := fun q => (hlists' q).2
      rw [hsetup.rules_eq] at hsound
      exact hspells.isSegment h.accepted hsound fun _ => i.step_isSegment
    · rw [← h.outputDir_eq]
      simp only [Tree.allocate, namesFor, hnames]
      rfl
  · refine ⟨⟨c', hlists'⟩, ?_, hsetup.outputDir_eq.trans h.outputDir_eq⟩
    rw [show (t.allocate probe i s).2.1.rules = t.rules from hsetup.rules_eq]
    exact h.accepted

theorem allocateParsed_of_error {descriptor : Text} {e : Error}
    (h : Identifier.parse descriptor = .error e) (t : Tree) (probe : Probe σ) (s : σ) :
    t.allocateParsed probe descriptor s = (.error e, t, s) := by
  simp only [allocateParsed, h]

theorem allocateParsed_of_ok {descriptor : Text} {i : Identifier}
    (h : Identifier.parse descriptor = .ok i) (t : Tree) (probe : Probe σ) (s : σ) :
    t.allocateParsed probe descriptor s = t.allocate probe i s := by
  simp only [allocateParsed, h]

theorem Reachable.consistent (h : Reachable probe settings outputDir t) :
    t.Consistent settings outputDir := by
  induction h with
  | built h => exact (builtFrom_of_build h).consistent
  | allocated _ i s ih => exact (ih.allocate probe i s).2
  | @parsed t _ descriptor s ih =>
      cases hparse : Identifier.parse descriptor with
      | error e => rwa [allocateParsed_of_error hparse]
      | ok i =>
          rw [allocateParsed_of_ok hparse]
          exact (ih.allocate probe i s).2

theorem Consistent.entryFor_id (h : t.Consistent settings outputDir) (probe : Probe σ) (p : Place)
    (path : Location) (id : EntryId) (s : σ) :
    ((t.directory p).entryFor (t.naming probe path) id s).entry.id = id := by
  obtain ⟨c, hlists⟩ := h.lists
  obtain ⟨v, _, hentry, _⟩ := hlists.request p path id (decides_any (t.naming probe path) s) rfl
  rw [hentry, Listing.entryFor_id]

theorem Consistent.allocateParsed_eq_error_iff (h : t.Consistent settings outputDir)
    (probe : Probe σ) (descriptor : Text) (s : σ) (e : Error) :
    (t.allocateParsed probe descriptor s).1 = .error e ↔
      Identifier.parse descriptor = .error e := by
  cases hparse : Identifier.parse descriptor with
  | error e' => rw [allocateParsed_of_error hparse, Except.error.injEq, Except.error.injEq]
  | ok i =>
      obtain ⟨names, _, _, hpath⟩ := (h.allocate probe i s).1
      rw [allocateParsed_of_ok hparse, hpath]
      constructor
      · intro he
        cases he
      · intro he
        cases he

/-- In every tree that calls may lead to, each identifier is given a path, and no request comes upon
an entry of another segment or kind. A descriptor fails just where it names no class. -/
theorem Reachable.allocation_succeeds (h : Reachable probe settings outputDir t) (s : σ) :
    (∀ i : Identifier, ∃ names : List Text, names.length = i.segments.length ∧
      (∀ name ∈ names, IsSegment name) ∧
      (t.allocate probe i s).1 = .ok (outputDir.joinAll names)) ∧
    (∀ (p : Place) (path : Location) (id : EntryId),
      ((t.directory p).entryFor (t.naming probe path) id s).entry.id = id) ∧
    (∀ descriptor i, Identifier.parse descriptor = .ok i →
      t.allocateParsed probe descriptor s = t.allocate probe i s) ∧
    ∀ descriptor e,
      ((t.allocateParsed probe descriptor s).1 = .error e ↔
        Identifier.parse descriptor = .error e) ∧
      ((t.allocateParsed probe descriptor s).1 = .error e →
        (t.allocateParsed probe descriptor s).2 = (t, s)) := by
  have hconsistent := h.consistent
  refine ⟨fun i => (hconsistent.allocate probe i s).1,
    fun p path id => hconsistent.entryFor_id probe p path id s,
    fun _ _ hparse => allocateParsed_of_ok hparse t probe s, ?_⟩
  intro descriptor e
  have hiff := hconsistent.allocateParsed_eq_error_iff probe descriptor s e
  refine ⟨hiff, ?_⟩
  intro he
  rw [allocateParsed_of_error (hiff.1 he)]

theorem Reachable.allocation_succeeds_clashing_kinds :
    ∃ t : Tree, Reachable (.scripted true) {} (.text ['o']) t ∧ t.stats = ⟨3, 4, 2, 2⟩ ∧
      (∀ i : Identifier, ∃ names : List Text, names.length = i.segments.length ∧
        (∀ name ∈ names, IsSegment name) ∧
        (t.allocate (.scripted true) i [.unknown]).1 = .ok ((Location.text ['o']).joinAll names)) ∧
      (∀ (p : Place) (path : Location) (id : EntryId),
        ((t.directory p).entryFor (t.naming (.scripted true) path) id [.unknown]).entry.id = id) ∧
      (∀ descriptor i, Identifier.parse descriptor = .ok i →
        t.allocateParsed (.scripted true) descriptor [.unknown] =
          t.allocate (.scripted true) i [.unknown]) ∧
      ∀ descriptor e,
        ((t.allocateParsed (.scripted true) descriptor [.unknown]).1 = .error e ↔
          Identifier.parse descriptor = .error e) ∧
        ((t.allocateParsed (.scripted true) descriptor [.unknown]).1 = .error e →
          (t.allocateParsed (.scripted true) descriptor [.unknown]).2 = (t, [.unknown])) := by
  have built : Reachable (.scripted true) {} (.text ['o'])
      { outputDir := .text ['o'], settings := {}, escapes := true } :=
    .built (s := [.unknown]) rfl
  have reachable := (((built.parsed "La;".toList [.unknown]).parsed "La.smali/b;".toList
    [.unknown]).parsed "LP/q;".toList [.unknown]).parsed "Lp/q;".toList [.unknown]
  exact ⟨_, reachable, by decide +kernel, reachable.allocation_succeeds [.unknown]⟩

end Tree

end ClassLayout
