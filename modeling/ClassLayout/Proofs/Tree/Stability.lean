import ClassLayout.Proofs.Tree.Requests

namespace ClassLayout

namespace Tree

variable {σ : Type} {t : Tree} {c : Catalogue} {allowed : CaseSensitivity → Prop} {p : Place}
  {ids : List EntryId} {names : List Text}

theorem Lists.walk_of_spells (h : t.Lists allowed c) (probe : Probe σ)
    (hspells : Catalogue.Spells c p ids names) (path : Location) (s : σ) :
    walk probe ids p path t s = ⟨.ok names, t, s⟩ := by
  induction hspells generalizing path with
  | nil p => rfl
  | @cons p id rest name names listed tail ih =>
      have hp : (t.directory p).Lists (t.naming probe path).rules allowed (c p) := (h p).1
      have hr := hp.entryFor_of_mem (h p).2 listed s
      rw [walk_cons probe rest hr rfl]
      simp only [h.withDirectory_self listed, ih]
      rfl

theorem Lists.allocate_of_spells (h : t.Lists allowed c) (probe : Probe σ) {i : Identifier}
    (hspells : Catalogue.Spells c .root i.steps names) (s : σ) :
    t.allocate probe i s = (.ok (t.outputDir.joinAll names), t, s) := by
  rw [allocate, namesFor, h.walk_of_spells probe hspells]
  rfl

variable {probe : Probe σ} {settings : Settings} {outputDir : Location} {s₀ : σ}

/-- Whatever was allocated meanwhile, and whatever the probe by now, an identifier of the run has
the path it got, and neither the tree nor the surroundings change. -/
theorem allocateAll_stable (built : (build probe settings outputDir s₀).1 = .ok t)
    (identifiers : List Identifier) (s : σ) :
    ∃ given : List (List Text),
      (t.allocateAll probe identifiers s).1 =
        given.map (fun names => .ok (outputDir.joinAll names)) ∧
      List.Forall₂
        (fun i names => ∀ {τ : Type} (probe' : Probe τ) (s' : τ),
          (t.allocateAll probe identifiers s).2.1.allocate probe' i s' =
            (.ok (outputDir.joinAll names), (t.allocateAll probe identifiers s).2.1, s'))
        identifiers given := by
  have hbuilt := builtFrom_of_build built
  obtain ⟨given, c, hruns, hpaths, harrives⟩ := allocateAll_simulates hbuilt probe identifiers s
  refine ⟨given, hpaths, hruns.spells.imp ?_⟩
  intro i names hspells τ probe' s'
  rw [harrives.lists.allocate_of_spells probe' hspells, harrives.sameSetup.outputDir_eq,
    hbuilt.outputDir_eq]

theorem allocateAll_stable_changing_verdicts :
    ∃ t identifiers,
      (build (.scripted true) {} (.text ['o']) [.unknown, .sensitive]).1 = .ok t ∧
      identifiers.map Identifier.display =
        ["LAb;".toList, "LaB;".toList, "Lab;".toList, "Lab.2/c;".toList] ∧
      (t.allocateAll (.scripted true) identifiers [.unknown, .sensitive]).1 =
        ["o/Ab.smali".toList, "o/aB.2.smali".toList, "o/ab.smali".toList,
          "o/ab.2/c.smali".toList].map (.ok ∘ .text) ∧
      ∃ given,
        (t.allocateAll (.scripted true) identifiers [.unknown, .sensitive]).1 =
          given.map (fun names => .ok ((Location.text ['o']).joinAll names)) ∧
        List.Forall₂
          (fun i names => ∀ {τ : Type} (probe' : Probe τ) (s' : τ),
            (t.allocateAll (.scripted true) identifiers [.unknown, .sensitive]).2.1.allocate
                probe' i s' =
              (.ok ((Location.text ['o']).joinAll names),
                (t.allocateAll (.scripted true) identifiers [.unknown, .sensitive]).2.1, s'))
          identifiers given := by
  have built : (build (.scripted true) {} (.text ['o']) [.unknown, .sensitive]).1 =
      .ok { outputDir := .text ['o'], settings := {}, escapes := true } := rfl
  refine ⟨_, [⟨[], "Ab".toList, ?_, ?_⟩, ⟨[], "aB".toList, ?_, ?_⟩, ⟨[], "ab".toList, ?_, ?_⟩,
    ⟨["ab.2".toList], ['c'], ?_, ?_⟩], built, ?_, ?_, allocateAll_stable built _ _⟩
  all_goals decide +kernel

end Tree

end ClassLayout
