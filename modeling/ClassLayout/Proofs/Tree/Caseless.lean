import ClassLayout.Proofs.Directory.Entries
import ClassLayout.Proofs.Text.Caseless
import ClassLayout.Proofs.Tree.Embedding

namespace ClassLayout

namespace Directory

variable {rules : Rules} {allowed : CaseSensitivity → Prop} {d : Directory} {l : Listing}

theorem Lists.eq_of_fold_eq (h : d.Lists rules allowed l) (hl : l.FoldedApart) {e e' : Entry}
    (he : e ∈ d.entries) (he' : e' ∈ d.entries) (hfold : fold e.name = fold e'.name) : e = e' := by
  rw [h.entries_eq, List.mem_toFinset] at he he'
  exact List.inj_on_of_nodup_map hl he he' hfold

theorem Lists.caseless_eq_iff (h : d.Lists rules allowed l) (hl : l.FoldedApart) {e e' : Entry}
    (he : e ∈ d.entries) (he' : e' ∈ d.entries) (hne : e ≠ e') :
    e.name.caseless = e'.name.caseless ↔ Text.PartedBySigma e.name e'.name := by
  rw [Text.partedBySigma_iff, iff_self_and]
  intro _ hfold
  exact hne (h.eq_of_fold_eq hl he he' hfold)

end Directory

namespace Tree

variable {σ : Type} {probe : Probe σ} {settings : Settings} {outputDir : Location} {t : Tree}
  {s₀ s : σ}

/-- Where no verdict may tell case apart, the names of two entries of one directory are alike letter
by letter just where a capital sigma that ends a word stands against a small one. -/
theorem allocateAll_caseless_iff (built : (build probe settings outputDir s₀).1 = .ok t)
    (never : ¬ settings.MayDecide probe s .sensitive) (identifiers : List Identifier) (p : Place) :
    ∀ e ∈ ((t.allocateAll probe identifiers s).2.1.directory p).entries,
      ∀ e' ∈ ((t.allocateAll probe identifiers s).2.1.directory p).entries, e ≠ e' →
        (e.name.caseless = e'.name.caseless ↔ Text.PartedBySigma e.name e'.name) := by
  obtain ⟨given, c, hruns, _, harrives⟩ :=
    allocateAll_simulates (builtFrom_of_build built) probe identifiers s
  intro e he e' he' hne
  exact (harrives.lists p).1.caseless_eq_iff (hruns.foldedApart never p) he he' hne

theorem allocateAll_caseless_iff_numbered :
    ∃ t identifiers,
      (build (.fixed .insensitive true) {} (.text ['o']) ()).1 = .ok t ∧
      identifiers.map Identifier.display = ["LΟΔΟΣ/a;".toList, "Lοδος/a;".toList] ∧
      (t.allocateAll (.fixed .insensitive true) identifiers ()).1 =
        ["o/ΟΔΟΣ/a.smali".toList, "o/οδος.2/a.smali".toList].map (.ok ∘ .text) ∧
      ¬ Settings.MayDecide {} (.fixed .insensitive true) () .sensitive ∧
      ∀ p,
        ∀ e ∈ ((t.allocateAll (.fixed .insensitive true) identifiers ()).2.1.directory p).entries,
        ∀ e' ∈ ((t.allocateAll (.fixed .insensitive true) identifiers ()).2.1.directory p).entries,
          e ≠ e' → (e.name.caseless = e'.name.caseless ↔ Text.PartedBySigma e.name e'.name) := by
  have built : (build (.fixed .insensitive true) {} (.text ['o']) ()).1 =
      .ok { outputDir := .text ['o'], settings := {}, escapes := true } := rfl
  have never : ¬ Settings.MayDecide {} (.fixed .insensitive true) () .sensitive := by
    rintro ⟨dir, s, _, h⟩
    cases h
  refine ⟨_, [⟨["ΟΔΟΣ".toList], ['a'], ?_, ?_⟩, ⟨["οδος".toList], ['a'], ?_, ?_⟩], built, ?_, ?_,
    never, allocateAll_caseless_iff built never _⟩
  all_goals decide +kernel

/-- Two packages that differ by the case of their letters alone have directories of their own. -/
theorem allocateAll_sigmas_coexist :
    ∃ t identifiers,
      (build (.fixed .insensitive true) {} (.text ['o']) ()).1 = .ok t ∧
      identifiers.map Identifier.display = ["LΑΣ/x;".toList, "Lασ/x;".toList] ∧
      (t.allocateAll (.fixed .insensitive true) identifiers ()).1 =
        ["o/ΑΣ/x.smali".toList, "o/ασ/x.smali".toList].map (.ok ∘ .text) ∧
      ∃ e ∈ ((t.allocateAll (.fixed .insensitive true) identifiers ()).2.1.directory .root).entries,
        ∃ e' ∈ ((t.allocateAll (.fixed .insensitive true) identifiers ()).2.1.directory
          .root).entries,
          e ≠ e' ∧ e.name.caseless = e'.name.caseless := by
  have built : (build (.fixed .insensitive true) {} (.text ['o']) ()).1 =
      .ok { outputDir := .text ['o'], settings := {}, escapes := true } := rfl
  refine ⟨_, [⟨["ΑΣ".toList], ['x'], ?_, ?_⟩, ⟨["ασ".toList], ['x'], ?_, ?_⟩], built, ?_, ?_, ?_⟩
  all_goals decide +kernel

end Tree

end ClassLayout
