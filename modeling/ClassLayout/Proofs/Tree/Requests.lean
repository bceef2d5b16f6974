import ClassLayout.Proofs.Directory.Entries
import ClassLayout.Proofs.Tree.Simulation

namespace ClassLayout

namespace Tree

variable {σ : Type} {probe : Probe σ} {t₀ t : Tree} {s₀ s : σ} {c : Catalogue} {p : Place}
  {allowed : CaseSensitivity → Prop}

theorem directory_of_get?_eq_none (h : t.directories.get? p = none) : t.directory p = {} := by
  rw [directory, h]
  rfl

theorem directory_of_get?_eq_some {d : Directory} (h : t.directories.get? p = some d) :
    t.directory p = d := by
  rw [directory, h]
  rfl

theorem Lists.get?_directories (h : t.Lists allowed c) {e : Entry} (he : e ∈ c p) :
    t.directories.get? p = some (t.directory p) := by
  cases hd : t.directories.get? p with
  | some d => rw [directory_of_get?_eq_some hd]
  | none =>
      have hentries := (h p).1.entries_eq
      rw [directory_of_get?_eq_none hd, Directory.entries_empty] at hentries
      exact absurd (List.mem_toFinset.2 he) (hentries ▸ Finset.notMem_empty e)

theorem Lists.withDirectory_self (h : t.Lists allowed c) {e : Entry} (he : e ∈ c p) :
    t.withDirectory p (t.directory p) {} = t := by
  rw [Tree.withDirectory, Table.insert_of_get? (h.get?_directories he)]
  rfl

/-- A tree and its surroundings after some requests, each for any entry of any directory. -/
inductive Requested (probe : Probe σ) (t₀ : Tree) (s₀ : σ) : Tree → σ → Prop
  | start : Requested probe t₀ s₀ t₀ s₀
  | next {t : Tree} {s : σ} (before : Requested probe t₀ s₀ t s) (p : Place) (path : Location)
      (id : EntryId) {r : Reply σ}
      (hr : (t.directory p).entryFor (t.naming probe path) id s = r) :
      Requested probe t₀ s₀ (t.withDirectory p r.directory r.tally) r.state

theorem Requested.walk (h : Requested probe t₀ s₀ t s) (ids : List EntryId) (p : Place)
    (path : Location) :
    Requested probe t₀ s₀ (walk probe ids p path t s).tree (walk probe ids p path t s).state := by
  induction ids generalizing p path t s with
  | nil => exact h
  | cons id rest ih =>
      have hnext := h.next p path id rfl
      rw [Tree.walk]
      dsimp only
      split
      · exact ih hnext _ _
      · exact hnext

theorem Requested.allocateAll (h : Requested probe t₀ s₀ t s) (identifiers : List Identifier) :
    Requested probe t₀ s₀ (t.allocateAll probe identifiers s).2.1
      (t.allocateAll probe identifiers s).2.2 := by
  induction identifiers generalizing t s with
  | nil => exact h
  | cons i rest ih => exact ih (h.walk i.steps .root t.outputDir)

theorem Requested.arrives (h : Requested probe t₀ s₀ t s) {c₀ : Catalogue}
    (hc : t₀.Lists (t₀.settings.MayDecide probe s₀) c₀) : ∃ c, Arrives probe t₀ s₀ t s c := by
  induction h with
  | start => exact ⟨c₀, hc, .refl t₀, .here⟩
  | next before p path id hr ih =>
      obtain ⟨c, harrives⟩ := ih
      obtain ⟨v, _, _, hnext⟩ := harrives.request p path id hr
      exact ⟨_, hnext⟩

end Tree

end ClassLayout
