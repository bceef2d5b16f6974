import ClassLayout.Proofs.Directory.Listing
import ClassLayout.Tree
import Mathlib.Data.List.Forall2
import Mathlib.Logic.Function.Basic

namespace ClassLayout

abbrev Catalogue := Place → Listing

namespace Catalogue

def empty : Catalogue := fun _ => []

/-- The way down from a package through some entries, with the names met on it. Each newcomer is
decided on some allowed verdict. -/
inductive Walks (rules : Rules) (allowed : CaseSensitivity → Prop) :
    List EntryId → Place → Catalogue → List Text → Catalogue → Prop where
  | nil (p : Place) (c : Catalogue) : Walks rules allowed [] p c [] c
  | cons {id : EntryId} {rest : List EntryId} {p : Place} {c c' : Catalogue} {names : List Text}
      (v : CaseSensitivity) (hv : allowed v)
      (tail : Walks rules allowed rest (p.child id.segment)
        (Function.update c p (Listing.entryFor rules v (c p) id).2) names c') :
      Walks rules allowed (id :: rest) p c ((Listing.entryFor rules v (c p) id).1.name :: names) c'

inductive Runs (rules : Rules) (allowed : CaseSensitivity → Prop) :
    List Identifier → Catalogue → List (List Text) → Catalogue → Prop where
  | nil (c : Catalogue) : Runs rules allowed [] c [] c
  | cons {i : Identifier} {rest : List Identifier} {c c' c'' : Catalogue} {names : List Text}
      {given : List (List Text)} (walk : Walks rules allowed i.steps .root c names c')
      (tail : Runs rules allowed rest c' given c'') :
      Runs rules allowed (i :: rest) c (names :: given) c''

/-- The names are the ones under which the entries on the way down are listed. -/
inductive Spells (c : Catalogue) : Place → List EntryId → List Text → Prop where
  | nil (p : Place) : Spells c p [] []
  | cons {p : Place} {id : EntryId} {rest : List EntryId} {name : Text} {names : List Text}
      (listed : ⟨id, name⟩ ∈ c p) (tail : Spells c (p.child id.segment) rest names) :
      Spells c p (id :: rest) (name :: names)

def walk (rules : Rules) (verdict : CaseSensitivity) :
    List EntryId → Place → Catalogue → List Text × Catalogue
  | [], _, c => ([], c)
  | id :: rest, p, c =>
      let (entry, l) := Listing.entryFor rules verdict (c p) id
      let (names, c) := walk rules verdict rest (p.child id.segment) (Function.update c p l)
      (entry.name :: names, c)

def pathsFor (rules : Rules) (verdict : CaseSensitivity) (outputDir : Location) :
    List Identifier → Catalogue → List Location
  | [], _ => []
  | i :: rest, c =>
      let (names, c) := walk rules verdict i.steps .root c
      outputDir.joinAll names :: pathsFor rules verdict outputDir rest c

variable {rules : Rules} {allowed : CaseSensitivity → Prop} {ids : List EntryId} {p : Place}
  {c c' : Catalogue} {names : List Text} {identifiers : List Identifier}
  {given : List (List Text)}

theorem update_cases {P : Listing → Prop} {l : Listing} (hl : P l) (h : ∀ q, P (c q)) (q : Place) :
    P (Function.update c p l q) := by
  by_cases hq : q = p
  · subst q
    rwa [Function.update_self]
  · rw [Function.update_of_ne hq]
    exact h q

theorem Walks.all {P : Listing → Prop}
    (step : ∀ l v id, allowed v → P l → P (Listing.entryFor rules v l id).2)
    (h : Walks rules allowed ids p c names c') (hc : ∀ q, P (c q)) (q : Place) : P (c' q) := by
  induction h with
  | nil => exact hc q
  | cons v hv _ ih => exact ih (update_cases (step _ v _ hv (hc _)) hc)

theorem Runs.all {P : Listing → Prop}
    (step : ∀ l v id, allowed v → P l → P (Listing.entryFor rules v l id).2)
    (h : Runs rules allowed identifiers c given c') (hc : ∀ q, P (c q)) (q : Place) :
    P (c' q) := by
  induction h with
  | nil => exact hc q
  | cons walk _ ih => exact ih (walk.all step hc)

theorem Walks.mono (h : Walks rules allowed ids p c names c') {e : Entry} {q : Place}
    (he : e ∈ c q) : e ∈ c' q := by
  induction h with
  | nil => exact he
  | @cons id rest p c c' names v hv tail ih =>
      apply ih
      by_cases hq : q = p
      · subst q
        rw [Function.update_self]
        exact Listing.mem_entryFor.2 (.inl he)
      · rwa [Function.update_of_ne hq]

theorem Runs.mono (h : Runs rules allowed identifiers c given c') {e : Entry} {q : Place}
    (he : e ∈ c q) : e ∈ c' q := by
  induction h with
  | nil => exact he
  | cons walk _ ih => exact ih (walk.mono he)

theorem Spells.mono (hc : ∀ q e, e ∈ c q → e ∈ c' q) (h : Spells c p ids names) :
    Spells c' p ids names := by
  induction h with
  | nil p => exact .nil p
  | cons listed _ ih => exact .cons (hc _ _ listed) ih

theorem Walks.spells (h : Walks rules allowed ids p c names c') : Spells c' p ids names := by
  induction h with
  | nil p => exact .nil p
  | @cons id rest p c c' names v hv tail ih =>
      refine .cons (tail.mono ?_) ih
      have he := Listing.entryFor_id rules v (c p) id
      rw [Function.update_self, Listing.mem_entryFor]
      right
      rw [Entry.mk.injEq]
      exact ⟨he.symm, rfl⟩

/-- Whatever is allocated later, the names of an identifier stay listed. -/
theorem Runs.spells (h : Runs rules allowed identifiers c given c') :
    List.Forall₂ (fun i names => Spells c' .root i.steps names) identifiers given := by
  induction h with
  | nil => exact .nil
  | cons walk tail ih => exact .cons (walk.spells.mono fun _ _ => tail.mono) ih

theorem Runs.exists_names (h : Runs rules allowed identifiers c given c') {i : Identifier}
    (hi : i ∈ identifiers) : ∃ names ∈ given, Spells c' .root i.steps names := by
  obtain ⟨k, hk, rfl⟩ := List.getElem_of_mem hi
  have hk' : k < given.length := by rwa [← h.spells.length_eq]
  exact ⟨given[k], List.getElem_mem hk', h.spells.get hk hk'⟩

theorem Runs.exists_identifier (h : Runs rules allowed identifiers c given c')
    (hn : names ∈ given) : ∃ i ∈ identifiers, Spells c' .root i.steps names := by
  obtain ⟨k, hk, rfl⟩ := List.getElem_of_mem hn
  have hk' : k < identifiers.length := by rwa [h.spells.length_eq]
  exact ⟨identifiers[k], List.getElem_mem hk', h.spells.get hk' hk⟩

theorem Walks.mem_cases (h : Walks rules allowed ids p c names c') {e : Entry} {q : Place}
    (he : e ∈ c' q) : e ∈ c q ∨ e.name ∈ names := by
  induction h with
  | nil => exact .inl he
  | @cons id rest p c c' names v hv tail ih =>
      rcases ih he with he | he
      · by_cases hq : q = p
        · subst q
          rw [Function.update_self] at he
          rcases Listing.mem_entryFor.1 he with he | rfl
          · exact .inl he
          · exact .inr List.mem_cons_self
        · rw [Function.update_of_ne hq] at he
          exact .inl he
      · exact .inr (List.mem_cons_of_mem _ he)

theorem Runs.mem_cases (h : Runs rules allowed identifiers c given c') {e : Entry} {q : Place}
    (he : e ∈ c' q) : e ∈ c q ∨ ∃ names ∈ given, e.name ∈ names := by
  induction h with
  | nil => exact .inl he
  | cons walk _ ih =>
      rcases ih he with he | ⟨names, hn, he⟩
      · rcases walk.mem_cases he with he | he
        · exact .inl he
        · exact .inr ⟨_, List.mem_cons_self, he⟩
      · exact .inr ⟨names, List.mem_cons_of_mem _ hn, he⟩

theorem Walks.walk_eq {verdict : CaseSensitivity} (only : ∀ v, allowed v → v = verdict)
    (h : Walks rules allowed ids p c names c') : walk rules verdict ids p c = (names, c') := by
  induction h with
  | nil => rfl
  | cons v hv _ ih =>
      obtain rfl := only v hv
      simp only [walk, ih]

theorem Runs.pathsFor_eq {verdict : CaseSensitivity} (only : ∀ v, allowed v → v = verdict)
    (h : Runs rules allowed identifiers c given c') (outputDir : Location) :
    pathsFor rules verdict outputDir identifiers c = given.map (outputDir.joinAll) := by
  induction h with
  | nil => rfl
  | cons walk _ ih => simp only [pathsFor, walk.walk_eq only, ih, List.map_cons]

theorem Spells.length_eq (h : Spells c p ids names) : names.length = ids.length := by
  induction h with
  | nil => rfl
  | cons _ _ ih => rw [List.length_cons, List.length_cons, ih]

theorem Spells.exists_listed (h : Spells c p ids names) {name : Text} (hn : name ∈ names) :
    ∃ id ∈ ids, ∃ q, ⟨id, name⟩ ∈ c q := by
  induction h with
  | nil => exact absurd hn List.not_mem_nil
  | @cons p id rest first names listed _ ih =>
      rcases List.mem_cons.1 hn with rfl | hn
      · exact ⟨id, List.mem_cons_self, p, listed⟩
      · obtain ⟨id', hid, q, hq⟩ := ih hn
        exact ⟨id', List.mem_cons_of_mem _ hid, q, hq⟩

theorem Spells.exists_name (h : Spells c p ids names) {id : EntryId} (hid : id ∈ ids) :
    ∃ name ∈ names, ∃ q, ⟨id, name⟩ ∈ c q := by
  induction h with
  | nil => exact absurd hid List.not_mem_nil
  | @cons p first rest name names listed _ ih =>
      rcases List.mem_cons.1 hid with rfl | hid
      · exact ⟨name, List.mem_cons_self, p, listed⟩
      · obtain ⟨name', hn, q, hq⟩ := ih hid
        exact ⟨name', List.mem_cons_of_mem _ hn, q, hq⟩

end Catalogue

end ClassLayout
