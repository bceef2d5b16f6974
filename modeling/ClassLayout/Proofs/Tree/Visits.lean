import ClassLayout.Proofs.Tree.Catalogue
import Mathlib.Data.Finset.Basic

namespace ClassLayout

/-- The entries passed on a way down, each with the place of its directory. -/
def visits : Place → List EntryId → List (Place × EntryId)
  | _, [] => []
  | p, id :: rest => (p, id) :: visits (p.child id.segment) rest

def Catalogue.Holds (c : Catalogue) (kind : Kind) (name : List Text) : Prop :=
  ∃ q, ∃ id ∈ (c q).map Entry.id, id.kind = kind ∧ q.toList ++ [id.segment] = name

def Identifier.enclosingPackages (i : Identifier) : Finset (List Text) :=
  i.segments.inits.toFinset.filter fun name => name ≠ [] ∧ name ≠ i.segments

variable {rules : Rules} {allowed : CaseSensitivity → Prop} {p q : Place} {id : EntryId}

theorem mem_visits {package : List Text} {className : Text} :
    (q, id) ∈ visits p (package.map (⟨·, .package⟩) ++ [⟨className, .classFile⟩]) ↔
      (id.kind = .package ∧
        ∃ before, q.toList = p.toList ++ before ∧ before ++ [id.segment] <+: package) ∨
      (id = ⟨className, .classFile⟩ ∧ q.toList = p.toList ++ package) := by
  induction package generalizing p with
  | nil =>
      simp only [List.map_nil, List.nil_append, visits, List.mem_singleton, Prod.mk.injEq,
        List.append_nil, List.prefix_nil]
      constructor
      · rintro ⟨rfl, rfl⟩
        exact .inr ⟨rfl, rfl⟩
      · rintro (⟨_, before, _, he⟩ | ⟨rfl, hq⟩)
        · exact absurd he (by simp)
        · exact ⟨Place.toList_injective hq, rfl⟩
  | cons segment rest ih =>
      simp only [List.map_cons, List.cons_append, visits, List.mem_cons, Prod.mk.injEq, ih,
        Place.toList_child, List.append_assoc]
      constructor
      · rintro (⟨rfl, rfl⟩ | ⟨hk, before, hq, hp⟩ | ⟨rfl, hq⟩)
        · exact .inl ⟨rfl, [], by simp, by simp⟩
        · exact .inl ⟨hk, segment :: before, hq, by simpa using hp⟩
        · exact .inr ⟨rfl, hq⟩
      · rintro (⟨hk, before, hq, hp⟩ | ⟨rfl, hq⟩)
        · cases before with
          | nil =>
              have hs : id.segment = segment := by simpa using hp
              exact .inl ⟨Place.toList_injective (by simpa using hq), EntryId.ext hs hk⟩
          | cons first before =>
              obtain ⟨rfl, hrest⟩ := List.cons_prefix_cons.1 hp
              exact .inr (.inl ⟨hk, before, hq, hrest⟩)
        · exact .inr (.inr ⟨rfl, hq⟩)

theorem Identifier.mem_visits_steps (i : Identifier) :
    (q, id) ∈ visits .root i.steps ↔
      (id.kind = .package ∧ q.toList ++ [id.segment] <+: i.package) ∨
      (id.kind = .classFile ∧ q.toList ++ [id.segment] = i.segments) := by
  rw [steps, mem_visits]
  apply or_congr
  · simp
  · constructor
    · rintro ⟨rfl, hq⟩
      refine ⟨rfl, ?_⟩
      rw [hq]
      rfl
    · rintro ⟨hk, hq⟩
      obtain ⟨hp, hs⟩ := List.append_inj' hq rfl
      exact ⟨EntryId.ext (List.singleton_injective hs) hk, hp⟩

theorem Identifier.mem_enclosingPackages {i : Identifier} {name : List Text} :
    name ∈ i.enclosingPackages ↔ name ≠ [] ∧ name <+: i.package := by
  rw [enclosingPackages, Finset.mem_filter, List.mem_toFinset, List.mem_inits, segments,
    List.prefix_concat_iff]
  constructor
  · rintro ⟨he | hp, hne, hother⟩
    · exact absurd he hother
    · exact ⟨hne, hp⟩
  · rintro ⟨hne, hp⟩
    refine ⟨.inr hp, hne, ?_⟩
    rintro rfl
    have := hp.length_le
    simp at this

namespace Listing

theorem mem_ids_entryFor (rules : Rules) (v : CaseSensitivity) (l : Listing) (id id' : EntryId) :
    id' ∈ (entryFor rules v l id).2.map Entry.id ↔ id' ∈ l.map Entry.id ∨ id' = id := by
  simp only [List.mem_map, mem_entryFor]
  constructor
  · rintro ⟨e, he | rfl, rfl⟩
    · exact .inl ⟨e, he, rfl⟩
    · exact .inr (entryFor_id rules v l id)
  · rintro (⟨e, he, rfl⟩ | rfl)
    · exact ⟨e, .inl he, rfl⟩
    · exact ⟨_, .inr rfl, entryFor_id rules v l id'⟩

end Listing

namespace Catalogue

variable {c c' : Catalogue} {ids : List EntryId} {names : List Text}
  {identifiers : List Identifier} {given : List (List Text)}

theorem Walks.mem_ids_iff (h : Walks rules allowed ids p c names c') :
    id ∈ (c' q).map Entry.id ↔ id ∈ (c q).map Entry.id ∨ (q, id) ∈ visits p ids := by
  induction h with
  | nil => simp [visits]
  | @cons first rest p c c' names v hv tail ih =>
      rw [ih, visits, List.mem_cons, Prod.mk.injEq, ← or_assoc]
      apply or_congr_left
      by_cases hq : q = p
      · subst q
        rw [Function.update_self, Listing.mem_ids_entryFor, and_iff_right rfl]
      · rw [Function.update_of_ne hq, or_iff_left fun he => hq he.1]

theorem Runs.mem_ids_iff (h : Runs rules allowed identifiers c given c') :
    id ∈ (c' q).map Entry.id ↔
      id ∈ (c q).map Entry.id ∨ ∃ i ∈ identifiers, (q, id) ∈ visits .root i.steps := by
  induction h with
  | nil => simp
  | cons walk _ ih => rw [ih, walk.mem_ids_iff, or_assoc, List.exists_mem_cons_iff]

theorem Runs.mem_ids_iff_of_empty (h : Runs rules allowed identifiers .empty given c) (q : Place)
    (id : EntryId) :
    id ∈ (c q).map Entry.id ↔ ∃ i ∈ identifiers,
      (id.kind = .package ∧ q.toList ++ [id.segment] <+: i.package) ∨
      (id.kind = .classFile ∧ q.toList ++ [id.segment] = i.segments) := by
  have hempty : id ∉ (empty q).map Entry.id := List.not_mem_nil
  rw [h.mem_ids_iff, or_iff_right hempty]
  simp only [Identifier.mem_visits_steps]

theorem Runs.holds_classFile_iff (h : Runs rules allowed identifiers .empty given c)
    (name : List Text) : c.Holds .classFile name ↔ ∃ i ∈ identifiers, i.segments = name := by
  constructor
  · rintro ⟨q, id, hid, hk, rfl⟩
    obtain ⟨i, hi, ⟨hp, _⟩ | ⟨_, hq⟩⟩ := (h.mem_ids_iff_of_empty q id).1 hid
    · exact absurd (hk.symm.trans hp) Kind.noConfusion
    · exact ⟨i, hi, hq.symm⟩
  · rintro ⟨i, hi, rfl⟩
    have hname : (Place.ofList i.package).toList ++ [i.className] = i.segments := by
      rw [Place.toList_ofList]
      rfl
    refine ⟨.ofList i.package, ⟨i.className, .classFile⟩, ?_, rfl, hname⟩
    exact (h.mem_ids_iff_of_empty _ _).2 ⟨i, hi, .inr ⟨rfl, hname⟩⟩

theorem Runs.holds_package_iff (h : Runs rules allowed identifiers .empty given c)
    (name : List Text) :
    c.Holds .package name ↔ ∃ i ∈ identifiers, name ∈ i.enclosingPackages := by
  simp only [Identifier.mem_enclosingPackages]
  constructor
  · rintro ⟨q, id, hid, hk, rfl⟩
    obtain ⟨i, hi, ⟨_, hp⟩ | ⟨hc, _⟩⟩ := (h.mem_ids_iff_of_empty q id).1 hid
    · exact ⟨i, hi, List.append_ne_nil_of_right_ne_nil _ (List.cons_ne_nil _ _), hp⟩
    · exact absurd (hk.symm.trans hc) Kind.noConfusion
  · rintro ⟨i, hi, hne, hp⟩
    obtain ⟨before, last, rfl⟩ := (List.eq_nil_or_concat name).resolve_left hne
    rw [List.concat_eq_append] at hp ⊢
    have hname : (Place.ofList before).toList ++ [last] = before ++ [last] := by
      rw [Place.toList_ofList]
    refine ⟨.ofList before, ⟨last, .package⟩, ?_, rfl, hname⟩
    rw [h.mem_ids_iff_of_empty]
    exact ⟨i, hi, .inl ⟨rfl, hname ▸ hp⟩⟩

end Catalogue

end ClassLayout
