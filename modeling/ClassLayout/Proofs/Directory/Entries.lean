import ClassLayout.Proofs.Directory.Index
import Mathlib.Data.Finset.Card

namespace ClassLayout

def Slot.entries : Slot → List Entry
  | .single e => [e]
  | .group g => g.members.values

namespace Listing

theorem Sound.eq_of_id_eq {rules : Rules} {l : Listing} (h : l.Sound rules) {e e' : Entry}
    (he : e ∈ l) (he' : e' ∈ l) (hid : e.id = e'.id) : e = e' :=
  List.inj_on_of_nodup_map h.ids_nodup he he' hid

theorem Sound.find?_eq_some {rules : Rules} {l : Listing} (h : l.Sound rules) {e : Entry}
    (he : e ∈ l) : l.find? (·.id = e.id) = some e := by
  cases hf : l.find? (·.id = e.id) with
  | none => exact absurd (List.mem_map_of_mem he) (find?_id_eq_none.1 hf)
  | some e' =>
      have hid : e'.id = e.id := by simpa using List.find?_some hf
      rw [h.eq_of_id_eq (List.mem_of_find?_eq_some hf) he hid]

end Listing

namespace Directory

def under (d : Directory) (key : Text) : List Entry :=
  match d.index.get? key with
  | none => []
  | some slot => slot.entries

def entries (d : Directory) : Finset Entry := (d.index.keys.flatMap d.under).toFinset

variable {σ : Type} {naming : Naming σ} {rules : Rules} {allowed : CaseSensitivity → Prop}
  {d : Directory} {l : Listing}

theorem Lists.under_eq (h : d.Lists rules allowed l) (key : Text) :
    d.under key = Listing.meeting rules l key := by
  have hk := h key
  unfold under
  generalize d.index.get? key = slot at hk
  generalize Listing.meeting rules l key = m at hk
  cases hk with
  | vacant => rfl
  | single e => rfl
  | group _ holds => simp [Slot.entries, Table.values, holds.members, Function.comp_def]

theorem mem_keys_of_mem_under {e : Entry} {key : Text} (h : e ∈ d.under key) :
    key ∈ d.index.keys := by
  rw [← Table.contains_iff_mem_keys, Table.contains]
  unfold under at h
  cases hk : d.index.get? key with
  | none =>
      rw [hk] at h
      cases h
  | some slot => rfl

theorem mem_entries {e : Entry} : e ∈ d.entries ↔ ∃ key, e ∈ d.under key := by
  rw [entries, List.mem_toFinset, List.mem_flatMap]
  constructor
  · rintro ⟨key, _, he⟩
    exact ⟨key, he⟩
  · rintro ⟨key, he⟩
    exact ⟨key, mem_keys_of_mem_under he, he⟩

theorem entries_empty : Directory.entries {} = ∅ := rfl

theorem Lists.entries_eq (h : d.Lists rules allowed l) : d.entries = l.toFinset := by
  ext e
  rw [mem_entries, List.mem_toFinset]
  constructor
  · rintro ⟨key, he⟩
    rw [h.under_eq] at he
    exact (Listing.mem_meeting.1 he).1
  · intro he
    refine ⟨fold e.name, ?_⟩
    rw [h.under_eq]
    exact Listing.mem_meeting.2 ⟨he, .inl rfl⟩

theorem Lists.card_entries (h : d.Lists rules allowed l) (hl : l.Sound rules) :
    d.entries.card = l.length := by
  rw [h.entries_eq]
  exact List.toFinset_card_of_nodup (List.Nodup.of_map _ hl.ids_nodup)

/-- Whatever the probe, an entry that is listed is found under its own key, and nothing is asked. -/
theorem Lists.entryFor_of_mem (h : d.Lists naming.rules allowed l) (hl : l.Sound naming.rules)
    {e : Entry} (he : e ∈ l) (s : σ) :
    d.entryFor naming e.id s = { entry := e, directory := d, tally := {}, state := s } := by
  have hmeets : e ∈ Listing.meeting naming.rules l (fold (naming.rules.plainName e.id)) :=
    Listing.mem_meeting.2 ⟨he, .inr rfl⟩
  have hkey := h (fold (naming.rules.plainName e.id))
  cases hslot : d.index.get? (fold (naming.rules.plainName e.id)) with
  | none =>
      rw [hslot] at hkey
      rw [hkey.eq_nil] at hmeets
      cases hmeets
  | some slot =>
      rw [hslot] at hkey
      cases slot with
      | single first =>
          rw [hkey.eq_singleton, List.mem_singleton] at hmeets
          subst first
          exact entryFor_of_own hslot rfl
      | group g =>
          rw [entryFor_of_group hslot]
          apply joinGroup_of_mem
          rw [hkey.of_group.2.get?_eq, Listing.find?_meeting, hl.find?_eq_some he]

end Directory

end ClassLayout
