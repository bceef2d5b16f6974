import ClassLayout.Proofs.Directory.Entries
import Mathlib.Data.Finset.Union

namespace ClassLayout

/-- What a newcomer of this name adds to the counts of a listing. The second entry to meet at its
key opens a group there. -/
def Listing.tally (rules : Rules) (l : Listing) (id : EntryId) (name : Text) : Stats :=
  .ofKind id.kind +
    { virtualGroups := if (meeting rules l (fold (rules.plainName id))).length = 1 then 1 else 0
      disambiguated := if name = rules.plainName id then 0 else 1 }

theorem Listing.tally_eq (rules : Rules) (l : Listing) (id : EntryId) (name : Text) :
    tally rules l id name =
      { packages := if id.kind = .package then 1 else 0
        classes := if id.kind = .classFile then 1 else 0
        virtualGroups := if (meeting rules l (fold (rules.plainName id))).length = 1 then 1 else 0
        disambiguated := if name ≠ rules.plainName id then 1 else 0 } := by
  cases hk : id.kind <;> ext <;> simp [tally, Stats.ofKind, hk]

namespace Directory

def entriesMeeting (rules : Rules) (d : Directory) (key : Text) : Finset Entry :=
  d.entries.filter fun e => fold e.name = key ∨ fold (rules.plainName e.id) = key

def sharedKeys (rules : Rules) (d : Directory) : Finset Text :=
  (d.entries.biUnion fun e => {fold e.name, fold (rules.plainName e.id)}).filter fun key =>
    2 ≤ (d.entriesMeeting rules key).card

open Listing

variable {σ : Type} {naming : Naming σ} {rules : Rules} {allowed : CaseSensitivity → Prop}
  {d : Directory} {l : Listing} {id : EntryId} {s : σ}

theorem mem_sharedKeys {key : Text} :
    key ∈ d.sharedKeys rules ↔ 2 ≤ (d.entriesMeeting rules key).card := by
  rw [sharedKeys, Finset.mem_filter, and_iff_right_iff_imp]
  intro h
  obtain ⟨e, he⟩ := Finset.card_pos.1 (Nat.lt_of_lt_of_le Nat.zero_lt_two h)
  obtain ⟨hmem, hkey⟩ := Finset.mem_filter.1 he
  refine Finset.mem_biUnion.2 ⟨e, hmem, ?_⟩
  rcases hkey with rfl | rfl
  · simp
  · simp

theorem Lists.card_entriesMeeting (h : d.Lists rules allowed l) (hl : l.Sound rules) (key : Text) :
    (d.entriesMeeting rules key).card = (Listing.meeting rules l key).length := by
  have hnodup : (Listing.meeting rules l key).Nodup :=
    (List.Nodup.of_map _ hl.ids_nodup).filter _
  rw [← List.toFinset_card_of_nodup hnodup]
  congr 1
  ext e
  simp [entriesMeeting, h.entries_eq, Listing.mem_meeting]

theorem Lists.numberedName_ne (h : d.Lists rules allowed l) (hl : l.Sound rules)
    (ht : Takes l (fold (rules.plainName id))) (first : Nat) :
    d.numberedName rules id first ≠ rules.plainName id := by
  intro he
  rw [h.numberedName_eq hl] at he
  apply (leastFree_spec rules l id first).2
  rwa [he]

theorem Lists.tally_joinGroup (h : d.Lists naming.rules allowed l) (hl : l.Sound naming.rules)
    (ht : Takes l (fold (naming.rules.plainName id))) {g : Group}
    (hnone : g.members.get? id = none) (key : Text) :
    (d.joinGroup naming key g id s).tally =
      .ofKind id.kind +
        { disambiguated := if (d.joinGroup naming key g id s).entry.name =
            naming.rules.plainName id then 0 else 1 } := by
  by_cases hk : (g.keepsPlain naming (naming.rules.plainName id) s).1
  · rw [joinGroup_of_keepsPlain hnone hk, if_pos rfl]
    rfl
  · rw [joinGroup_of_not_keepsPlain hnone hk key rfl, if_neg (h.numberedName_ne hl ht _)]

theorem Lists.tally_entryFor (h : d.Lists naming.rules allowed l) (hl : l.Sound naming.rules)
    (hid : id ∉ l.map Entry.id) (s : σ) :
    (d.entryFor naming id s).tally =
      Listing.tally naming.rules l id (d.entryFor naming id s).entry.name := by
  have hkey := h (fold (naming.rules.plainName id))
  have htaken := hl.takes_iff (fold (naming.rules.plainName id))
  have hfind := find?_meeting naming.rules l id
  rw [find?_id_eq_none.2 hid] at hfind
  unfold Listing.tally
  cases hslot : d.index.get? (fold (naming.rules.plainName id)) with
  | none =>
      rw [hslot] at hkey
      rw [entryFor_of_vacant hslot, hkey.eq_nil, if_pos rfl]
      rfl
  | some slot =>
      rw [hslot] at hkey
      cases slot with
      | single first =>
          have hmeeting := hkey.eq_singleton
          rw [hmeeting] at hfind htaken ⊢
          have hother : first.id ≠ id := by simpa using hfind
          have hnone : (Group.around first).members.get? id = none := by
            rw [(Group.holds_around allowed first).get?_eq, hfind]
          rw [entryFor_of_other hslot hother]
          simp only [h.tally_joinGroup hl (htaken.2 (List.cons_ne_nil _ _)) hnone]
          ext
          · simp
          · simp
          · simp [Nat.add_comm]
          · simp
      | group g =>
          obtain ⟨hseveral, hg⟩ := hkey.of_group
          have hnone : g.members.get? id = none := by rw [hg.get?_eq, hfind]
          have hmore : (meeting naming.rules l (fold (naming.rules.plainName id))).length ≠ 1 := by
            omega
          rw [entryFor_of_group hslot, if_neg hmore]
          exact h.tally_joinGroup hl (htaken.2 (List.ne_nil_of_length_pos (by omega))) hnone _

end Directory

namespace Listing

variable {rules : Rules} {l : Listing} {id : EntryId} {name : Text}

/-- A newcomer makes a shared key of the one at which it is the second. No other key becomes one,
since a numbered name leads to a key where nobody is. -/
theorem Sound.two_le_meeting_concat (h : l.Sound rules)
    (hname : name = rules.plainName id ∨ ¬ Takes l (fold name)) (key : Text) :
    2 ≤ (meeting rules (l ++ [⟨id, name⟩]) key).length ↔
      2 ≤ (meeting rules l key).length ∨
        key = fold (rules.plainName id) ∧ (meeting rules l key).length = 1 := by
  by_cases hp : key = fold (rules.plainName id)
  · rw [meeting_concat_of_meets (e := ⟨id, name⟩) (.inr hp.symm), List.length_append,
      List.length_singleton, and_iff_right hp]
    omega
  · by_cases hn : key = fold name
    · have hfree : ¬ Takes l (fold name) := by
        rcases hname with rfl | hfree
        · exact absurd hn hp
        · exact hfree
      rw [h.takes_iff, not_not, ← hn] at hfree
      rw [meeting_concat_of_meets (e := ⟨id, name⟩) (.inl hn.symm), hfree]
      simp [hp]
    · rw [meeting_concat_of_not_meets (e := ⟨id, name⟩) (Ne.symm hn) (Ne.symm hp)]
      simp [hp]

end Listing

end ClassLayout
