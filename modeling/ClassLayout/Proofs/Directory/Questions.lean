import ClassLayout.Proofs.Directory.Entries

namespace ClassLayout

def Slot.verdict : Slot → CaseSensitivity
  | .single _ => .unknown
  | .group g => g.verdict

def Directory.verdict (d : Directory) (key : Text) : CaseSensitivity :=
  match d.index.get? key with
  | none => .unknown
  | some slot => slot.verdict

/-- A newcomer that meets others, none of which bears its very name. -/
def Listing.Contests (rules : Rules) (l : Listing) (id : EntryId) : Prop :=
  id ∉ l.map Entry.id ∧ Takes l (fold (rules.plainName id)) ∧
    ∀ e ∈ l, e.name ≠ rules.plainName id

def Naming.Asks {σ : Type} (naming : Naming σ) (d : Directory) (l : Listing) (id : EntryId) :
    Prop :=
  ¬ naming.forced.isKnown ∧ l.Contests naming.rules id ∧
    ¬ (d.verdict (fold (naming.rules.plainName id))).isKnown

/-- How a request heeds the volume: it puts no question and finds nothing out, or it puts one, whose
answer then stands under its key. -/
inductive Reply.Heeds {σ : Type} (r : Reply σ) (naming : Naming σ) (d : Directory) (key : Text)
    (s : σ) : Option CaseSensitivity → Prop
  | silent (state_eq : r.state = s)
      (verdict_eq : ∀ key', r.directory.verdict key' = d.verdict key') :
      r.Heeds naming d key s none
  | asked (state_eq : r.state = (naming.ask s).2)
      (verdict_eq : ∀ key', r.directory.verdict key' =
        if key' = key then (naming.ask s).1 else d.verdict key') :
      r.Heeds naming d key s (some (naming.ask s).1)

theorem Reply.Heeds.isKnown_iff {σ : Type} {r : Reply σ} {naming : Naming σ} {d : Directory}
    {key : Text} {s : σ} {answer : Option CaseSensitivity} (h : r.Heeds naming d key s answer)
    (hasks : answer.isSome → ¬ (d.verdict key).isKnown) (key' : Text) :
    (r.directory.verdict key').isKnown ↔
      (d.verdict key').isKnown ∨ key = key' ∧ ∃ v, answer = some v ∧ v.isKnown := by
  cases h with
  | silent _ hverdict =>
      rw [hverdict]
      simp
  | asked _ hverdict =>
      rw [hverdict]
      by_cases hkey : key' = key
      · subst key'
        simp [hasks rfl]
      · rw [if_neg hkey, or_iff_left]
        exact fun he => hkey he.1.symm

namespace Directory

open Listing

variable {σ : Type} {naming : Naming σ} {rules : Rules} {allowed : CaseSensitivity → Prop}
  {d : Directory} {l : Listing} {id : EntryId} {s : σ} {g : Group} {key : Text}

theorem verdict_of_vacant (h : d.index.get? key = none) : d.verdict key = .unknown := by
  simp only [verdict, h]

theorem verdict_of_slot {slot : Slot} (h : d.index.get? key = some slot) :
    d.verdict key = slot.verdict := by
  simp only [verdict, h]

theorem verdict_insert (index : Table Text Slot) (key key' : Text) (slot : Slot) :
    Directory.verdict ⟨index.insert key slot⟩ key' =
      if key' = key then slot.verdict else Directory.verdict ⟨index⟩ key' := by
  simp only [verdict, Table.get?_insert]
  by_cases hkey : key' = key
  · simp only [if_pos hkey]
  · simp only [if_neg hkey]

theorem Lists.verdict_of_not_takes (h : d.Lists rules allowed l) (hl : l.Sound rules)
    (hfree : ¬ Takes l key) : d.verdict key = .unknown := by
  have hnone := h.contains_eq hl key
  rw [decide_eq_false hfree, Table.contains, Option.isSome_eq_false_iff, Option.isNone_iff_eq_none]
    at hnone
  exact verdict_of_vacant hnone

theorem state_joinGroup (hnone : g.members.get? id = none) (key : Text) :
    (d.joinGroup naming key g id s).state =
      (g.keepsPlain naming (naming.rules.plainName id) s).2.2 := by
  by_cases hk : (g.keepsPlain naming (naming.rules.plainName id) s).1
  · rw [joinGroup_of_keepsPlain hnone hk]
  · rw [joinGroup_of_not_keepsPlain hnone hk key rfl]

theorem Lists.verdict_joinGroup (h : d.Lists naming.rules allowed l) (hl : l.Sound naming.rules)
    (hnone : g.members.get? id = none) (htaken : Takes l key) (key' : Text) :
    (d.joinGroup naming key g id s).directory.verdict key' =
      if key' = key then (g.keepsPlain naming (naming.rules.plainName id) s).2.1.verdict
      else d.verdict key' := by
  by_cases hk : (g.keepsPlain naming (naming.rules.plainName id) s).1
  · rw [joinGroup_of_keepsPlain hnone hk, verdict_insert]
    rfl
  · generalize hname : d.numberedName naming.rules id
      ((g.keepsPlain naming (naming.rules.plainName id) s).2.1.members.size + 1) = name
    rw [joinGroup_of_not_keepsPlain hnone hk key hname.symm, verdict_insert, verdict_insert]
    have hfree : ¬ Takes l (fold name) := by
      rw [← hname, h.numberedName_eq hl]
      exact (leastFree_spec _ _ _ _).2
    by_cases hkey : key' = fold name
    · have hne : key' ≠ key := by
        rintro rfl
        exact hfree (hkey ▸ htaken)
      rw [if_pos hkey, if_neg hne, hkey, h.verdict_of_not_takes hl hfree]
      rfl
    · rw [if_neg hkey]
      rfl

theorem asks_iff_of_group
    (hg : g.Holds allowed (meeting naming.rules l (fold (naming.rules.plainName id))))
    (hverdict : d.verdict (fold (naming.rules.plainName id)) = g.verdict)
    (htaken : Takes l (fold (naming.rules.plainName id))) (hid : id ∉ l.map Entry.id) :
    naming.Asks d l id ↔
      ¬ (g.holdsName (naming.rules.plainName id) ∨ naming.forced.isKnown ∨ g.verdict.isKnown) := by
  have hholds : ¬ g.holdsName (naming.rules.plainName id) ↔
      ∀ e ∈ meeting naming.rules l (fold (naming.rules.plainName id)),
        e.name ≠ naming.rules.plainName id := by
    rw [hg.holdsName_iff]
    push Not
    rfl
  unfold Naming.Asks Contests
  rw [← names_ne_iff_meeting naming.rules l (naming.rules.plainName id), ← hholds, hverdict,
    and_iff_right hid, and_iff_right htaken]
  tauto

theorem Lists.joinGroup_heeds (h : d.Lists naming.rules allowed l) (hl : l.Sound naming.rules)
    (hg : g.Holds allowed (meeting naming.rules l (fold (naming.rules.plainName id))))
    (hverdict : d.verdict (fold (naming.rules.plainName id)) = g.verdict)
    (htaken : Takes l (fold (naming.rules.plainName id))) (hid : id ∉ l.map Entry.id) (s : σ) :
    ∃ answer, (d.joinGroup naming (fold (naming.rules.plainName id)) g id s).Heeds naming d
        (fold (naming.rules.plainName id)) s answer ∧
      (answer.isSome ↔ naming.Asks d l id) := by
  have hnone : g.members.get? id = none := by
    rw [hg.get?_eq, find?_meeting, find?_id_eq_none]
    exact hid
  have hstate : (d.joinGroup naming (fold (naming.rules.plainName id)) g id s).state = _ :=
    state_joinGroup hnone (fold (naming.rules.plainName id))
  have hlater := h.verdict_joinGroup (s := s) hl hnone htaken
  rw [Group.keepsPlain_snd] at hstate hlater
  rw [asks_iff_of_group hg hverdict htaken hid]
  by_cases hdecided : g.holdsName (naming.rules.plainName id) ∨ naming.forced.isKnown ∨
      g.verdict.isKnown
  · rw [if_pos hdecided] at hstate hlater
    refine ⟨none, .silent hstate ?_, by simp [hdecided]⟩
    intro key'
    rw [hlater]
    split
    · rename_i hkey
      rw [hkey, hverdict]
    · rfl
  · rw [if_neg hdecided] at hstate hlater
    exact ⟨_, .asked hstate hlater, by simp [hdecided]⟩

theorem entryFor_heeds_vacant (hslot : d.index.get? (fold (naming.rules.plainName id)) = none)
    (hfree : ¬ Takes l (fold (naming.rules.plainName id))) (s : σ) :
    (d.entryFor naming id s).Heeds naming d (fold (naming.rules.plainName id)) s none ∧
      ¬ naming.Asks d l id := by
  rw [entryFor_of_vacant hslot]
  refine ⟨.silent rfl ?_, fun hasks => hfree hasks.2.1.2.1⟩
  intro key'
  rw [verdict_insert]
  split
  · rename_i hkey
    rw [hkey, verdict_of_vacant hslot]
    rfl
  · rfl

/-- A request asks at most once, and just where it contests names with the matter still open. -/
theorem Lists.entryFor_heeds (h : d.Lists naming.rules allowed l) (hl : l.Sound naming.rules)
    (id : EntryId) (s : σ) :
    ∃ answer, (d.entryFor naming id s).Heeds naming d (fold (naming.rules.plainName id)) s answer ∧
      (answer.isSome ↔ naming.Asks d l id) := by
  by_cases hid : id ∈ l.map Entry.id
  · obtain ⟨e, he, rfl⟩ := List.mem_map.1 hid
    rw [h.entryFor_of_mem hl he]
    refine ⟨none, .silent rfl fun _ => rfl, ?_⟩
    simp [Naming.Asks, Contests, hid]
  · have hkey := h (fold (naming.rules.plainName id))
    have htaken := hl.takes_iff (fold (naming.rules.plainName id))
    have hfind := find?_meeting naming.rules l id
    rw [find?_id_eq_none.2 hid] at hfind
    cases hslot : d.index.get? (fold (naming.rules.plainName id)) with
    | none =>
        rw [hslot] at hkey
        rw [hkey.eq_nil] at htaken
        obtain ⟨hheeds, hnever⟩ := entryFor_heeds_vacant hslot (fun hk => htaken.1 hk rfl) s
        exact ⟨none, hheeds, by simp [hnever]⟩
    | some slot =>
        rw [hslot] at hkey
        have hverdict := verdict_of_slot hslot
        cases slot with
        | single first =>
            have hmeeting := hkey.eq_singleton
            have hother : first.id ≠ id := by simpa [hmeeting] using hfind
            obtain ⟨answer, hheeds, hasks⟩ := h.joinGroup_heeds hl
              (by rw [hmeeting]; exact Group.holds_around allowed first) hverdict
              (htaken.2 (by rw [hmeeting]; exact List.cons_ne_nil _ _)) hid s
            rw [entryFor_of_other hslot hother]
            refine ⟨answer, ?_, hasks⟩
            cases hheeds with
            | silent hstate hlater => exact .silent hstate hlater
            | asked hstate hlater => exact .asked hstate hlater
        | group g =>
            obtain ⟨hseveral, hg⟩ := hkey.of_group
            rw [entryFor_of_group hslot]
            exact h.joinGroup_heeds hl hg hverdict
              (htaken.2 (List.ne_nil_of_length_pos (by omega))) hid s

end Directory

end ClassLayout
