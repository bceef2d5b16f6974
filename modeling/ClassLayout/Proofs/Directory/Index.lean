import ClassLayout.Proofs.Directory.Listing

namespace ClassLayout

def Group.withMember (g : Group) (e : Entry) : Group :=
  { g with members := g.members.insert e.id e }

structure Group.Holds (allowed : CaseSensitivity → Prop) (g : Group) (l : Listing) : Prop where
  members : g.members.pairs = l.map fun e => (e.id, e)
  verdict : g.verdict.isKnown → allowed g.verdict

/-- What stands under a key where the entries of a list met. -/
inductive Slot.Holds (allowed : CaseSensitivity → Prop) : Option Slot → Listing → Prop where
  | vacant : Slot.Holds allowed none []
  | single (e : Entry) : Slot.Holds allowed (some (.single e)) [e]
  | group {g : Group} {l : Listing} (several : 2 ≤ l.length) (holds : g.Holds allowed l) :
      Slot.Holds allowed (some (.group g)) l

theorem Slot.Holds.eq_nil {allowed : CaseSensitivity → Prop} {l : Listing}
    (h : Slot.Holds allowed none l) : l = [] := by
  cases h
  rfl

theorem Slot.Holds.eq_singleton {allowed : CaseSensitivity → Prop} {e : Entry} {l : Listing}
    (h : Slot.Holds allowed (some (.single e)) l) : l = [e] := by
  cases h
  rfl

theorem Slot.Holds.of_group {allowed : CaseSensitivity → Prop} {g : Group} {l : Listing}
    (h : Slot.Holds allowed (some (.group g)) l) : 2 ≤ l.length ∧ g.Holds allowed l := by
  cases h with
  | group several holds => exact ⟨several, holds⟩

/-- Under each key of the index stand the entries that met there. -/
def Directory.Lists (rules : Rules) (allowed : CaseSensitivity → Prop) (d : Directory)
    (l : Listing) : Prop :=
  ∀ key, Slot.Holds allowed (d.index.get? key) (Listing.meeting rules l key)

/-- A reply is the one the listing gives, decided on some allowed verdict. -/
def Reply.Follows {σ : Type} (r : Reply σ) (rules : Rules) (allowed : CaseSensitivity → Prop)
    (l : Listing) (id : EntryId) : Prop :=
  ∃ v, allowed v ∧ r.entry = (Listing.entryFor rules v l id).1 ∧
    r.directory.Lists rules allowed (Listing.entryFor rules v l id).2

/-- The verdict on a newcomer would be an allowed one: the one forced, or the answer given now. -/
def Naming.Decides {σ : Type} (naming : Naming σ) (allowed : CaseSensitivity → Prop) (s : σ) :
    Prop :=
  if naming.forced.isKnown then allowed naming.forced else allowed (naming.ask s).1

variable {σ : Type} {naming : Naming σ} {rules : Rules} {allowed : CaseSensitivity → Prop}
  {d : Directory} {l : Listing} {id : EntryId} {s : σ}

theorem Naming.Decides.exists_allowed (h : naming.Decides allowed s) : ∃ v, allowed v := by
  unfold Naming.Decides at h
  split at h
  · exact ⟨_, h⟩
  · exact ⟨_, h⟩

namespace Table

theorem find_map_id (l : Listing) (id : EntryId) :
    find id (l.map fun e => (e.id, e)) = l.find? (·.id = id) := by
  induction l with
  | nil => rfl
  | cons e l ih =>
      by_cases he : e.id = id
      · simp [find, he]
      · simpa [find, he] using ih

theorem put_map_id {e : Entry} (h : e.id ∉ l.map Entry.id) :
    put e.id e (l.map fun e => (e.id, e)) = (l ++ [e]).map fun e => (e.id, e) := by
  induction l with
  | nil => rfl
  | cons x l ih =>
      simp only [List.map_cons, List.mem_cons, not_or] at h
      simp only [List.map_cons, put, if_neg (Ne.symm h.1), ih h.2, List.cons_append]

end Table

namespace Group

variable {g : Group}

theorem Holds.get?_eq (h : g.Holds allowed l) (id : EntryId) :
    g.members.get? id = l.find? (·.id = id) := by
  rw [Table.get?, h.members, Table.find_map_id]

theorem Holds.size_eq (h : g.Holds allowed l) : g.members.size = l.length := by
  rw [Table.size, h.members, List.length_map]

theorem Holds.holdsName_iff (h : g.Holds allowed l) (name : Text) :
    g.holdsName name ↔ ∃ e ∈ l, e.name = name := by
  simp [holdsName, Table.values, h.members]

theorem Holds.withMember (h : g.Holds allowed l) {e : Entry} (he : e.id ∉ l.map Entry.id) :
    (g.withMember e).Holds allowed (l ++ [e]) where
  members := by
    simp only [Group.withMember, Table.insert, h.members]
    exact Table.put_map_id he
  verdict := h.verdict

theorem holds_around (allowed : CaseSensitivity → Prop) (e : Entry) :
    (around e).Holds allowed [e] where
  members := rfl
  verdict := fun h => absurd h Bool.false_ne_true

theorem Holds.isSensitive (h : g.Holds allowed l) (hs : naming.Decides allowed s) :
    ∃ v, allowed v ∧ (g.isSensitive naming s).1 = v.isSensitive ∧
      (g.isSensitive naming s).2.1.Holds allowed l := by
  unfold Naming.Decides at hs
  unfold Group.isSensitive
  by_cases hf : naming.forced.isKnown
  · rw [if_pos hf] at hs ⊢
    exact ⟨_, hs, rfl, h⟩
  · rw [if_neg hf] at hs ⊢
    by_cases hg : g.verdict.isKnown
    · rw [if_pos hg]
      exact ⟨_, h.verdict hg, rfl, h⟩
    · rw [if_neg hg]
      exact ⟨_, hs, rfl, h.members, fun _ => hs⟩

theorem Holds.keepsPlain (h : g.Holds allowed l) (hs : naming.Decides allowed s) (name : Text) :
    ∃ v, allowed v ∧
      ((g.keepsPlain naming name s).1 ↔ v = .sensitive ∧ ∀ e ∈ l, e.name ≠ name) ∧
      (g.keepsPlain naming name s).2.1.Holds allowed l := by
  unfold Group.keepsPlain
  by_cases hn : g.holdsName name
  · rw [if_pos hn]
    obtain ⟨v, hv⟩ := hs.exists_allowed
    obtain ⟨e, he, hname⟩ := (h.holdsName_iff name).1 hn
    refine ⟨v, hv, ?_, h⟩
    constructor
    · exact fun hk => absurd hk Bool.false_ne_true
    · exact fun hk => absurd hname (hk.2 e he)
  · rw [if_neg hn]
    obtain ⟨v, hv, hk, hg⟩ := h.isSensitive hs
    refine ⟨v, hv, ?_, hg⟩
    have hfree : ∀ e ∈ l, e.name ≠ name := by
      intro e he hname
      exact hn ((h.holdsName_iff name).2 ⟨e, he, hname⟩)
    rw [hk, CaseSensitivity.isSensitive, beq_iff_eq]
    exact ⟨fun hv => ⟨hv, hfree⟩, fun hv => hv.1⟩

theorem keepsPlain_snd (naming : Naming σ) (g : Group) (name : Text) (s : σ) :
    (g.keepsPlain naming name s).2 =
      if g.holdsName name ∨ naming.forced.isKnown ∨ g.verdict.isKnown then (g, s)
      else ({ g with verdict := (naming.ask s).1 }, (naming.ask s).2) := by
  unfold Group.keepsPlain Group.isSensitive
  by_cases hn : g.holdsName name
  · rw [if_pos hn, if_pos (.inl hn)]
  · by_cases hf : naming.forced.isKnown
    · rw [if_neg hn, if_pos hf, if_pos (.inr (.inl hf))]
    · by_cases hg : g.verdict.isKnown
      · rw [if_neg hn, if_neg hf, if_pos hg, if_pos (.inr (.inr hg))]
      · rw [if_neg hn, if_neg hf, if_neg hg, if_neg (not_or.2 ⟨hn, not_or.2 ⟨hf, hg⟩⟩)]

theorem keepsPlain_state (naming : Naming σ) (g : Group) (name : Text) (s : σ) :
    (g.keepsPlain naming name s).2.2 = s ∨ (g.keepsPlain naming name s).2.2 = (naming.ask s).2 := by
  rw [keepsPlain_snd]
  split
  · exact .inl rfl
  · exact .inr rfl

end Group

namespace Listing

theorem meeting_concat_of_meets {e : Entry} {key : Text}
    (h : fold e.name = key ∨ fold (rules.plainName e.id) = key) :
    meeting rules (l ++ [e]) key = meeting rules l key ++ [e] := by
  rw [meeting_append]
  simp [meeting_eq, h]

theorem meeting_concat_of_not_meets {e : Entry} {key : Text} (hn : fold e.name ≠ key)
    (hp : fold (rules.plainName e.id) ≠ key) :
    meeting rules (l ++ [e]) key = meeting rules l key := by
  rw [meeting_append]
  simp [meeting_eq, hn, hp]

theorem Sound.takes_iff (h : Sound rules l) (key : Text) :
    Takes l key ↔ meeting rules l key ≠ [] := by
  constructor
  · rintro ⟨e, he, hk⟩
    exact List.ne_nil_of_mem (mem_meeting.2 ⟨he, .inl hk⟩)
  · intro hne
    obtain ⟨e, he⟩ := List.exists_mem_of_ne_nil _ hne
    obtain ⟨hm, hk | hk⟩ := mem_meeting.1 he
    · exact ⟨e, hm, hk⟩
    · exact hk ▸ h.plain_taken e hm

theorem find?_meeting (rules : Rules) (l : Listing) (id : EntryId) :
    (meeting rules l (fold (rules.plainName id))).find? (·.id = id) = l.find? (·.id = id) := by
  rw [meeting_eq, List.find?_filter]
  congr 1
  funext e
  by_cases he : e.id = id
  · simp [he]
  · simp [he]

theorem not_mem_meeting_ids (h : id ∉ l.map Entry.id) (key : Text) :
    id ∉ (meeting rules l key).map Entry.id := by
  intro hm
  obtain ⟨e, he, hid⟩ := List.mem_map.1 hm
  exact h (List.mem_map.2 ⟨e, (mem_meeting.1 he).1, hid⟩)

end Listing

namespace Directory

open Listing

theorem Lists.empty (rules : Rules) (allowed : CaseSensitivity → Prop) :
    Directory.Lists rules allowed {} [] := fun _ => .vacant

theorem Lists.contains_eq (h : d.Lists rules allowed l) (hl : Sound rules l) (key : Text) :
    d.index.contains key = decide (Takes l key) := by
  rw [Bool.eq_iff_iff, decide_eq_true_iff, hl.takes_iff, Table.contains]
  have hk := h key
  generalize d.index.get? key = slot at hk
  generalize meeting rules l key = m at hk
  cases hk with
  | vacant => simp
  | single e => simp
  | group several _ =>
      have hne : m ≠ [] := List.ne_nil_of_length_pos (by omega)
      simp [hne]

theorem Lists.freeNumber?_eq (h : d.Lists rules allowed l) (hl : Sound rules l) (id : EntryId)
    (first : Nat) : d.freeNumber? rules id first = some (leastFree rules l id first) := by
  obtain ⟨hfirst, hfree⟩ := leastFree_spec rules l id first
  obtain ⟨n, hn, hu, hk⟩ := rules.exists_free_number id d.index.keys first
  -- the search ends early, but not before a number that the keys leave free
  have hlt : leastFree rules l id first ≤ n := by
    refine leastFree_le hn ?_
    rwa [← decide_eq_true_iff (p := Takes l _), ← h.contains_eq hl, Table.contains_iff_mem_keys]
  have hkeys : d.index.keys.length = d.index.size := List.length_map _
  refine List.find?_range'_eq_some.2 ⟨?_, ?_, ?_⟩
  · simpa only [h.contains_eq hl, Bool.not_eq_eq_eq_not, Bool.not_true, decide_eq_false_iff_not]
      using hfree
  · rw [List.mem_range'_1]
    omega
  · intro m hm hlt'
    have htaken := mt (leastFree_le hm) (Nat.not_le.2 hlt')
    simpa [h.contains_eq hl] using htaken

theorem Lists.numberedName_eq (h : d.Lists rules allowed l) (hl : Sound rules l) (id : EntryId)
    (first : Nat) :
    d.numberedName rules id first = rules.numberedName id (leastFree rules l id first) := by
  rw [numberedName, h.freeNumber?_eq hl]

theorem Lists.insert_plain (h : d.Lists rules allowed l) {e : Entry} {slot : Slot}
    (hname : e.name = rules.plainName e.id)
    (hslot : Slot.Holds allowed (some slot) (meeting rules l (fold e.name) ++ [e])) :
    Directory.Lists rules allowed ⟨d.index.insert (fold e.name) slot⟩ (l ++ [e]) := by
  intro key
  rw [Table.get?_insert]
  by_cases hk : key = fold e.name
  · rw [if_pos hk, hk, meeting_concat_of_meets (.inl rfl)]
    exact hslot
  · rw [if_neg hk, meeting_concat_of_not_meets (Ne.symm hk) (by rw [← hname]; exact Ne.symm hk)]
    exact h key

theorem Lists.insert_numbered (h : d.Lists rules allowed l) {e : Entry} {slot : Slot}
    (hslot : Slot.Holds allowed (some slot)
      (meeting rules l (fold (rules.plainName e.id)) ++ [e]))
    (hfree : meeting rules l (fold e.name) = []) :
    Directory.Lists rules allowed
      ⟨(d.index.insert (fold (rules.plainName e.id)) slot).insert (fold e.name) (.single e)⟩
      (l ++ [e]) := by
  intro key
  rw [Table.get?_insert, Table.get?_insert]
  by_cases hn : key = fold e.name
  · rw [if_pos hn, hn, meeting_concat_of_meets (.inl rfl), hfree]
    exact .single e
  · rw [if_neg hn]
    by_cases hp : key = fold (rules.plainName e.id)
    · rw [if_pos hp, hp, meeting_concat_of_meets (.inr rfl)]
      exact hslot
    · rw [if_neg hp, meeting_concat_of_not_meets (Ne.symm hn) (Ne.symm hp)]
      exact h key

theorem joinGroup_of_mem {g : Group} {e : Entry} (h : g.members.get? id = some e) (key : Text) :
    d.joinGroup naming key g id s = { entry := e, directory := d, tally := {}, state := s } := by
  simp only [joinGroup, h]

theorem joinGroup_of_keepsPlain {g : Group} (h : g.members.get? id = none)
    (hk : (g.keepsPlain naming (naming.rules.plainName id) s).1) (key : Text) :
    d.joinGroup naming key g id s =
      { entry := ⟨id, naming.rules.plainName id⟩
        directory := ⟨d.index.insert key
          (.group ((g.keepsPlain naming (naming.rules.plainName id) s).2.1.withMember
            ⟨id, naming.rules.plainName id⟩))⟩
        tally := .ofKind id.kind
        state := (g.keepsPlain naming (naming.rules.plainName id) s).2.2 } := by
  simp only [joinGroup, h, if_pos hk]
  rfl

theorem joinGroup_of_not_keepsPlain {g : Group} (h : g.members.get? id = none)
    (hk : ¬ (g.keepsPlain naming (naming.rules.plainName id) s).1) (key : Text) {name : Text}
    (hname : name = d.numberedName naming.rules id
      ((g.keepsPlain naming (naming.rules.plainName id) s).2.1.members.size + 1)) :
    d.joinGroup naming key g id s =
      { entry := ⟨id, name⟩
        directory := ⟨(d.index.insert key
          (.group ((g.keepsPlain naming (naming.rules.plainName id) s).2.1.withMember
            ⟨id, name⟩))).insert (fold name) (.single ⟨id, name⟩)⟩
        tally := .ofKind id.kind + { disambiguated := 1 }
        state := (g.keepsPlain naming (naming.rules.plainName id) s).2.2 } := by
  subst hname
  simp only [joinGroup, h, if_neg hk]
  rfl

theorem Lists.joinGroup (h : d.Lists naming.rules allowed l) (hl : Sound naming.rules l)
    {g : Group} (hg : g.Holds allowed (meeting naming.rules l (fold (naming.rules.plainName id))))
    (hne : meeting naming.rules l (fold (naming.rules.plainName id)) ≠ [])
    (hid : id ∉ l.map Entry.id) (hs : naming.Decides allowed s) :
    (d.joinGroup naming (fold (naming.rules.plainName id)) g id s).Follows naming.rules allowed l
      id := by
  have hnone : g.members.get? id = none := by
    rw [hg.get?_eq, find?_meeting, find?_id_eq_none]
    exact hid
  have htaken := (hl.takes_iff _).2 hne
  have hlen : 0 < (meeting naming.rules l (fold (naming.rules.plainName id))).length :=
    List.length_pos_of_ne_nil hne
  obtain ⟨v, hv, hkeeps, hjoined⟩ := hg.keepsPlain hs (naming.rules.plainName id)
  rw [names_ne_iff_meeting] at hkeeps
  have hslot (name : Text) := Slot.Holds.group (by rw [List.length_append]; simp; omega)
    (hjoined.withMember (e := ⟨id, name⟩) (not_mem_meeting_ids hid _))
  refine ⟨v, hv, ?_⟩
  rw [entryFor_of_not_mem hid]
  by_cases hk : (g.keepsPlain naming (naming.rules.plainName id) s).1
  · have hname : newcomer naming.rules v l id = ⟨id, naming.rules.plainName id⟩ := by
      rw [newcomer, nameFor_eq_plainName (.inr (hkeeps.1 hk))]
    rw [joinGroup_of_keepsPlain hnone hk, hname]
    exact ⟨rfl, h.insert_plain (e := ⟨id, naming.rules.plainName id⟩) rfl (hslot _)⟩
  · have hname := nameFor_eq_numberedName htaken (mt hkeeps.2 hk)
    rw [Nat.add_comm, ← h.numberedName_eq hl, ← hjoined.size_eq] at hname
    rw [joinGroup_of_not_keepsPlain hnone hk _ hname]
    refine ⟨rfl, h.insert_numbered (e := newcomer naming.rules v l id) (hslot _) ?_⟩
    -- a numbered name leads to a key where nobody met so far
    by_contra hmet
    rw [← ne_eq, ← hl.takes_iff, newcomer, nameFor_eq_numberedName htaken (mt hkeeps.2 hk)] at hmet
    exact (leastFree_spec _ _ _ _).2 hmet

theorem entryFor_of_vacant (h : d.index.get? (fold (naming.rules.plainName id)) = none) :
    d.entryFor naming id s =
      { entry := ⟨id, naming.rules.plainName id⟩
        directory := ⟨d.index.insert (fold (naming.rules.plainName id))
          (.single ⟨id, naming.rules.plainName id⟩)⟩
        tally := .ofKind id.kind
        state := s } := by
  simp only [Directory.entryFor, h]

theorem entryFor_of_group {g : Group}
    (h : d.index.get? (fold (naming.rules.plainName id)) = some (.group g)) :
    d.entryFor naming id s = d.joinGroup naming (fold (naming.rules.plainName id)) g id s := by
  simp only [Directory.entryFor, h]

theorem entryFor_of_own {e : Entry}
    (h : d.index.get? (fold (naming.rules.plainName id)) = some (.single e)) (he : e.id = id) :
    d.entryFor naming id s = { entry := e, directory := d, tally := {}, state := s } := by
  simp only [Directory.entryFor, h, if_pos he]

theorem entryFor_of_other {e : Entry}
    (h : d.index.get? (fold (naming.rules.plainName id)) = some (.single e)) (he : e.id ≠ id) :
    d.entryFor naming id s =
      let r := d.joinGroup naming (fold (naming.rules.plainName id)) (.around e) id s
      { r with tally := { virtualGroups := 1 } + r.tally } := by
  simp only [Directory.entryFor, h, if_neg he]

theorem Lists.entryFor_vacant (h : d.Lists naming.rules allowed l) (hl : Sound naming.rules l)
    (hslot : d.index.get? (fold (naming.rules.plainName id)) = none)
    (hs : naming.Decides allowed s) :
    (d.entryFor naming id s).Follows naming.rules allowed l id := by
  obtain ⟨v, hv⟩ := hs.exists_allowed
  have hkey := h (fold (naming.rules.plainName id))
  rw [hslot] at hkey
  have hid : id ∉ l.map Entry.id := by
    rw [← find?_id_eq_none, ← find?_meeting naming.rules, hkey.eq_nil, List.find?_nil]
  have hfree : ¬ Takes l (fold (naming.rules.plainName id)) := by
    rw [hl.takes_iff, hkey.eq_nil]
    exact not_not.2 rfl
  have hname : newcomer naming.rules v l id = ⟨id, naming.rules.plainName id⟩ := by
    rw [newcomer, nameFor_eq_plainName (.inl hfree)]
  refine ⟨v, hv, ?_⟩
  rw [entryFor_of_vacant hslot, entryFor_of_not_mem hid, hname]
  refine ⟨rfl, h.insert_plain (e := ⟨id, naming.rules.plainName id⟩) rfl ?_⟩
  rw [hkey.eq_nil]
  exact .single _

theorem Lists.entryFor_single (h : d.Lists naming.rules allowed l) (hl : Sound naming.rules l)
    {e : Entry} (hslot : d.index.get? (fold (naming.rules.plainName id)) = some (.single e))
    (hs : naming.Decides allowed s) :
    (d.entryFor naming id s).Follows naming.rules allowed l id := by
  obtain ⟨v, hv⟩ := hs.exists_allowed
  have hkey := h (fold (naming.rules.plainName id))
  rw [hslot] at hkey
  have hfind := find?_meeting naming.rules l id
  rw [hkey.eq_singleton] at hfind
  by_cases he : e.id = id
  · have hfound : l.find? (·.id = id) = some e := by simpa [he] using hfind.symm
    refine ⟨v, hv, ?_⟩
    rw [entryFor_of_own hslot he, entryFor_of_find?_eq_some hfound]
    exact ⟨rfl, h⟩
  · have hid : id ∉ l.map Entry.id := by
      rw [← find?_id_eq_none, ← hfind]
      simp [he]
    rw [entryFor_of_other hslot he]
    exact h.joinGroup hl (by rw [hkey.eq_singleton]; exact Group.holds_around allowed e)
      (by rw [hkey.eq_singleton]; exact List.cons_ne_nil _ _) hid hs

theorem Lists.entryFor_group (h : d.Lists naming.rules allowed l) (hl : Sound naming.rules l)
    {g : Group} (hslot : d.index.get? (fold (naming.rules.plainName id)) = some (.group g))
    (hs : naming.Decides allowed s) :
    (d.entryFor naming id s).Follows naming.rules allowed l id := by
  obtain ⟨v, hv⟩ := hs.exists_allowed
  have hkey := h (fold (naming.rules.plainName id))
  rw [hslot] at hkey
  obtain ⟨hseveral, hg⟩ := hkey.of_group
  rw [entryFor_of_group hslot]
  cases hmem : l.find? (·.id = id) with
  | some e =>
      have hfind : g.members.get? id = some e := by rw [hg.get?_eq, find?_meeting, hmem]
      refine ⟨v, hv, ?_⟩
      rw [joinGroup_of_mem hfind, entryFor_of_find?_eq_some hmem]
      exact ⟨rfl, h⟩
  | none =>
      exact h.joinGroup hl hg (List.ne_nil_of_length_pos (by omega)) (find?_id_eq_none.1 hmem) hs

/-- One request to a directory is one request to its listing. -/
theorem Lists.entryFor (h : d.Lists naming.rules allowed l) (hl : Sound naming.rules l)
    (id : EntryId) (hs : naming.Decides allowed s) :
    (d.entryFor naming id s).Follows naming.rules allowed l id := by
  cases hslot : d.index.get? (fold (naming.rules.plainName id)) with
  | none => exact h.entryFor_vacant hl hslot hs
  | some slot =>
      cases slot with
      | single e => exact h.entryFor_single hl hslot hs
      | group g => exact h.entryFor_group hl hslot hs

theorem joinGroup_state (naming : Naming σ) (d : Directory) (key : Text) (g : Group) (id : EntryId)
    (s : σ) :
    (d.joinGroup naming key g id s).state = s ∨
      (d.joinGroup naming key g id s).state = (naming.ask s).2 := by
  cases hmem : g.members.get? id with
  | some e =>
      rw [joinGroup_of_mem hmem]
      exact .inl rfl
  | none =>
      have hstate := Group.keepsPlain_state naming g (naming.rules.plainName id) s
      by_cases hk : (g.keepsPlain naming (naming.rules.plainName id) s).1
      · rwa [joinGroup_of_keepsPlain hmem hk]
      · rwa [joinGroup_of_not_keepsPlain hmem hk _ rfl]

theorem entryFor_state (naming : Naming σ) (d : Directory) (id : EntryId) (s : σ) :
    (d.entryFor naming id s).state = s ∨ (d.entryFor naming id s).state = (naming.ask s).2 := by
  cases hslot : d.index.get? (fold (naming.rules.plainName id)) with
  | none =>
      rw [entryFor_of_vacant hslot]
      exact .inl rfl
  | some slot =>
      cases slot with
      | single e =>
          by_cases he : e.id = id
          · rw [entryFor_of_own hslot he]
            exact .inl rfl
          · rw [entryFor_of_other hslot he]
            exact joinGroup_state naming d _ _ id s
      | group g =>
          rw [entryFor_of_group hslot]
          exact joinGroup_state naming d _ g id s

end Directory

end ClassLayout
