import ClassLayout.Directory
import ClassLayout.Proofs.Name.Rules
import Mathlib.Data.Nat.Find

namespace ClassLayout

abbrev Listing := List Entry

namespace Listing

def Takes (l : Listing) (key : Text) : Prop := ∃ e ∈ l, fold e.name = key

instance (l : Listing) (key : Text) : Decidable (Takes l key) :=
  inferInstanceAs (Decidable (∃ e ∈ l, fold e.name = key))

/-- A segment as it is written on the volume: escaped where that is asked for, then fitted to the
budget before its number, if it has one, and its extension, if it is that of a class. -/
def written (rules : Rules) (id : EntryId) (number : Option Nat) : Text :=
  let base := if rules.escapes then escapeReserved id.segment else id.segment
  let tail := number.elim [] (fun n => '.' :: Text.decimal n) ++
    if id.kind = .classFile then rules.extension else []
  fit base tail rules.maxBytes ++ tail

/-- The entries whose name folds to `key`, or would with nothing in its way. -/
def meeting (rules : Rules) (l : Listing) (key : Text) : Listing :=
  l.filter fun e => fold e.name = key ∨ fold (written rules e.id none) = key

theorem plainName_eq_written (rules : Rules) (id : EntryId) :
    rules.plainName id = written rules id none := by
  obtain ⟨segment, kind⟩ := id
  cases kind with
  | package => rfl
  | classFile => rfl

theorem numberedName_eq_written (rules : Rules) (id : EntryId) (n : Nat) :
    rules.numberedName id n = written rules id (some n) := by
  obtain ⟨segment, kind⟩ := id
  cases kind with
  | package => rfl
  | classFile => rfl

theorem exists_free (rules : Rules) (l : Listing) (id : EntryId) (first : Nat) :
    ∃ n, first ≤ n ∧ ¬ Takes l (fold (written rules id (some n))) := by
  simp only [← numberedName_eq_written]
  obtain ⟨n, hn, _, hfree⟩ := rules.exists_free_number id (l.map fun e => fold e.name) first
  exact ⟨n, hn, fun ⟨e, he, hk⟩ => hfree (List.mem_map.2 ⟨e, he, hk⟩)⟩

def leastFree (rules : Rules) (l : Listing) (id : EntryId) (first : Nat) : Nat :=
  Nat.find (exists_free rules l id first)

/-- The name of a newcomer: its plain one if nothing is in its way, or nothing but letter case on
a volume that tells case apart; else a numbered one, from one more than the entries it meets. -/
def nameFor (rules : Rules) (verdict : CaseSensitivity) (l : Listing) (id : EntryId) : Text :=
  let plain := written rules id none
  let key := fold plain
  if ¬ Takes l key ∨ (verdict = .sensitive ∧ ∀ e ∈ l, e.name ≠ plain) then plain
  else written rules id (some (leastFree rules l id (1 + (meeting rules l key).length)))

def newcomer (rules : Rules) (verdict : CaseSensitivity) (l : Listing) (id : EntryId) : Entry :=
  ⟨id, nameFor rules verdict l id⟩

def entryFor (rules : Rules) (verdict : CaseSensitivity) (l : Listing) (id : EntryId) :
    Entry × Listing :=
  match l.find? (·.id = id) with
  | some e => (e, l)
  | none => (newcomer rules verdict l id, l ++ [newcomer rules verdict l id])

/-- What holds of the entries of a directory, whatever was asked for. -/
structure Sound (rules : Rules) (l : Listing) : Prop where
  ids_nodup : (l.map Entry.id).Nodup
  names_nodup : (l.map Entry.name).Nodup
  plain_taken : ∀ e ∈ l, Takes l (fold (rules.plainName e.id))
  name_eq : ∀ e ∈ l, e.name = rules.plainName e.id ∨ ∃ n, e.name = rules.numberedName e.id n

def FoldedApart (l : Listing) : Prop := (l.map fun e => fold e.name).Nodup

variable {rules : Rules} {verdict : CaseSensitivity} {l : Listing} {id : EntryId}

theorem leastFree_spec (rules : Rules) (l : Listing) (id : EntryId) (first : Nat) :
    first ≤ leastFree rules l id first ∧
      ¬ Takes l (fold (rules.numberedName id (leastFree rules l id first))) := by
  rw [numberedName_eq_written]
  exact Nat.find_spec (exists_free rules l id first)

theorem leastFree_le {first n : Nat} (hn : first ≤ n)
    (hfree : ¬ Takes l (fold (rules.numberedName id n))) : leastFree rules l id first ≤ n := by
  rw [numberedName_eq_written] at hfree
  exact Nat.find_min' (exists_free rules l id first) ⟨hn, hfree⟩

theorem meeting_eq (rules : Rules) (l : Listing) (key : Text) : meeting rules l key =
    l.filter fun e => fold e.name = key ∨ fold (rules.plainName e.id) = key := by
  simp only [meeting, plainName_eq_written]

theorem mem_meeting {e : Entry} {key : Text} :
    e ∈ meeting rules l key ↔ e ∈ l ∧ (fold e.name = key ∨ fold (rules.plainName e.id) = key) := by
  simp [meeting_eq]

theorem names_ne_iff_meeting (rules : Rules) (l : Listing) (name : Text) :
    (∀ e ∈ meeting rules l (fold name), e.name ≠ name) ↔ ∀ e ∈ l, e.name ≠ name := by
  constructor
  · intro h e he hn
    exact h e (mem_meeting.2 ⟨he, .inl (by rw [hn])⟩) hn
  · intro h e he
    exact h e (mem_meeting.1 he).1

theorem meeting_append (rules : Rules) (l m : Listing) (key : Text) :
    meeting rules (l ++ m) key = meeting rules l key ++ meeting rules m key :=
  List.filter_append l m

theorem nameFor_eq_plainName
    (h : ¬ Takes l (fold (rules.plainName id)) ∨
      verdict = .sensitive ∧ ∀ e ∈ l, e.name ≠ rules.plainName id) :
    nameFor rules verdict l id = rules.plainName id := by
  rw [plainName_eq_written] at h ⊢
  exact if_pos h

theorem nameFor_eq_numberedName (ht : Takes l (fold (rules.plainName id)))
    (h : ¬ (verdict = .sensitive ∧ ∀ e ∈ l, e.name ≠ rules.plainName id)) :
    nameFor rules verdict l id = rules.numberedName id (leastFree rules l id
      (1 + (meeting rules l (fold (rules.plainName id))).length)) := by
  rw [plainName_eq_written] at ht h ⊢
  rw [numberedName_eq_written]
  exact if_neg (not_or.2 ⟨not_not.2 ht, h⟩)

theorem nameFor_cases (rules : Rules) (verdict : CaseSensitivity) (l : Listing) (id : EntryId) :
    (nameFor rules verdict l id = rules.plainName id ∧
      (¬ Takes l (fold (rules.plainName id)) ∨
        verdict = .sensitive ∧ ∀ e ∈ l, e.name ≠ rules.plainName id)) ∨
    (∃ n, nameFor rules verdict l id = rules.numberedName id n) ∧
      Takes l (fold (rules.plainName id)) ∧ ¬ Takes l (fold (nameFor rules verdict l id)) := by
  by_cases hp : ¬ Takes l (fold (rules.plainName id)) ∨
      verdict = .sensitive ∧ ∀ e ∈ l, e.name ≠ rules.plainName id
  · exact .inl ⟨nameFor_eq_plainName hp, hp⟩
  · obtain ⟨ht, hs⟩ := not_or.1 hp
    have hn := nameFor_eq_numberedName (not_not.1 ht) hs
    refine .inr ⟨⟨_, hn⟩, not_not.1 ht, ?_⟩
    rw [hn]
    exact (leastFree_spec rules l id _).2

theorem nameFor_not_mem_names (rules : Rules) (verdict : CaseSensitivity) (l : Listing)
    (id : EntryId) : nameFor rules verdict l id ∉ l.map Entry.name := by
  intro hm
  obtain ⟨e, he, hn⟩ := List.mem_map.1 hm
  rcases nameFor_cases rules verdict l id with ⟨hp, ht | ⟨_, hx⟩⟩ | ⟨_, _, ht⟩
  · exact ht ⟨e, he, by rw [hn, hp]⟩
  · exact hx e he (by rw [hn, hp])
  · exact ht ⟨e, he, by rw [hn]⟩

/-- Unless case is told apart, a newcomer's name folds to a key of its own. -/
theorem not_takes_fold_nameFor (hv : verdict ≠ .sensitive) (rules : Rules) (l : Listing)
    (id : EntryId) : ¬ Takes l (fold (nameFor rules verdict l id)) := by
  rcases nameFor_cases rules verdict l id with ⟨hp, ht | ⟨hs, _⟩⟩ | ⟨_, _, ht⟩
  · rwa [hp]
  · exact absurd hs hv
  · exact ht

theorem find?_id_eq_none : l.find? (·.id = id) = none ↔ id ∉ l.map Entry.id := by
  simp only [List.find?_eq_none, decide_eq_true_eq, List.mem_map, not_exists, not_and]

theorem Sound.nil (rules : Rules) : Sound rules [] where
  ids_nodup := List.nodup_nil
  names_nodup := List.nodup_nil
  plain_taken := fun _ h => absurd h List.not_mem_nil
  name_eq := fun _ h => absurd h List.not_mem_nil

theorem nodup_map_concat {α : Type} {f : Entry → α} (h : (l.map f).Nodup) {e : Entry}
    (he : f e ∉ l.map f) : ((l ++ [e]).map f).Nodup := by
  rw [List.map_append]
  exact List.Nodup.append h (List.nodup_singleton _) (by simpa using he)

theorem Takes.append {key : Text} (h : Takes l key) (m : Listing) : Takes (l ++ m) key := by
  obtain ⟨e, he, hk⟩ := h
  exact ⟨e, List.mem_append_left m he, hk⟩

theorem takes_concat_self (l : Listing) (e : Entry) : Takes (l ++ [e]) (fold e.name) :=
  ⟨e, List.mem_append_right l (List.mem_singleton.2 rfl), rfl⟩

theorem Sound.concat_newcomer (h : Sound rules l) (verdict : CaseSensitivity)
    (hid : id ∉ l.map Entry.id) : Sound rules (l ++ [newcomer rules verdict l id]) where
  ids_nodup := nodup_map_concat h.ids_nodup hid
  names_nodup := nodup_map_concat h.names_nodup (nameFor_not_mem_names rules verdict l id)
  plain_taken := by
    intro e he
    rcases List.mem_append.1 he with he | he
    · exact (h.plain_taken e he).append _
    · obtain rfl := List.mem_singleton.1 he
      rcases nameFor_cases rules verdict l id with ⟨hp, _⟩ | ⟨_, ht, _⟩
      · have hname : (newcomer rules verdict l id).name = rules.plainName id := hp
        have hself := takes_concat_self l (newcomer rules verdict l id)
        rw [hname] at hself
        exact hself
      · exact ht.append _
  name_eq := by
    intro e he
    rcases List.mem_append.1 he with he | he
    · exact h.name_eq e he
    · obtain rfl := List.mem_singleton.1 he
      rcases nameFor_cases rules verdict l id with ⟨hp, _⟩ | ⟨hn, _⟩
      · exact .inl hp
      · exact .inr hn

theorem entryFor_of_find?_eq_some {e : Entry} (h : l.find? (·.id = id) = some e) :
    entryFor rules verdict l id = (e, l) := by
  simp only [entryFor, h]

theorem entryFor_of_not_mem (h : id ∉ l.map Entry.id) :
    entryFor rules verdict l id =
      (newcomer rules verdict l id, l ++ [newcomer rules verdict l id]) := by
  simp only [entryFor, find?_id_eq_none.2 h]

theorem entryFor_cases (rules : Rules) (verdict : CaseSensitivity) (l : Listing) (id : EntryId) :
    (∃ e ∈ l, e.id = id ∧ entryFor rules verdict l id = (e, l)) ∨
    (id ∉ l.map Entry.id ∧ entryFor rules verdict l id =
      (newcomer rules verdict l id, l ++ [newcomer rules verdict l id])) := by
  cases hf : l.find? (·.id = id) with
  | some e =>
      exact .inl ⟨e, List.mem_of_find?_eq_some hf, by simpa using List.find?_some hf,
        entryFor_of_find?_eq_some hf⟩
  | none =>
      have hid := find?_id_eq_none.1 hf
      exact .inr ⟨hid, entryFor_of_not_mem hid⟩

theorem Sound.entryFor (h : Sound rules l) (verdict : CaseSensitivity) (id : EntryId) :
    Sound rules (entryFor rules verdict l id).2 := by
  rcases entryFor_cases rules verdict l id with ⟨e, _, _, he⟩ | ⟨hid, he⟩
  · rw [he]
    exact h
  · rw [he]
    exact h.concat_newcomer verdict hid

theorem FoldedApart.entryFor (h : FoldedApart l) (hv : verdict ≠ .sensitive) (rules : Rules)
    (id : EntryId) : FoldedApart (entryFor rules verdict l id).2 := by
  rcases entryFor_cases rules verdict l id with ⟨e, _, _, he⟩ | ⟨_, he⟩
  · rw [he]
    exact h
  · rw [he]
    apply nodup_map_concat h
    intro hm
    obtain ⟨e, he, hk⟩ := List.mem_map.1 hm
    exact not_takes_fold_nameFor hv rules l id ⟨e, he, hk⟩

theorem entryFor_id (rules : Rules) (verdict : CaseSensitivity) (l : Listing) (id : EntryId) :
    (entryFor rules verdict l id).1.id = id := by
  rcases entryFor_cases rules verdict l id with ⟨e, _, hid, he⟩ | ⟨_, he⟩
  · rw [he, hid]
  · rw [he, newcomer]

theorem mem_entryFor {e : Entry} :
    e ∈ (entryFor rules verdict l id).2 ↔ e ∈ l ∨ e = (entryFor rules verdict l id).1 := by
  rcases entryFor_cases rules verdict l id with ⟨e', hm, _, he⟩ | ⟨_, he⟩
  · rw [he]
    constructor
    · exact .inl
    · rintro (h | rfl)
      · exact h
      · exact hm
  · rw [he, List.mem_append, List.mem_singleton]

end Listing

end ClassLayout
