import ClassLayout.Proofs.Name.Reserved
import ClassLayout.Proofs.Name.Shorten
import ClassLayout.Proofs.Tree.Embedding
import ClassLayout.Proofs.Tree.Requests

namespace ClassLayout

theorem Text.bytes_le_of_utf8Size {t : Text} {size : Nat} (h : ∀ c ∈ t, c.utf8Size ≤ size) :
    t.bytes ≤ size * t.length := by
  induction t with
  | nil => exact Nat.zero_le _
  | cons c t ih =>
      obtain ⟨hc, ht⟩ := List.forall_mem_cons.1 h
      have hrest := ih ht
      rw [Text.bytes_cons, List.length_cons, Nat.mul_succ]
      omega

theorem bytes_decimal_le {n digits : Nat} (hdigits : 0 < digits) (h : n < 10 ^ digits) :
    (Text.decimal n).bytes ≤ digits := by
  have hone : ∀ c ∈ Text.decimal n, c.utf8Size ≤ 1 := by
    have hall : decimalDigits.all fun c => c.utf8Size ≤ 1 := by decide
    intro c hc
    exact of_decide_eq_true (List.all_eq_true.1 hall c (mem_decimalDigits_of_mem_decimal hc))
  have hlength : (Text.decimal n).length ≤ digits :=
    (Nat.length_toDigits_le_iff (by decide) hdigits).2 h
  have hbytes := Text.bytes_le_of_utf8Size hone
  omega

namespace Rules

variable {rules : Rules} {id : EntryId}

theorem bytes_stem_lt (rules : Rules) {segment : Text} (h : segment.bytes < sizeLimit) :
    (rules.stem segment).bytes < sizeLimit := by
  have hbytes := bytes_escapeReserved_le segment
  have hlimit : sizeLimit = 2 ^ 64 := rfl
  unfold stem
  split
  · omega
  · exact h

/-- What a name is to be: within the limit, and its tail complete behind some character. -/
structure Fits (rules : Rules) (id : EntryId) (name : Text) : Prop where
  bytes_le : name.bytes ≤ rules.maxBytes
  tail_complete : ∃ base : Text, base ≠ [] ∧
    (name = rules.plainName id ∧ name = base ++ rules.extensionOf id.kind ∨
      ∃ n, name = rules.numberedName id n ∧
        name = base ++ (numberTail n ++ rules.extensionOf id.kind))

theorem bytes_nameWithTail_le {segment tail : Text} (h : segment.bytes < sizeLimit)
    (htail : tail.bytes + 1 ≤ rules.maxBytes) :
    (rules.nameWithTail segment tail).bytes ≤ rules.maxBytes := by
  rw [nameWithTail, Text.bytes_append]
  exact bytes_fit_le (rules.bytes_stem_lt h) htail

theorem Accepted.fits_plainName (h : rules.Accepted) (hid : IsSegment id.segment)
    (hsize : id.segment.bytes < sizeLimit) : rules.Fits id (rules.plainName id) where
  bytes_le := by
    have hroom := h.room
    have htail := rules.bytes_extensionOf_le id.kind
    unfold Settings.nameRoom at hroom
    exact bytes_nameWithTail_le hsize (by omega)
  tail_complete :=
    ⟨_, fit_ne_nil (rules.isSegment_stem hid).1 _ _, .inl ⟨rfl, rfl⟩⟩

/-- Six digits, the point and a marker take just the room that is kept. -/
theorem Accepted.fits_numberedName (h : rules.Accepted) (hid : IsSegment id.segment)
    (hsize : id.segment.bytes < sizeLimit) {n : Nat} (hn : n < 10 ^ 6) :
    rules.Fits id (rules.numberedName id n) where
  bytes_le := by
    have hroom := h.room
    have htail := rules.bytes_extensionOf_le id.kind
    have hdigits := bytes_decimal_le (by decide) hn
    have hpoint : Char.utf8Size '.' = 1 := rfl
    unfold Settings.nameRoom at hroom
    apply bytes_nameWithTail_le hsize
    rw [Text.bytes_append, numberTail, Text.bytes_cons, hpoint]
    omega
  tail_complete :=
    ⟨_, fit_ne_nil (rules.isSegment_stem hid).1 _ _, .inr ⟨n, rfl, rfl⟩⟩

end Rules

namespace Listing

variable {rules : Rules} {verdict : CaseSensitivity} {l : Listing} {id : EntryId}

theorem leastFree_lt (rules : Rules) (l : Listing) (id : EntryId) (first : Nat) :
    leastFree rules l id first < first + (l.length + 1) := by
  obtain ⟨n, hn, hlt, hfree⟩ := rules.exists_free_number id (l.map fun e => fold e.name) first
  rw [List.length_map] at hlt
  refine Nat.lt_of_le_of_lt (leastFree_le hn ?_) hlt
  rintro ⟨e, he, hk⟩
  exact hfree (List.mem_map.2 ⟨e, he, hk⟩)

def NumbersBounded (rules : Rules) (l : Listing) : Prop :=
  ∀ e ∈ l, e.name = rules.plainName e.id ∨
    ∃ n, n < 2 * l.length ∧ e.name = rules.numberedName e.id n

theorem nameFor_bounded (rules : Rules) (verdict : CaseSensitivity) (l : Listing) (id : EntryId) :
    nameFor rules verdict l id = rules.plainName id ∨
      ∃ n, n < 2 * (l.length + 1) ∧ nameFor rules verdict l id = rules.numberedName id n := by
  by_cases hp : ¬ Takes l (fold (rules.plainName id)) ∨
      verdict = .sensitive ∧ ∀ e ∈ l, e.name ≠ rules.plainName id
  · exact .inl (nameFor_eq_plainName hp)
  · obtain ⟨htaken, hs⟩ := not_or.1 hp
    have hlt := leastFree_lt rules l id
      (1 + (meeting rules l (fold (rules.plainName id))).length)
    have hmet : (meeting rules l (fold (rules.plainName id))).length ≤ l.length :=
      List.length_filter_le _ _
    exact .inr ⟨_, by omega, nameFor_eq_numberedName (not_not.1 htaken) hs⟩

theorem NumbersBounded.entryFor (h : NumbersBounded rules l) (verdict : CaseSensitivity)
    (id : EntryId) : NumbersBounded rules (entryFor rules verdict l id).2 := by
  rcases entryFor_cases rules verdict l id with ⟨e, _, _, he⟩ | ⟨_, he⟩
  · rw [he]
    exact h
  · rw [he]
    intro e hmem
    rw [List.length_append, List.length_singleton]
    rcases List.mem_append.1 hmem with hmem | hmem
    · apply (h e hmem).imp_right
      rintro ⟨n, hn, hname⟩
      exact ⟨n, by omega, hname⟩
    · obtain rfl := List.mem_singleton.1 hmem
      exact nameFor_bounded rules verdict l id

theorem NumbersBounded.fits (h : NumbersBounded rules l) (hr : rules.Accepted)
    (few : l.length ≤ 500000) {e : Entry} (he : e ∈ l) (hid : IsSegment e.id.segment)
    (hsize : e.id.segment.bytes < sizeLimit) : rules.Fits e.id e.name := by
  rcases h e he with hname | ⟨n, hn, hname⟩
  · rw [hname]
    exact hr.fits_plainName hid hsize
  · rw [hname]
    exact hr.fits_numberedName hid hsize (by omega)

end Listing

namespace Catalogue

variable {rules : Rules} {allowed : CaseSensitivity → Prop} {identifiers : List Identifier}
  {given : List (List Text)} {c : Catalogue}

theorem Runs.numbersBounded (h : Runs rules allowed identifiers .empty given c) (p : Place) :
    (c p).NumbersBounded rules :=
  h.all (fun _ v id _ hl => hl.entryFor v id) (fun _ _ he => absurd he List.not_mem_nil) p

theorem Spells.forall₂ {P : EntryId → Text → Prop} {p : Place} {ids : List EntryId}
    {names : List Text} (h : Spells c p ids names)
    (hP : ∀ id ∈ ids, ∀ name q, ⟨id, name⟩ ∈ c q → P id name) : List.Forall₂ P ids names := by
  induction h with
  | nil => exact .nil
  | @cons p id rest name names listed _ ih =>
      obtain ⟨hid, hrest⟩ := List.forall_mem_cons.1 hP
      exact .cons (hid name p listed) (ih hrest)

theorem Runs.forall₂ {P : EntryId → Text → Prop}
    (h : Runs rules allowed identifiers .empty given c)
    (hP : ∀ i ∈ identifiers, ∀ id ∈ i.steps, ∀ name p, ⟨id, name⟩ ∈ c p → P id name) :
    List.Forall₂ (fun i names => List.Forall₂ P i.steps names) identifiers given := by
  refine List.forall₂_iff_zip.2 ⟨h.spells.length_eq, ?_⟩
  intro i names hzip
  exact (h.spells_of_mem_zip hzip).forall₂ (hP i (List.of_mem_zip hzip).1)

end Catalogue

namespace Tree

variable {σ : Type} {probe : Probe σ} {settings : Settings} {outputDir : Location} {t : Tree}
  {s₀ s : σ}

/-- Every name keeps to the limit while no directory has more than half a million entries. Sizes
are 64-bit words, and no segment is longer than such a word can say. -/
theorem allocateAll_fits (built : (build probe settings outputDir s₀).1 = .ok t)
    {identifiers : List Identifier}
    (sized : ∀ i ∈ identifiers, ∀ segment ∈ i.segments, segment.bytes < sizeLimit)
    (few : ∀ d ∈ (t.allocateAll probe identifiers s).2.1.directories.values,
      d.entries.card ≤ 500000) :
    ∃ given : List (List Text),
      (t.allocateAll probe identifiers s).1 =
        given.map (fun names => .ok (outputDir.joinAll names)) ∧
      List.Forall₂ (fun i names => List.Forall₂ t.rules.Fits i.steps names) identifiers given := by
  have hbuilt := builtFrom_of_build built
  obtain ⟨given, c, hruns, hpaths, harrives⟩ := allocateAll_simulates hbuilt probe identifiers s
  refine ⟨given, hpaths, hruns.forall₂ ?_⟩
  intro i hi id hid name p hlisted
  have hfew := few _ (Table.mem_values_of_get? (harrives.lists.get?_directories hlisted))
  rw [(harrives.lists p).1.card_entries (harrives.lists p).2] at hfew
  refine (hruns.numbersBounded p).fits hbuilt.accepted hfew hlisted (i.step_isSegment hid) ?_
  apply sized i hi
  rw [← i.map_segment_steps]
  exact List.mem_map_of_mem hid

theorem allocateAll_fits_least_room :
    ∃ t identifiers,
      (build (.fixed .insensitive true) { maxComponentBytes := 14 } (.text ['o']) ()).1 = .ok t ∧
      identifiers.map Identifier.display = ["Lémilié;".toList, "LÉMILIÉ;".toList] ∧
      (t.allocateAll (.fixed .insensitive true) identifiers ()).1 =
        ["o/émilié.smali".toList, "o/ÉM#É.2.smali".toList].map (.ok ∘ .text) ∧
      ∃ given,
        (t.allocateAll (.fixed .insensitive true) identifiers ()).1 =
          given.map (fun names => .ok ((Location.text ['o']).joinAll names)) ∧
        List.Forall₂ (fun i names => List.Forall₂ t.rules.Fits i.steps names)
          identifiers given := by
  have built : (build (.fixed .insensitive true) { maxComponentBytes := 14 } (.text ['o']) ()).1 =
      .ok { outputDir := .text ['o'], settings := { maxComponentBytes := 14 }, escapes := true } :=
    rfl
  refine ⟨_, [⟨[], "émilié".toList, ?_, ?_⟩, ⟨[], "ÉMILIÉ".toList, ?_, ?_⟩], built, ?_, ?_,
    allocateAll_fits built ?_ ?_⟩
  all_goals decide +kernel

end Tree

end ClassLayout
