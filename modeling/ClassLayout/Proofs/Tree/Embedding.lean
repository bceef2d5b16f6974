import ClassLayout.Proofs.Location
import ClassLayout.Proofs.Tree.Simulation
import Mathlib.Data.List.Nodup

namespace ClassLayout

/-- The names of two identifiers, read through `key`, agree down to any depth that both reach just
where their segments do and the two at that depth are of one kind. -/
def AgreeAlike {α : Type} (key : Text → α) (a b : Identifier × List Text) : Prop :=
  ∀ k, k < a.1.segments.length → k < b.1.segments.length →
    ((a.2.take (k + 1)).map key = (b.2.take (k + 1)).map key ↔
      a.1.segments.take (k + 1) = b.1.segments.take (k + 1) ∧
        (k + 1 = a.1.segments.length ↔ k + 1 = b.1.segments.length))

/-- How the names given to identifiers embed them, where a name counts as what `key` makes of it. -/
structure Embeds (key : Text → Text) (outputDir : Location) (identifiers : List Identifier)
    (given : List (List Text)) : Prop where
  length_eq : List.Forall₂ (fun i names => names.length = i.segments.length) identifiers given
  isSegment : ∀ names ∈ given, ∀ name ∈ names, IsSegment name
  alike : ∀ a ∈ identifiers.zip given, ∀ b ∈ identifiers.zip given, AgreeAlike key a b
  apart : ∀ a ∈ identifiers.zip given, ∀ b ∈ identifiers.zip given, a.1 ≠ b.1 →
    outputDir.joinAll (a.2.map key) ≠ outputDir.joinAll (b.2.map key) ∧
      ¬ (outputDir.joinAll (a.2.map key)).IsAbove (outputDir.joinAll (b.2.map key))

namespace Identifier

theorem length_steps (i : Identifier) : i.steps.length = i.segments.length := by
  simp [steps, segments]

theorem map_segment_steps (i : Identifier) : i.steps.map EntryId.segment = i.segments := by
  simp [steps, segments, Function.comp_def]

theorem getElem?_kind_steps (i : Identifier) {k : Nat} (hk : k < i.segments.length) :
    (i.steps.map EntryId.kind)[k]? =
      some (if k + 1 = i.segments.length then .classFile else .package) := by
  have hlen : i.segments.length = i.package.length + 1 := by simp [segments]
  have hkinds : i.steps.map EntryId.kind =
      List.replicate i.package.length .package ++ [.classFile] := by
    simp [steps, Function.comp_def, List.map_const']
  rw [hkinds]
  by_cases hlast : k + 1 = i.segments.length
  · rw [if_pos hlast, List.getElem?_append_right (by simp; omega)]
    simp [show k - i.package.length = 0 by omega]
  · rw [if_neg hlast, List.getElem?_append_left (by simp; omega), List.getElem?_replicate,
      if_pos (by omega)]

theorem kind_eq_iff {a b : Prop} [Decidable a] [Decidable b] :
    (if a then Kind.classFile else .package) = (if b then .classFile else .package) ↔ (a ↔ b) := by
  by_cases ha : a
  · by_cases hb : b <;> simp [ha, hb]
  · by_cases hb : b <;> simp [ha, hb]

theorem step_isSegment (i : Identifier) {id : EntryId} (h : id ∈ i.steps) :
    IsSegment id.segment := by
  have hm := List.mem_map_of_mem (f := EntryId.segment) h
  rw [map_segment_steps] at hm
  exact i.segment_valid hm

theorem steps_ext {ids ids' : List EntryId}
    (hs : ids.map EntryId.segment = ids'.map EntryId.segment)
    (hk : ids.map EntryId.kind = ids'.map EntryId.kind) : ids = ids' := by
  induction ids generalizing ids' with
  | nil => simpa using hs
  | cons id ids ih =>
      cases ids' with
      | nil => simp at hs
      | cons id' ids' =>
          simp only [List.map_cons, List.cons.injEq] at hs hk
          obtain ⟨_, _⟩ := id
          obtain ⟨_, _⟩ := id'
          rw [ih hs.2 hk.2]
          simp_all

theorem take_steps_eq_iff {i j : Identifier} {k : Nat} (hi : k < i.segments.length)
    (hj : k < j.segments.length) :
    i.steps.take (k + 1) = j.steps.take (k + 1) ↔
      i.segments.take (k + 1) = j.segments.take (k + 1) ∧
        (k + 1 = i.segments.length ↔ k + 1 = j.segments.length) := by
  constructor
  · intro h
    have hs := congrArg (List.map EntryId.segment) h
    have hk := congrArg (fun l => (l.map EntryId.kind)[k]?) h
    simp only [List.map_take, map_segment_steps] at hs
    simp only [List.map_take, List.getElem?_take_of_lt (Nat.lt_succ_self k),
      getElem?_kind_steps i hi, getElem?_kind_steps j hj, Option.some.injEq] at hk
    exact ⟨hs, kind_eq_iff.1 hk⟩
  · rintro ⟨hs, hk⟩
    refine steps_ext ?_ ?_
    · simpa only [List.map_take, map_segment_steps] using hs
    · refine List.ext_getElem? fun m => ?_
      rw [List.map_take, List.map_take]
      by_cases hm : m < k + 1
      · rw [List.getElem?_take_of_lt hm, List.getElem?_take_of_lt hm,
          getElem?_kind_steps i (by omega), getElem?_kind_steps j (by omega)]
        by_cases hmk : m = k
        · subst m
          exact congrArg some (kind_eq_iff.2 hk)
        · rw [if_neg (by omega), if_neg (by omega)]
      · rw [List.getElem?_take_eq_none (by omega), List.getElem?_take_eq_none (by omega)]

end Identifier

namespace Catalogue

theorem Spells.take_eq_iff {α : Type} {key : Text → α} {c : Catalogue}
    (hids : ∀ q, ((c q).map Entry.id).Nodup) (hkey : ∀ q, ((c q).map fun e => key e.name).Nodup)
    {p : Place} {ids ids' : List EntryId} {names names' : List Text} (h : Spells c p ids names)
    (h' : Spells c p ids' names') {k : Nat} (hk : k < ids.length) (hk' : k < ids'.length) :
    (names.take (k + 1)).map key = (names'.take (k + 1)).map key ↔
      ids.take (k + 1) = ids'.take (k + 1) := by
  induction h generalizing ids' names' k with
  | nil => exact absurd hk (Nat.not_lt_zero k)
  | @cons p id rest name names listed tail ih =>
      cases h' with
      | nil => exact absurd hk' (Nat.not_lt_zero k)
      | @cons _ id' rest' name' names' listed' tail' =>
          -- both ways are in one directory here, whose entries part by name and by segment alike
          have hhead : key name = key name' ↔ id = id' := by
            constructor
            · intro he
              exact congrArg Entry.id (List.inj_on_of_nodup_map (hkey p) listed listed' he)
            · intro he
              have hentry := List.inj_on_of_nodup_map (hids p) listed listed' he
              exact congrArg key (congrArg Entry.name hentry)
          simp only [List.take_succ_cons, List.map_cons, List.cons.injEq, hhead]
          apply and_congr_right
          rintro rfl
          cases k with
          | zero => simp
          | succ k => exact ih tail' (Nat.lt_of_succ_lt_succ hk) (Nat.lt_of_succ_lt_succ hk')

theorem Spells.agreeAlike {α : Type} {key : Text → α} {c : Catalogue}
    (hids : ∀ q, ((c q).map Entry.id).Nodup) (hkey : ∀ q, ((c q).map fun e => key e.name).Nodup)
    {a b : Identifier × List Text} (ha : Spells c .root a.1.steps a.2)
    (hb : Spells c .root b.1.steps b.2) : AgreeAlike key a b := by
  intro k hka hkb
  rw [← Identifier.take_steps_eq_iff hka hkb]
  exact ha.take_eq_iff hids hkey hb (by rwa [Identifier.length_steps])
    (by rwa [Identifier.length_steps])

theorem Spells.isSegment {rules : Rules} (hr : rules.Accepted) {c : Catalogue}
    (hc : ∀ q, (c q).Sound rules) {p : Place} {ids : List EntryId}
    (hids : ∀ id ∈ ids, IsSegment id.segment) {names : List Text} (h : Spells c p ids names) :
    ∀ name ∈ names, IsSegment name := by
  intro name hn
  obtain ⟨id, hid, q, hq⟩ := h.exists_listed hn
  rcases (hc q).name_eq _ hq with he | ⟨n, he⟩
  · rw [show name = rules.plainName id from he]
    exact hr.isSegment_plainName (hids id hid)
  · rw [show name = rules.numberedName id n from he]
    exact hr.isSegment_numberedName (hids id hid) n

end Catalogue

theorem AgreeAlike.eq_of_prefix {α : Type} {key : Text → α} {a b : Identifier × List Text}
    (h : AgreeAlike key a b) (ha : a.2.length = a.1.segments.length)
    (hb : b.2.length = b.1.segments.length) (hp : a.2.map key <+: b.2.map key) : a.1 = b.1 := by
  have hpos : 0 < a.1.segments.length := List.length_pos_of_ne_nil a.1.segments_ne_nil
  have hle : a.2.length ≤ b.2.length := by simpa using hp.length_le
  obtain ⟨k, hk⟩ := Nat.exists_eq_succ_of_ne_zero (Nat.ne_of_gt hpos)
  have hnames : (a.2.take (k + 1)).map key = (b.2.take (k + 1)).map key := by
    rw [List.map_take, List.map_take, List.take_of_length_le (by simp; omega),
      List.prefix_iff_eq_take.1 hp]
    simp [ha, hk]
  obtain ⟨hsegments, hlast⟩ := (h k (by omega) (by omega)).1 hnames
  rw [List.take_of_length_le (by omega), List.take_of_length_le (by omega)] at hsegments
  exact Identifier.segments_injective hsegments

theorem AgreeAlike.paths_apart {key : Text → Text} {a b : Identifier × List Text}
    (h : AgreeAlike key a b) (ha : a.2.length = a.1.segments.length)
    (hb : b.2.length = b.1.segments.length) (hsa : ∀ name ∈ a.2, IsSegment (key name))
    (hsb : ∀ name ∈ b.2, IsSegment (key name)) (path : Location) (hab : a.1 ≠ b.1) :
    path.joinAll (a.2.map key) ≠ path.joinAll (b.2.map key) ∧
      ¬ (path.joinAll (a.2.map key)).IsAbove (path.joinAll (b.2.map key)) := by
  have hne : a.2.map key ≠ [] := by
    rw [← List.length_pos_iff, List.length_map, ha, List.length_pos_iff]
    exact a.1.segments_ne_nil
  have hne' : b.2.map key ≠ [] := by
    rw [← List.length_pos_iff, List.length_map, hb, List.length_pos_iff]
    exact b.1.segments_ne_nil
  have hnames : ∀ name ∈ a.2.map key, IsSegment name := List.forall_mem_map.2 hsa
  have hnames' : ∀ name ∈ b.2.map key, IsSegment name := List.forall_mem_map.2 hsb
  -- an equal path and one that leads into the other both make names begin with names
  have hpart (hp : a.2.map key <+: b.2.map key) : False := hab (h.eq_of_prefix ha hb hp)
  constructor
  · intro he
    exact hpart (Location.joinAll_injective hne hne' hnames hnames' he ▸ List.prefix_rfl)
  · intro hp
    exact hpart (Location.prefix_of_isAbove hne hne' hnames hnames' hp)

namespace Catalogue

variable {rules : Rules} {allowed : CaseSensitivity → Prop} {identifiers : List Identifier}
  {given : List (List Text)} {c : Catalogue}

theorem Runs.sound (h : Runs rules allowed identifiers .empty given c) (p : Place) :
    (c p).Sound rules :=
  h.all (fun _ v id _ hl => hl.entryFor v id) (fun _ => .nil rules) p

theorem Runs.foldedApart (never : ¬ allowed .sensitive)
    (h : Runs rules allowed identifiers .empty given c) (p : Place) :
    Listing.FoldedApart (c p) :=
  h.all (P := Listing.FoldedApart)
    (fun _ _ id hv hl => hl.entryFor (fun he => never (he ▸ hv)) rules id)
    (fun _ => List.nodup_nil) p

theorem Runs.spells_of_mem_zip (h : Runs rules allowed identifiers .empty given c)
    {a : Identifier × List Text} (ha : a ∈ identifiers.zip given) :
    Spells c .root a.1.steps a.2 :=
  (List.forall₂_iff_zip.1 h.spells).2 ha

theorem Runs.length_eq (h : Runs rules allowed identifiers .empty given c) :
    List.Forall₂ (fun i names => names.length = i.segments.length) identifiers given :=
  h.spells.imp fun i _ hs => by rw [hs.length_eq, i.length_steps]

theorem Runs.length_of_mem_zip (h : Runs rules allowed identifiers .empty given c)
    {a : Identifier × List Text} (ha : a ∈ identifiers.zip given) :
    a.2.length = a.1.segments.length :=
  (List.forall₂_iff_zip.1 h.length_eq).2 ha

theorem Runs.agreeAlike {key : Text → Text} (h : Runs rules allowed identifiers .empty given c)
    (hkey : ∀ p, ((c p).map fun e => key e.name).Nodup) {a b : Identifier × List Text}
    (ha : a ∈ identifiers.zip given) (hb : b ∈ identifiers.zip given) : AgreeAlike key a b :=
  (h.spells_of_mem_zip ha).agreeAlike (fun p => (h.sound p).ids_nodup) hkey
    (h.spells_of_mem_zip hb)

theorem Runs.isSegment (hr : rules.Accepted) (h : Runs rules allowed identifiers .empty given c) :
    ∀ names ∈ given, ∀ name ∈ names, IsSegment name := by
  intro names hn
  obtain ⟨i, _, hspells⟩ := h.exists_identifier hn
  exact hspells.isSegment hr h.sound fun _ => i.step_isSegment

theorem Runs.embeds {key : Text → Text} (hr : rules.Accepted)
    (h : Runs rules allowed identifiers .empty given c)
    (hkey : ∀ p, ((c p).map fun e => key e.name).Nodup)
    (hseg : ∀ name, IsSegment name → IsSegment (key name)) (outputDir : Location) :
    Embeds key outputDir identifiers given := by
  refine ⟨h.length_eq, h.isSegment hr, fun a ha b hb => h.agreeAlike hkey ha hb, ?_⟩
  intro a ha b hb
  refine (h.agreeAlike hkey ha hb).paths_apart (h.length_of_mem_zip ha) (h.length_of_mem_zip hb)
    ?_ ?_ outputDir
  · intro name hn
    exact hseg name (h.isSegment hr a.2 (List.of_mem_zip ha).2 name hn)
  · intro name hn
    exact hseg name (h.isSegment hr b.2 (List.of_mem_zip hb).2 name hn)

theorem Runs.embeds_id (hr : rules.Accepted) (h : Runs rules allowed identifiers .empty given c)
    (outputDir : Location) : Embeds id outputDir identifiers given :=
  h.embeds hr (fun p => (h.sound p).names_nodup) (fun _ hn => hn) outputDir

end Catalogue

namespace Tree

variable {σ : Type} {probe : Probe σ} {settings : Settings} {outputDir : Location} {t : Tree}
  {s₀ s : σ}

/-- Every identifier of a run is given one name for each of its segments, and the names part just
where the identifiers do: no path is that of another identifier or leads into it. -/
theorem allocateAll_embeds (built : (build probe settings outputDir s₀).1 = .ok t)
    (identifiers : List Identifier) (s : σ) :
    ∃ given : List (List Text),
      (t.allocateAll probe identifiers s).1 =
        given.map (fun names => .ok (outputDir.joinAll names)) ∧
      Embeds id outputDir identifiers given := by
  have hbuilt := builtFrom_of_build built
  obtain ⟨given, c, hruns, hpaths, _⟩ := allocateAll_simulates hbuilt probe identifiers s
  exact ⟨given, hpaths, hruns.embeds hbuilt.accepted (fun p => (hruns.sound p).names_nodup)
    (fun _ hn => hn) outputDir⟩

theorem allocateAll_embeds_changing_verdicts :
    ∃ t identifiers,
      (build (.scripted true) {} (.text ['o']) [.sensitive, .insensitive]).1 = .ok t ∧
      identifiers.map Identifier.display =
        ["LA/b;".toList, "La/b;".toList, "La/C;".toList, "La/c;".toList] ∧
      (t.allocateAll (.scripted true) identifiers [.sensitive, .insensitive]).1 =
        ["o/A/b.smali".toList, "o/a/b.smali".toList, "o/a/C.smali".toList,
          "o/a/c.2.smali".toList].map (.ok ∘ .text) ∧
      ∃ given,
        (t.allocateAll (.scripted true) identifiers [.sensitive, .insensitive]).1 =
          given.map (fun names => .ok ((Location.text ['o']).joinAll names)) ∧
        Embeds id (.text ['o']) identifiers given := by
  have built : (build (.scripted true) {} (.text ['o']) [.sensitive, .insensitive]).1 =
      .ok { outputDir := .text ['o'], settings := {}, escapes := true } := rfl
  refine ⟨_, [⟨[['A']], ['b'], ?_, ?_⟩, ⟨[['a']], ['b'], ?_, ?_⟩, ⟨[['a']], ['C'], ?_, ?_⟩,
    ⟨[['a']], ['c'], ?_, ?_⟩], built, ?_, ?_, allocateAll_embeds built _ _⟩
  all_goals decide +kernel

/-- Where no verdict may tell case apart, the names part after folding just where the identifiers
do, so that no folded path is or leads into that of another identifier. -/
theorem allocateAll_embeds_folded (built : (build probe settings outputDir s₀).1 = .ok t)
    (never : ¬ settings.MayDecide probe s .sensitive) (identifiers : List Identifier) :
    ∃ given : List (List Text),
      (t.allocateAll probe identifiers s).1 =
        given.map (fun names => .ok (outputDir.joinAll names)) ∧
      Embeds fold outputDir identifiers given := by
  have hbuilt := builtFrom_of_build built
  obtain ⟨given, c, hruns, hpaths, _⟩ := allocateAll_simulates hbuilt probe identifiers s
  exact ⟨given, hpaths, hruns.embeds hbuilt.accepted (hruns.foldedApart never)
    (fun _ hn => isSegment_fold hn) outputDir⟩

theorem allocateAll_embeds_folded_insensitive :
    ∃ t identifiers,
      (build (.fixed .insensitive true) {} (.text ['o']) ()).1 = .ok t ∧
      ¬ Settings.MayDecide {} (.fixed .insensitive true) () .sensitive ∧
      identifiers.map Identifier.display =
        ["LA/b;".toList, "La/b;".toList, "LA/B;".toList, "LA.smali/c;".toList, "LA;".toList] ∧
      (t.allocateAll (.fixed .insensitive true) identifiers ()).1 =
        ["o/A/b.smali".toList, "o/a.2/b.smali".toList, "o/A/B.2.smali".toList,
          "o/A.smali/c.smali".toList, "o/A.2.smali".toList].map (.ok ∘ .text) ∧
      ∃ given,
        (t.allocateAll (.fixed .insensitive true) identifiers ()).1 =
          given.map (fun names => .ok ((Location.text ['o']).joinAll names)) ∧
        Embeds fold (.text ['o']) identifiers given := by
  have built : (build (.fixed .insensitive true) {} (.text ['o']) ()).1 =
      .ok { outputDir := .text ['o'], settings := {}, escapes := true } := rfl
  have never : ¬ Settings.MayDecide {} (.fixed .insensitive true) () .sensitive := by
    rintro ⟨dir, s, _, h⟩
    exact CaseSensitivity.noConfusion h
  refine ⟨_, [⟨[['A']], ['b'], ?_, ?_⟩, ⟨[['a']], ['b'], ?_, ?_⟩, ⟨[['A']], ['B'], ?_, ?_⟩,
    ⟨["A.smali".toList], ['c'], ?_, ?_⟩, ⟨[], ['A'], ?_, ?_⟩], built, never, ?_, ?_,
    allocateAll_embeds_folded built never _⟩
  all_goals decide +kernel

end Tree

end ClassLayout
