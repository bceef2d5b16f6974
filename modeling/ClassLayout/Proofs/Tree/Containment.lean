import ClassLayout.Proofs.Tree.Embedding

namespace ClassLayout

open ClassLayout.Path (IsDots)

theorem eq_point_of_isDots {name : Text} (h : IsDots name) {c : Char} (hc : c ∈ name) :
    c = '.' := by
  rcases h with rfl | rfl
  · exact List.mem_singleton.1 hc
  · simpa using hc

theorem isDots_of_isDots_fold {name : Text} (h : IsDots (fold name)) : IsDots name := by
  have hlow : ∀ c ∈ fold name, Char.IsLow c := by
    intro c hc
    rw [eq_point_of_isDots h hc]
    decide
  have he : fold name = name := Text.eq_of_lowerFrom_isLow hlow
  rwa [he] at h

theorem fold_eq_of_isDots {name : Text} (h : IsDots name) : fold name = name := by
  rcases h with rfl | rfl
  · decide +kernel
  · decide +kernel

theorem bytes_le_of_isDots {name : Text} (h : IsDots name) : name.bytes ≤ 2 := by
  rcases h with rfl | rfl
  · decide
  · decide

theorem isDots_of_append {t tail : Text} (hne : t ≠ []) (h : IsDots (t ++ tail)) : IsDots t := by
  obtain ⟨c, rest, rfl⟩ := List.exists_cons_of_ne_nil hne
  rcases h with h | h
  · obtain ⟨rfl, hrest⟩ := List.cons.inj h
    obtain ⟨rfl, _⟩ := List.append_eq_nil_iff.1 hrest
    exact .inl rfl
  · obtain ⟨rfl, hrest⟩ := List.cons.inj h
    rcases List.append_eq_singleton_iff.1 hrest with ⟨rfl, _⟩ | ⟨rfl, _⟩
    · exact .inl rfl
    · exact .inr rfl

namespace Rules

variable {rules : Rules} {id : EntryId}

theorem stem_of_isDots (rules : Rules) {segment : Text} (h : IsDots segment) :
    rules.stem segment = segment := by
  have hreserved : escapeReserved segment = segment := by
    rcases h with rfl | rfl
    · decide
    · decide
  rw [stem, hreserved, ite_self]

theorem stem_eq_or_mem (rules : Rules) (segment : Text) :
    rules.stem segment = segment ∨ reservedMarker ∈ rules.stem segment := by
  unfold stem escapeReserved
  split
  · split
    · exact .inr (List.mem_append_right _ List.mem_cons_self)
    · exact .inl rfl
  · exact .inl rfl

theorem Accepted.isDots_plainName_iff (h : rules.Accepted) (hid : IsSegment id.segment) :
    IsDots (rules.plainName id) ↔ IsDots (id.segment ++ rules.extensionOf id.kind) := by
  unfold plainName nameWithTail
  constructor
  · intro hdots
    have hfit : fit (rules.stem id.segment) (rules.extensionOf id.kind) rules.maxBytes =
        rules.stem id.segment := by
      rcases fit_eq_or_cutMarker_mem (rules.stem id.segment) (rules.extensionOf id.kind)
        rules.maxBytes with he | hm
      · exact he
      · exact absurd (eq_point_of_isDots hdots (List.mem_append_left _ hm)) (by decide)
    rw [hfit] at hdots
    rcases stem_eq_or_mem rules id.segment with he | hm
    · rwa [he] at hdots
    · exact absurd (eq_point_of_isDots hdots (List.mem_append_left _ hm)) (by decide)
  · intro hdots
    have hsegment := isDots_of_append hid.1 hdots
    have hbytes := bytes_le_of_isDots hsegment
    have htail := rules.bytes_extensionOf_le id.kind
    have hroom := h.room
    rw [stem_of_isDots rules hsegment, fit_of_bytes_le]
    · exact hdots
    · unfold Settings.nameRoom at hroom
      omega

theorem not_isDots_numberedName (rules : Rules) (id : EntryId) (n : Nat) :
    ¬ IsDots (rules.numberedName id n) := by
  intro h
  obtain ⟨d, ds, hd⟩ := List.exists_cons_of_ne_nil (Text.decimal_ne_nil n)
  have hdigit : d ∈ Text.decimal n := by
    rw [hd]
    exact List.mem_cons_self
  have hmem : d ∈ rules.numberedName id n := by
    simp [numberedName, nameWithTail, numberTail, hdigit]
  have hpoint := eq_point_of_isDots h hmem
  rw [hpoint] at hdigit
  exact absurd (mem_decimalDigits_of_mem_decimal hdigit) (by decide)

end Rules

def Identifier.AvoidsDots (extension : Text) (i : Identifier) : Prop :=
  (∀ segment ∈ i.package, ¬ IsDots segment) ∧ ¬ IsDots (i.className ++ extension)

instance (extension : Text) (i : Identifier) : Decidable (i.AvoidsDots extension) :=
  inferInstanceAs (Decidable (_ ∧ _))

theorem Identifier.avoidsDots_iff (rules : Rules) (i : Identifier) :
    i.AvoidsDots rules.extension ↔
      ∀ id ∈ i.steps, ¬ IsDots (id.segment ++ rules.extensionOf id.kind) := by
  simp only [AvoidsDots, steps, List.forall_mem_append, List.forall_mem_map,
    List.forall_mem_singleton, Rules.extensionOf, List.append_nil]

/-- Where the names given to identifiers put their files, with `.` and `..` resolved by the text of
the paths alone. -/
structure Contained (outputDir : Location) (identifiers : List Identifier)
    (given : List (List Text)) : Prop where
  ordinary : ∀ names ∈ given, ∀ name ∈ names, ¬ IsDots name
  below : ∀ a ∈ identifiers.zip given, ∃ names : List Text,
    names.length = a.1.segments.length ∧ (outputDir.joinAll a.2).resolve =
      (outputDir.resolve.1, outputDir.resolve.2 ++ names.map Text.encode)
  apart : ∀ a ∈ identifiers.zip given, ∀ b ∈ identifiers.zip given, a.1 ≠ b.1 →
    (outputDir.joinAll a.2).resolve ≠ (outputDir.joinAll b.2).resolve

namespace Catalogue

variable {rules : Rules} {allowed : CaseSensitivity → Prop} {identifiers : List Identifier}
  {given : List (List Text)} {c : Catalogue}

/-- A number makes any name an ordinary one, but a plain name that leads back is borne by somebody:
by its own entry, or by the one in its way. -/
theorem Runs.ordinary_iff (hr : rules.Accepted)
    (h : Runs rules allowed identifiers .empty given c) :
    (∀ names ∈ given, ∀ name ∈ names, ¬ IsDots name) ↔
      ∀ i ∈ identifiers, i.AvoidsDots rules.extension := by
  constructor
  · intro hordinary i hi
    rw [i.avoidsDots_iff rules]
    intro id hid hdots
    have hplain := (hr.isDots_plainName_iff (i.step_isSegment hid)).2 hdots
    obtain ⟨names, _, hspells⟩ := h.exists_names hi
    obtain ⟨name, _, p, hlisted⟩ := hspells.exists_name hid
    obtain ⟨e, he, hfold⟩ := (h.sound p).plain_taken _ hlisted
    have hname : IsDots e.name := by
      apply isDots_of_isDots_fold
      rw [hfold, fold_eq_of_isDots hplain]
      exact hplain
    rcases h.mem_cases he with hempty | ⟨names, hn, hmem⟩
    · exact absurd hempty List.not_mem_nil
    · exact hordinary names hn e.name hmem hname
  · intro havoids names hn name hmem hdots
    obtain ⟨i, hi, hspells⟩ := h.exists_identifier hn
    obtain ⟨id, hid, p, hlisted⟩ := hspells.exists_listed hmem
    rcases (h.sound p).name_eq _ hlisted with he | ⟨n, he⟩
    · rw [show name = rules.plainName id from he,
        hr.isDots_plainName_iff (i.step_isSegment hid)] at hdots
      exact (i.avoidsDots_iff rules).1 (havoids i hi) id hid hdots
    · rw [show name = rules.numberedName id n from he] at hdots
      exact rules.not_isDots_numberedName id n hdots

theorem Runs.contained (hr : rules.Accepted) (h : Runs rules allowed identifiers .empty given c)
    (hordinary : ∀ names ∈ given, ∀ name ∈ names, ¬ IsDots name) (outputDir : Location) :
    Contained outputDir identifiers given := by
  have hresolve : ∀ names ∈ given, (outputDir.joinAll names).resolve =
      (outputDir.resolve.1, outputDir.resolve.2 ++ names.map Text.encode) := fun names hn =>
    outputDir.resolve_joinAll (h.isSegment hr names hn) (hordinary names hn)
  refine ⟨hordinary, ?_, ?_⟩
  · intro a ha
    exact ⟨a.2, h.length_of_mem_zip ha, hresolve a.2 (List.of_mem_zip ha).2⟩
  · intro a ha b hb hab he
    rw [hresolve a.2 (List.of_mem_zip ha).2, hresolve b.2 (List.of_mem_zip hb).2,
      Prod.mk.injEq] at he
    have hnames : a.2 = b.2 :=
      List.map_injective_iff.2 (fun _ _ => Text.encode_injective) (List.append_cancel_left he.2)
    have hagree : AgreeAlike id a b :=
      h.agreeAlike (fun p => (h.sound p).names_nodup) ha hb
    have hp : a.2.map id <+: b.2.map id := by simp [hnames]
    exact hab (hagree.eq_of_prefix (h.length_of_mem_zip ha) (h.length_of_mem_zip hb) hp)

end Catalogue

namespace Tree

variable {σ : Type} {probe : Probe σ} {settings : Settings} {outputDir : Location} {t : Tree}
  {s₀ s : σ}

/-- The files of a run stay below the output directory and apart just where nothing in any of its
identifiers leads back. -/
theorem allocateAll_contained_iff (built : (build probe settings outputDir s₀).1 = .ok t)
    (identifiers : List Identifier) (s : σ) :
    ∃ given : List (List Text),
      (t.allocateAll probe identifiers s).1 =
        given.map (fun names => .ok (outputDir.joinAll names)) ∧
      Embeds id outputDir identifiers given ∧
      (Contained outputDir identifiers given ↔
        ∀ i ∈ identifiers, i.AvoidsDots settings.fileExtension) := by
  have hbuilt := builtFrom_of_build built
  obtain ⟨given, c, hruns, hpaths, _⟩ := allocateAll_simulates hbuilt probe identifiers s
  have hordinary := hruns.ordinary_iff hbuilt.accepted
  have hextension : t.rules.extension = settings.fileExtension := by rw [rules, hbuilt.settings_eq]
  rw [hextension] at hordinary
  refine ⟨given, hpaths, ?_, ?_⟩
  · exact hruns.embeds hbuilt.accepted (fun p => (hruns.sound p).names_nodup) (fun _ hn => hn)
      outputDir
  · rw [← hordinary]
    exact ⟨Contained.ordinary, fun h => hruns.contained hbuilt.accepted h outputDir⟩

theorem allocateAll_contained_of_points :
    (build (.fixed .sensitive true) {} (.text ['o']) ()).1 =
        .ok { outputDir := .text ['o'], settings := {}, escapes := true } ∧
      ∃ given,
        (allocateAll (.fixed .sensitive true)
          { outputDir := .text ['o'], settings := {}, escapes := true }
          [⟨[['.', '.', '.']], ['.'], by decide, by decide⟩] ()).1 =
          given.map (fun names => .ok ((Location.text ['o']).joinAll names)) ∧
        Contained (.text ['o']) [⟨[['.', '.', '.']], ['.'], by decide, by decide⟩] given := by
  have built : (build (.fixed .sensitive true) {} (.text ['o']) ()).1 =
      .ok { outputDir := .text ['o'], settings := {}, escapes := true } := rfl
  obtain ⟨given, hpaths, _, hcontained⟩ := allocateAll_contained_iff built
    [⟨[['.', '.', '.']], ['.'], by decide, by decide⟩] ()
  exact ⟨built, given, hpaths, hcontained.2 (by decide)⟩

/-- One class leads out of the output directory, and two others name one file there. -/
theorem allocateAll_leads_back :
    (build (.fixed .sensitive true) {} (.text ['o']) ()).1 =
        .ok { outputDir := .text ['o'], settings := {}, escapes := true } ∧
      Identifier.parse "L../a;".toList = .ok ⟨[['.', '.']], ['a'], by decide, by decide⟩ ∧
      Identifier.parse "L./a;".toList = .ok ⟨[['.']], ['a'], by decide, by decide⟩ ∧
      (allocateAll (.fixed .sensitive true)
          { outputDir := .text ['o'], settings := {}, escapes := true }
          [⟨[['.', '.']], ['a'], by decide, by decide⟩, ⟨[['.']], ['a'], by decide, by decide⟩,
            ⟨[], ['a'], by decide, by decide⟩] ()).1 =
        ["o/../a.smali".toList, "o/./a.smali".toList, "o/a.smali".toList].map (.ok ∘ .text) ∧
      Location.resolve (.text "o/../a.smali".toList) = (false, [Text.encode "a.smali".toList]) ∧
      Location.resolve (.text "o/./a.smali".toList) =
        Location.resolve (.text "o/a.smali".toList) := by
  decide +kernel

end Tree

end ClassLayout
