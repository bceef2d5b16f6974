import ClassLayout.Proofs.Tree.Embedding
import ClassLayout.Proofs.Tree.Visits

namespace ClassLayout

def Identifier.IsBelow (i : Identifier) (package : List Text) : Prop :=
  package <+: i.segments ∧ package ≠ i.segments

instance (i : Identifier) (package : List Text) : Decidable (i.IsBelow package) :=
  inferInstanceAs (Decidable (_ ∧ _))

/-- What the identifiers below a package are named from there on, in the order in which they were
allocated. -/
def namesBelow (package : List Text) (identifiers : List Identifier) (given : List (List Text)) :
    List (List Text) :=
  ((identifiers.zip given).filter fun a => a.1.IsBelow package).map fun a =>
    a.2.drop package.length

theorem Identifier.isBelow_iff {i : Identifier} {package : List Text} :
    i.IsBelow package ↔ package <+: i.package := by
  rw [IsBelow, segments, List.prefix_concat_iff]
  constructor
  · rintro ⟨he | hp, hne⟩
    · exact absurd he hne
    · exact hp
  · intro hp
    refine ⟨.inr hp, ?_⟩
    rintro rfl
    have := hp.length_le
    simp at this

theorem Identifier.visits_outside {i : Identifier} {package : List Text}
    (h : ¬ i.IsBelow package) : ∀ visit ∈ visits .root i.steps, ¬ package <+: visit.1.toList := by
  rintro ⟨q, id⟩ hvisit hq
  apply h
  rw [isBelow_iff]
  rcases i.mem_visits_steps.1 hvisit with ⟨_, hpackage⟩ | ⟨_, hsegments⟩
  · exact hq.trans ((List.prefix_append _ _).trans hpackage)
  · rw [(List.append_inj' hsegments rfl).1] at hq
    exact hq

section namesBelow

variable {package : List Text} {i : Identifier} {identifiers : List Identifier}
  {names : List Text} {given : List (List Text)}

theorem namesBelow_cons_of_pos (h : i.IsBelow package) :
    namesBelow package (i :: identifiers) (names :: given) =
      names.drop package.length :: namesBelow package identifiers given := by
  simp [namesBelow, h]

theorem namesBelow_cons_of_neg (h : ¬ i.IsBelow package) :
    namesBelow package (i :: identifiers) (names :: given) =
      namesBelow package identifiers given := by
  simp [namesBelow, h]

end namesBelow

namespace Catalogue

def AgreeBelow (package : List Text) (c c' : Catalogue) : Prop :=
  ∀ q : Place, package <+: q.toList → c q = c' q

variable {rules : Rules} {allowed allowed' : CaseSensitivity → Prop} {verdict : CaseSensitivity}
  {package : List Text} {p : Place} {ids : List EntryId} {names names' : List Text}
  {c c' d d' : Catalogue} {identifiers : List Identifier} {given given' : List (List Text)}

theorem AgreeBelow.update (h : AgreeBelow package c c') (p : Place) (l : Listing) :
    AgreeBelow package (Function.update c p l) (Function.update c' p l) := by
  intro q hq
  by_cases hqp : q = p
  · subst q
    rw [Function.update_self, Function.update_self]
  · rw [Function.update_of_ne hqp, Function.update_of_ne hqp]
    exact h q hq

theorem AgreeBelow.update_left (h : AgreeBelow package c c') (hp : ¬ package <+: p.toList)
    (l : Listing) : AgreeBelow package (Function.update c p l) c' :=
  (Function.forall_update_iff c fun q l' => package <+: q.toList → l' = c' q).2
    ⟨fun hq => absurd hq hp, fun q _ => h q⟩

theorem AgreeBelow.symm (h : AgreeBelow package c c') : AgreeBelow package c' c :=
  fun q hq => (h q hq).symm

theorem Walks.agreeBelow_of_outside (h : Walks rules allowed ids p d names d')
    (outside : ∀ visit ∈ visits p ids, ¬ package <+: visit.1.toList)
    (agree : AgreeBelow package d c) : AgreeBelow package d' c := by
  induction h with
  | nil => exact agree
  | cons v hv tail ih =>
      rw [visits, List.forall_mem_cons] at outside
      exact ih outside.2 (agree.update_left outside.1 _)

/-- Two walks to the same place below the package choose the same names from the package on, and
keep the listings there alike. -/
theorem Walks.agreeBelow (only : ∀ v, allowed v → v = verdict)
    (only' : ∀ v, allowed' v → v = verdict) (h : Walks rules allowed ids p c names d)
    (h' : Walks rules allowed' ids p c' names' d')
    (below : package <+: p.toList ++ ids.map EntryId.segment) (agree : AgreeBelow package c c') :
    names.drop (package.length - p.toList.length) =
        names'.drop (package.length - p.toList.length) ∧
      AgreeBelow package d d' := by
  induction h generalizing c' names' d' with
  | nil =>
      cases h'
      exact ⟨rfl, agree⟩
  | @cons id rest p c d names v hv tail ih =>
      cases h' with
      | @cons _ _ _ _ _ names' v' hv' tail' =>
          obtain rfl := only v hv
          obtain rfl := only' v' hv'
          have hbelow : package <+: (p.child id.segment).toList ++ rest.map EntryId.segment := by
            simpa using below
          by_cases hp : package <+: p.toList
          · -- from here on both walks are in listings that agree
            have hlist : c p = c' p := agree p hp
            have hp' : package <+: (p.child id.segment).toList := by
              rw [Place.toList_child]
              exact hp.trans (List.prefix_append _ _)
            obtain ⟨hnames, hends⟩ := ih tail' hbelow (hlist ▸ agree.update p _)
            rw [Nat.sub_eq_zero_of_le hp'.length_le, List.drop_zero, List.drop_zero] at hnames
            rw [Nat.sub_eq_zero_of_le hp.length_le, List.drop_zero, List.drop_zero, hlist, hnames]
            exact ⟨rfl, hends⟩
          · -- this directory is around the package, and its name is among those dropped
            have hlt : p.toList.length < package.length := by
              by_contra hle
              exact hp (List.prefix_of_prefix_length_le below (List.prefix_append _ _) (by omega))
            obtain ⟨hnames, hends⟩ := ih tail' hbelow
              ((agree.update_left hp _).symm.update_left hp _).symm
            rw [Place.toList_child, List.length_append, List.length_singleton] at hnames
            rw [show package.length - p.toList.length =
              package.length - (p.toList.length + 1) + 1 by omega, List.drop_succ_cons,
              List.drop_succ_cons]
            exact ⟨hnames, hends⟩

theorem Runs.namesBelow_eq (only : ∀ v, allowed v → v = verdict)
    (only' : ∀ v, allowed' v → v = verdict) (h : Runs rules allowed identifiers c given d)
    (h' : Runs rules allowed' (identifiers.filter (·.IsBelow package)) c' given' d')
    (agree : AgreeBelow package c c') :
    namesBelow package identifiers given =
        namesBelow package (identifiers.filter (·.IsBelow package)) given' ∧
      AgreeBelow package d d' := by
  induction h generalizing c' given' with
  | nil =>
      cases h'
      exact ⟨rfl, agree⟩
  | @cons i rest c c₁ d names given walk tail ih =>
      by_cases hi : i.IsBelow package
      · rw [List.filter_cons_of_pos (by simpa using hi)] at h' ⊢
        cases h' with
        | cons walk' tail' =>
            have hbelow : package <+: Place.root.toList ++ i.steps.map EntryId.segment := by
              rw [i.map_segment_steps]
              exact hi.1
            obtain ⟨hnames, hmeanwhile⟩ := walk.agreeBelow only only' walk' hbelow agree
            obtain ⟨hrest, hends⟩ := ih tail' hmeanwhile
            rw [namesBelow_cons_of_pos hi, namesBelow_cons_of_pos hi, hrest]
            exact ⟨congrArg (· :: _) hnames, hends⟩
      · rw [List.filter_cons_of_neg (by simpa using hi)] at h' ⊢
        rw [namesBelow_cons_of_neg hi]
        exact ih h' (walk.agreeBelow_of_outside (Identifier.visits_outside hi) agree)

end Catalogue

theorem Settings.MayDecide.eq_of_known {σ : Type} {settings : Settings} {probe : Probe σ} {s : σ}
    {v : CaseSensitivity} (h : settings.MayDecide probe s v)
    (known : settings.caseSensitivity.isKnown) : v = settings.caseSensitivity := by
  rwa [MayDecide, if_pos known] at h

namespace Tree

variable {σ τ : Type} {probe : Probe σ} {probe' : Probe τ} {settings : Settings}
  {outputDir : Location} {t t' : Tree} {s₀ : σ} {s₀' : τ} {escapes : Bool}

theorem build_eq_of_forced (forced : settings.escapeReservedNames = some escapes)
    (built : (build probe settings outputDir s₀).1 = .ok t)
    (built' : (build probe' settings outputDir s₀').1 = .ok t') : t' = t := by
  simp only [build, forced] at built built'
  cases hflaw : settings.flaw? with
  | some flaw => simp [hflaw] at built
  | none =>
      simp only [hflaw, Except.ok.injEq] at built built'
      exact built'.symm.trans built

/-- Where verdict and escaping are forced, allocating identifiers on one tree and only those below
a package on another gives the latter the same names from the package on. -/
theorem allocateAll_below_independent (known : settings.caseSensitivity.isKnown)
    (forced : settings.escapeReservedNames = some escapes)
    (built : (build probe settings outputDir s₀).1 = .ok t)
    (built' : (build probe' settings outputDir s₀').1 = .ok t') (package : List Text)
    (identifiers : List Identifier) (s : σ) (s' : τ) :
    ∃ given given' : List (List Text),
      (t.allocateAll probe identifiers s).1 =
        given.map (fun names => .ok (outputDir.joinAll names)) ∧
      (t'.allocateAll probe' (identifiers.filter (·.IsBelow package)) s').1 =
        given'.map (fun names => .ok (outputDir.joinAll names)) ∧
      Embeds id outputDir identifiers given ∧
      Embeds id outputDir (identifiers.filter (·.IsBelow package)) given' ∧
      namesBelow package identifiers given =
        namesBelow package (identifiers.filter (·.IsBelow package)) given' := by
  obtain rfl := build_eq_of_forced forced built built'
  have hbuilt := builtFrom_of_build built
  obtain ⟨given, c, hruns, hpaths, _⟩ := allocateAll_simulates hbuilt probe identifiers s
  obtain ⟨given', c', hruns', hpaths', _⟩ := allocateAll_simulates hbuilt probe'
    (identifiers.filter (·.IsBelow package)) s'
  have hnames := hruns.namesBelow_eq (fun _ hv => hv.eq_of_known known)
    (fun _ hv => hv.eq_of_known known) hruns' fun _ _ => rfl
  exact ⟨given, given', hpaths, hpaths', hruns.embeds_id hbuilt.accepted outputDir,
    hruns'.embeds_id hbuilt.accepted outputDir, hnames.1⟩

theorem allocateAll_below_independent_renamed_package :
    ∃ settings t identifiers,
      settings.caseSensitivity = .insensitive ∧
      settings.escapeReservedNames = some true ∧
      (build (.fixed .sensitive false) settings (.text ['o']) ()).1 = .ok t ∧
      identifiers.map Identifier.display =
        ["LA/x;".toList, "La/x;".toList, "La/X;".toList] ∧
      (t.allocateAll (.fixed .sensitive false) identifiers ()).1 =
        ["o/A/x.smali".toList, "o/a.2/x.smali".toList,
          "o/a.2/X.2.smali".toList].map (.ok ∘ .text) ∧
      (t.allocateAll (.scripted false) (identifiers.filter (·.IsBelow [['a']])) []).1 =
        ["o/a/x.smali".toList, "o/a/X.2.smali".toList].map (.ok ∘ .text) ∧
      ∃ given given' : List (List Text),
        (t.allocateAll (.fixed .sensitive false) identifiers ()).1 =
          given.map (fun names => .ok ((Location.text ['o']).joinAll names)) ∧
        (t.allocateAll (.scripted false) (identifiers.filter (·.IsBelow [['a']])) []).1 =
          given'.map (fun names => .ok ((Location.text ['o']).joinAll names)) ∧
        Embeds id (.text ['o']) identifiers given ∧
        Embeds id (.text ['o']) (identifiers.filter (·.IsBelow [['a']])) given' ∧
        namesBelow [['a']] identifiers given =
          namesBelow [['a']] (identifiers.filter (·.IsBelow [['a']])) given' := by
  let settings : Settings :=
    { caseSensitivity := .insensitive, escapeReservedNames := some true }
  let t : Tree := { outputDir := .text ['o'], settings, escapes := true }
  have built : (build (.fixed .sensitive false) settings (.text ['o']) ()).1 = .ok t := rfl
  have built' : (build (.scripted false) settings (.text ['o']) []).1 = .ok t := rfl
  refine ⟨settings, t, [⟨[['A']], ['x'], ?_, ?_⟩, ⟨[['a']], ['x'], ?_, ?_⟩,
    ⟨[['a']], ['X'], ?_, ?_⟩], rfl, rfl, built, ?_, ?_, ?_,
    allocateAll_below_independent rfl rfl built built' [['a']] _ () []⟩
  all_goals decide +kernel

end Tree

end ClassLayout
