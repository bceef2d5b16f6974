import ClassLayout.Proofs.Tree.Transcript

namespace ClassLayout

theorem Probe.caseSensitivity_recording {σ : Type} (probe : Probe σ) (dir : Location) (s : σ)
    (calls : List Call) :
    probe.recording.caseSensitivity dir (s, calls) =
      ((probe.caseSensitivity dir s).1, (probe.caseSensitivity dir s).2, calls ++ [.case dir]) :=
  rfl

theorem Probe.interview_recording {σ : Type} (probe : Probe σ) (dirs : List Location) (s : σ)
    (calls : List Call) :
    probe.recording.interview dirs (s, calls) =
      ((probe.interview dirs s).1, (probe.interview dirs s).2, calls ++ dirs.map .case) := by
  induction dirs generalizing s calls with
  | nil => simp [interview]
  | cons dir rest ih => simp [interview, caseSensitivity_recording, ih]

namespace Tree

variable {σ : Type} {settings : Settings} {outputDir : Location} {t : Tree}

/-- How a run on a recorded probe interviews the volume: through which of its requests, and with
what questions. -/
structure Interviewed (probe : Probe σ) (t : Tree) (identifiers : List Identifier) (s : σ)
    (calls : List Call) (events : List Event) : Prop where
  requests_eq : events.map (fun r => (r.place, r.entry.id)) =
    identifiers.flatMap fun i => visits .root i.steps
  listed : ∀ r ∈ events, r.entry ∈
    ((t.allocateAll probe.recording identifiers (s, calls)).2.1.directory r.place).entries
  names_eq : ∃ given : List (List Text), given.flatten = events.map (·.entry.name) ∧
    (t.allocateAll probe.recording identifiers (s, calls)).1 =
      given.map fun names => .ok (t.outputDir.joinAll names)
  conducted : Conducted t.rules t.settings.caseSensitivity events
  calls_eq : (t.allocateAll probe.recording identifiers (s, calls)).2.2.2 =
    calls ++ (asking events).map fun r => .case r.dir
  answers_eq : probe.interview ((asking events).map Event.dir) s =
    (events.filterMap Event.answer, (t.allocateAll probe.recording identifiers (s, calls)).2.2.1)
  leadsTo : ∀ r ∈ asking events,
    (t.allocateAll probe.recording identifiers (s, calls)).2.1.LeadsTo r.place r.dir
  exists_group : ∀ r ∈ asking events, ∃ g,
    ((t.allocateAll probe.recording identifiers (s, calls)).2.1.directory r.place).index.get?
      (r.key t.rules) = some (.group g)
  never_if_forced : t.settings.caseSensitivity.isKnown → asking events = []
  once_if_known : (∀ v ∈ events.filterMap Event.answer, v.isKnown) →
    ((asking events).map fun r => (r.place, r.key t.rules)).Nodup ∧
      (asking events).length ≤
        (t.allocateAll probe.recording identifiers (s, calls)).2.1.stats.virtualGroups

theorem calls_build (probe : Probe σ) (settings : Settings) (outputDir : Location) (s : σ)
    (calls : List Call) :
    (build probe.recording settings outputDir (s, calls)).2.2 =
      calls ++ if settings.flaw? = none ∧ settings.escapeReservedNames = none then
        [.reserved outputDir settings.fileExtension] else [] := by
  unfold build
  cases hflaw : settings.flaw? with
  | some flaw => simp
  | none =>
      cases hescape : settings.escapeReservedNames with
      | some escapes => simp
      | none => simp [Probe.recording]

theorem Transcribed.length_asking_le {probe : Probe σ} {t₀ : Tree} {s₀ s : σ} {c : Catalogue}
    {events : List Event} (h : Transcribed probe t₀ s₀ t s c events)
    (hnodup : ((asking events).map fun r => (r.place, r.key t₀.rules)).Nodup) :
    (asking events).length ≤ t.sharedKeys.card := by
  rw [← List.length_map fun r => (r.place, r.key t₀.rules), ← List.toFinset_card_of_nodup hnodup]
  apply Finset.card_le_card
  intro group hgroup
  obtain ⟨r, hr, rfl⟩ := List.mem_map.1 (List.mem_toFinset.1 hgroup)
  exact h.mem_sharedKeys hr

theorem exists_interviewed {probe : Probe σ} {s₀ : σ × List Call}
    (built : (build probe.recording settings outputDir s₀).1 = .ok t)
    (identifiers : List Identifier) (s : σ) (calls : List Call) :
    ∃ events, Interviewed probe t identifiers s calls events := by
  have hstart := (builtFrom_of_build built).transcribed probe.recording (s, calls)
  obtain ⟨c, given, events, htranscribed, hpaths, hnames, hrequests⟩ :=
    hstart.allocateAll identifiers
  rw [List.nil_append] at htranscribed
  have hinterview := htranscribed.interview_eq
  rw [Probe.interview_recording] at hinterview
  obtain ⟨hanswers, hstate⟩ := Prod.mk.inj hinterview
  have hcounts := counts_allocateAll built identifiers (s, calls)
  refine ⟨events, hrequests, ?_, ⟨given, hnames.symm, hpaths⟩, htranscribed.conducted, ?_, ?_,
    fun r hr => htranscribed.leadsTo r (mem_asking.1 hr).1,
    fun r hr => htranscribed.exists_group hr, htranscribed.conducted.asking_eq_nil, ?_⟩
  · exact fun r hr => htranscribed.mem_entries_of_mem hr
  · rw [← hstate, List.map_map]
    rfl
  · rw [← hstate, ← hanswers]
  · intro hknown
    have hnodup := htranscribed.conducted.nodup_asking hknown
    exact ⟨hnodup, hcounts.virtualGroups_eq ▸ htranscribed.length_asking_le hnodup⟩

/-- The question about device names is put once at most, while a tree is built. From then on only
requests that contest names in a group whose verdict is open ask, about the case of letters. -/
theorem build_allocateAll_interview (probe : Probe σ) (settings : Settings) (outputDir : Location)
    (s : σ) (calls : List Call) :
    (build probe.recording settings outputDir (s, calls)).2.2 =
        (calls ++ if settings.flaw? = none ∧ settings.escapeReservedNames = none then
          [.reserved outputDir settings.fileExtension] else []) ∧
      ∀ t, (build probe.recording settings outputDir (s, calls)).1 = .ok t →
        ∀ (identifiers : List Identifier) (s' : σ) (calls' : List Call),
          ∃ events, Interviewed probe t identifiers s' calls' events :=
  ⟨calls_build probe settings outputDir s calls, fun _ built => exists_interviewed built⟩

theorem build_allocateAll_interview_undecided :
    ∃ t identifiers,
      (build (Probe.scripted true).recording {} (.text ['o'])
        ([.unknown, .sensitive], [])).1 = .ok t ∧
      identifiers.map Identifier.display =
        ["LAB/x;".toList, "LaB/x;".toList, "LAB/y;".toList, "LAb/x;".toList, "Lab/x;".toList] ∧
      (build (Probe.scripted true).recording {} (.text ['o'])
        ([.unknown, .sensitive], [])).2.2 = [.reserved (.text ['o']) ".smali".toList] ∧
      (t.allocateAll (Probe.scripted true).recording identifiers
        ([.unknown, .sensitive], [])).2.2.2 = [.case (.text ['o']), .case (.text ['o'])] ∧
      ∃ events,
        Interviewed (.scripted true) t identifiers [.unknown, .sensitive] [] events := by
  have built : (build (Probe.scripted true).recording {} (.text ['o'])
      ([.unknown, .sensitive], [])).1 =
      .ok { outputDir := .text ['o'], settings := {}, escapes := true } := rfl
  have interview := build_allocateAll_interview (.scripted true) {} (.text ['o'])
    [.unknown, .sensitive] []
  refine ⟨_, [⟨["AB".toList], ['x'], ?_, ?_⟩, ⟨["aB".toList], ['x'], ?_, ?_⟩,
    ⟨["AB".toList], ['y'], ?_, ?_⟩, ⟨["Ab".toList], ['x'], ?_, ?_⟩, ⟨["ab".toList], ['x'], ?_, ?_⟩],
    built, ?_, interview.1, ?_, interview.2 _ built _ _ _⟩
  all_goals decide +kernel

end Tree

end ClassLayout
