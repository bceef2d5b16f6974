import ClassLayout.Proofs.Directory.Questions
import ClassLayout.Proofs.Tree.Counting

namespace ClassLayout

structure Event where
  place : Place
  dir : Location
  entry : Entry
  answer : Option CaseSensitivity

namespace Event

def key (rules : Rules) (r : Event) : Text := fold (rules.plainName r.entry.id)

def Settles (r : Event) : Prop := ∃ v, r.answer = some v ∧ v.isKnown

/-- What makes a request ask, told from the ones before it: its entry is new and contests names, no
verdict is forced, and nobody who met there was given an answer that settles the matter. -/
structure Asks (rules : Rules) (forced : CaseSensitivity) (past : List Event) (r : Event) :
    Prop where
  unforced : ¬ forced.isKnown
  newcomer : ∀ q ∈ past, q.place = r.place → q.entry.id ≠ r.entry.id
  meets : ∃ q ∈ past, q.place = r.place ∧ fold q.entry.name = r.key rules
  free : ∀ q ∈ past, q.place = r.place → q.entry.name ≠ rules.plainName r.entry.id
  unsettled : ∀ q ∈ past, q.place = r.place → q.key rules = r.key rules → ¬ q.Settles

end Event

inductive Conducted (rules : Rules) (forced : CaseSensitivity) : List Event → Prop
  | nil : Conducted rules forced []
  | concat {past : List Event} {r : Event} (before : Conducted rules forced past)
      (asks : r.answer.isSome ↔ r.Asks rules forced past) : Conducted rules forced (past ++ [r])

def asking (events : List Event) : List Event := events.filter (·.answer.isSome)

theorem asking_append (events more : List Event) :
    asking (events ++ more) = asking events ++ asking more := List.filter_append events more

theorem mem_asking {r : Event} {events : List Event} :
    r ∈ asking events ↔ r ∈ events ∧ r.answer.isSome := List.mem_filter

namespace Conducted

variable {rules : Rules} {forced : CaseSensitivity} {events : List Event} {r : Event}

theorem exists_past (h : Conducted rules forced events) (hr : r ∈ events) :
    ∃ past later, events = past ++ r :: later ∧
      (r.answer.isSome ↔ r.Asks rules forced past) := by
  induction h with
  | nil => exact absurd hr List.not_mem_nil
  | @concat before last _ hasks ih =>
      rcases List.mem_append.1 hr with hr | hr
      · obtain ⟨past, later, rfl, hpast⟩ := ih hr
        exact ⟨past, later ++ [last], by rw [List.append_assoc, List.cons_append], hpast⟩
      · obtain rfl := List.mem_singleton.1 hr
        exact ⟨before, [], rfl, hasks⟩

theorem asking_eq_nil (h : Conducted rules forced events) (hforced : forced.isKnown) :
    asking events = [] := by
  rw [List.eq_nil_iff_forall_not_mem]
  intro r hr
  obtain ⟨hmem, hsome⟩ := mem_asking.1 hr
  obtain ⟨_, _, _, hasks⟩ := h.exists_past hmem
  exact (hasks.1 hsome).unforced hforced

/-- Where every answer settles the matter, no two questions are about one key of one directory. -/
theorem nodup_asking (h : Conducted rules forced events)
    (hknown : ∀ v ∈ events.filterMap Event.answer, v.isKnown) :
    ((asking events).map fun r => (r.place, r.key rules)).Nodup := by
  induction h with
  | nil => exact List.nodup_nil
  | @concat past r _ hasks ih =>
      rw [List.filterMap_append] at hknown
      have hpast := ih fun v hv => hknown v (List.mem_append_left _ hv)
      rw [asking_append]
      cases hsome : r.answer.isSome with
      | false => simpa [asking, hsome] using hpast
      | true =>
          rw [asking, asking, List.filter_singleton, hsome, cond_true, List.map_append,
            List.map_singleton]
          refine List.Nodup.append hpast (List.nodup_singleton _) ?_
          rw [List.disjoint_singleton]
          intro hm
          obtain ⟨q, hq, hgroup⟩ := List.mem_map.1 hm
          obtain ⟨hmem, hanswered⟩ := mem_asking.1 hq
          obtain ⟨v, hv⟩ := Option.isSome_iff_exists.1 hanswered
          obtain ⟨hplace, hkey⟩ := Prod.mk.inj hgroup
          refine (hasks.1 hsome).unsettled q hmem hplace hkey ⟨v, hv, hknown v ?_⟩
          exact List.mem_append_left _ (List.mem_filterMap.2 ⟨q, hmem, hv⟩)

end Conducted

theorem Identifier.kind_of_mem_dropLast_steps (i : Identifier) :
    ∀ id ∈ i.steps.dropLast, id.kind = .package := by
  simp [steps]

namespace Probe

variable {σ : Type}

def interview (probe : Probe σ) : List Location → σ → List CaseSensitivity × σ
  | [], s => ([], s)
  | dir :: rest, s =>
      let (verdict, s) := probe.caseSensitivity dir s
      let (verdicts, s) := interview probe rest s
      (verdict :: verdicts, s)

theorem interview_concat (probe : Probe σ) (dirs : List Location) (dir : Location) (s : σ) :
    probe.interview (dirs ++ [dir]) s =
      ((probe.interview dirs s).1 ++ [(probe.caseSensitivity dir (probe.interview dirs s).2).1],
        (probe.caseSensitivity dir (probe.interview dirs s).2).2) := by
  induction dirs generalizing s with
  | nil => rfl
  | cons first rest ih => simp only [List.cons_append, interview, ih]

end Probe

namespace Tree

variable {σ : Type} {probe : Probe σ} {t₀ t t' : Tree} {s₀ s : σ} {c : Catalogue} {p : Place}
  {path : Location} {events : List Event}

/-- The path of the directory of a package, read off the entries on the way to it. -/
inductive LeadsTo (t : Tree) : Place → Location → Prop
  | root : LeadsTo t .root t.outputDir
  | child {p : Place} {path : Location} {segment name : Text} (above : LeadsTo t p path)
      (listed : ⟨⟨segment, .package⟩, name⟩ ∈ (t.directory p).entries) :
      LeadsTo t (p.child segment) (path.join name)

theorem LeadsTo.mono (hsetup : SameSetup t t')
    (hentries : ∀ q, (t.directory q).entries ⊆ (t'.directory q).entries) (h : t.LeadsTo p path) :
    t'.LeadsTo p path := by
  induction h with
  | root => exact hsetup.outputDir_eq ▸ .root
  | child _ listed ih => exact .child ih (hentries _ listed)

/-- The state of a tree and its surroundings, told from the requests that led there. -/
structure Transcribed (probe : Probe σ) (t₀ : Tree) (s₀ : σ) (t : Tree) (s : σ) (c : Catalogue)
    (events : List Event) : Prop where
  arrives : Arrives probe t₀ s₀ t s c
  mem_iff : ∀ q e, e ∈ c q ↔ ∃ r ∈ events, r.place = q ∧ r.entry = e
  verdict_iff : ∀ q key, ((t.directory q).verdict key).isKnown ↔
    ∃ r ∈ events, r.place = q ∧ r.key t₀.rules = key ∧ r.Settles
  conducted : Conducted t₀.rules t₀.settings.caseSensitivity events
  interview_eq : probe.interview ((asking events).map Event.dir) s₀ =
    (events.filterMap Event.answer, s)
  leadsTo : ∀ r ∈ events, t.LeadsTo r.place r.dir

namespace Transcribed

theorem mem_entries_iff (h : Transcribed probe t₀ s₀ t s c events) {q : Place} {e : Entry} :
    e ∈ (t.directory q).entries ↔ e ∈ c q := by
  rw [(h.arrives.lists q).1.entries_eq, List.mem_toFinset]

theorem mem_entries_of_mem (h : Transcribed probe t₀ s₀ t s c events) {r : Event}
    (hr : r ∈ events) : r.entry ∈ (t.directory r.place).entries :=
  h.mem_entries_iff.2 ((h.mem_iff _ _).2 ⟨r, hr, rfl, rfl⟩)

theorem forall_mem_iff (h : Transcribed probe t₀ s₀ t s c events) (q : Place) (P : Entry → Prop) :
    (∀ e ∈ c q, P e) ↔ ∀ r ∈ events, r.place = q → P r.entry := by
  constructor
  · intro hc r hr hplace
    exact hc r.entry ((h.mem_iff q r.entry).2 ⟨r, hr, hplace, rfl⟩)
  · intro hevents e he
    obtain ⟨r, hr, hplace, rfl⟩ := (h.mem_iff q e).1 he
    exact hevents r hr hplace

theorem asks_iff (h : Transcribed probe t₀ s₀ t s c events) (path : Location) (r : Event) :
    r.Asks t₀.rules t₀.settings.caseSensitivity events ↔
      (t.naming probe path).Asks (t.directory r.place) (c r.place) r.entry.id := by
  have hforced : (t.naming probe path).forced = t₀.settings.caseSensitivity := by
    rw [← h.arrives.sameSetup.settings_eq]
    rfl
  have hrules : (t.naming probe path).rules = t₀.rules := h.arrives.sameSetup.rules_eq
  have hnew : r.entry.id ∉ (c r.place).map Entry.id ↔ ∀ e ∈ c r.place, e.id ≠ r.entry.id := by
    simp
  unfold Naming.Asks Listing.Contests
  rw [hforced, hrules, h.verdict_iff, hnew, h.forall_mem_iff, h.forall_mem_iff]
  constructor
  · intro hasks
    obtain ⟨q, hq, hplace, hkey⟩ := hasks.meets
    refine ⟨hasks.unforced, ⟨hasks.newcomer, ?_, hasks.free⟩, ?_⟩
    · exact ⟨q.entry, (h.mem_iff _ _).2 ⟨q, hq, hplace, rfl⟩, hkey⟩
    · rintro ⟨q, hq, hplace, hkey, hsettles⟩
      exact hasks.unsettled q hq hplace hkey hsettles
  · rintro ⟨hunforced, ⟨hnewcomer, ⟨e, he, hkey⟩, hfree⟩, hunsettled⟩
    obtain ⟨q, hq, hplace, rfl⟩ := (h.mem_iff _ _).1 he
    refine ⟨hunforced, hnewcomer, ⟨q, hq, hplace, hkey⟩, hfree, ?_⟩
    intro q hq hplace hkey hsettles
    exact hunsettled ⟨q, hq, hplace, hkey, hsettles⟩

theorem exists_mem_concat {r : Event} {P : Event → Prop} :
    (∃ q ∈ events ++ [r], P q) ↔ (∃ q ∈ events, P q) ∨ P r := by
  simp only [List.mem_append, List.mem_singleton, or_and_right, exists_or, exists_eq_left]

theorem mem_concat_iff (h : Transcribed probe t₀ s₀ t s c events) {l : Listing} {r : Event}
    (hl : ∀ e, e ∈ l ↔ e ∈ c r.place ∨ e = r.entry) (q : Place) (e : Entry) :
    e ∈ Function.update c r.place l q ↔ ∃ r' ∈ events ++ [r], r'.place = q ∧ r'.entry = e := by
  rw [exists_mem_concat, ← h.mem_iff]
  by_cases hq : q = r.place
  · subst q
    rw [Function.update_self, hl, and_iff_right rfl, eq_comm]
  · rw [Function.update_of_ne hq, or_iff_left]
    exact fun he => hq he.1.symm

theorem verdict_concat_iff (h : Transcribed probe t₀ s₀ t s c events) {reply : Reply σ}
    {r : Event}
    (hheeds : reply.Heeds (t.naming probe path) (t.directory r.place) (r.key t₀.rules) s r.answer)
    (hasks : r.answer.isSome → ¬ ((t.directory r.place).verdict (r.key t₀.rules)).isKnown)
    (q : Place) (key : Text) :
    (((t.withDirectory r.place reply.directory reply.tally).directory q).verdict key).isKnown ↔
      ∃ r' ∈ events ++ [r], r'.place = q ∧ r'.key t₀.rules = key ∧ r'.Settles := by
  rw [exists_mem_concat, ← h.verdict_iff, directory_withDirectory]
  by_cases hq : q = r.place
  · subst q
    rw [if_pos rfl, hheeds.isKnown_iff hasks, and_iff_right rfl]
    rfl
  · rw [if_neg hq, or_iff_left]
    exact fun he => hq he.1.symm

theorem interview_concat (h : Transcribed probe t₀ s₀ t s c events) {reply : Reply σ}
    {d : Directory} {key : Text} {answer : Option CaseSensitivity}
    (hheeds : reply.Heeds (t.naming probe path) d key s answer) (p : Place) (entry : Entry) :
    probe.interview ((asking (events ++ [⟨p, path, entry, answer⟩])).map Event.dir) s₀ =
      (events.filterMap Event.answer ++ answer.toList, reply.state) := by
  rw [asking_append]
  cases hheeds with
  | silent hstate _ =>
      rw [hstate]
      simpa [asking] using h.interview_eq
  | asked hstate _ =>
      have hinterview := probe.interview_concat ((asking events).map Event.dir) path s₀
      rw [h.interview_eq] at hinterview
      rw [hstate]
      simpa [asking, naming] using hinterview

theorem request (h : Transcribed probe t₀ s₀ t s c events) (hpath : t.LeadsTo p path) (id : EntryId)
    {reply : Reply σ} (hr : (t.directory p).entryFor (t.naming probe path) id s = reply) :
    reply.entry.id = id ∧ ∃ c' answer,
      Transcribed probe t₀ s₀ (t.withDirectory p reply.directory reply.tally) reply.state c'
        (events ++ [⟨p, path, reply.entry, answer⟩]) := by
  obtain ⟨v, _, hentry, harrives⟩ := h.arrives.request p path id hr
  have hid : reply.entry.id = id := by rw [hentry, Listing.entryFor_id]
  have hp : (t.directory p).Lists (t.naming probe path).rules _ (c p) := (h.arrives.lists p).1
  obtain ⟨answer, hheeds, hasks⟩ := hp.entryFor_heeds (h.arrives.lists p).2 id s
  have hkey : fold ((t.naming probe path).rules.plainName id) =
      Event.key t₀.rules ⟨p, path, reply.entry, answer⟩ := by
    rw [Event.key, hid, ← h.arrives.sameSetup.rules_eq]
    rfl
  rw [hr, hkey] at hheeds
  rw [Naming.Asks, hkey] at hasks
  have hmem := h.mem_concat_iff (r := ⟨p, path, reply.entry, answer⟩)
    (l := (Listing.entryFor t.rules v (c p) id).2) fun e => by rw [hentry, Listing.mem_entryFor]
  have hverdict := h.verdict_concat_iff (r := ⟨p, path, reply.entry, answer⟩) hheeds fun ha =>
    (hasks.1 ha).2.2
  have hsubset (q : Place) : (t.directory q).entries ⊆
      ((t.withDirectory p reply.directory reply.tally).directory q).entries := by
    intro e he
    rw [(harrives.lists q).1.entries_eq, List.mem_toFinset, hmem, exists_mem_concat, ← h.mem_iff]
    exact .inl (h.mem_entries_iff.1 he)
  have hsetup := sameSetup_withDirectory t p reply.directory reply.tally
  refine ⟨hid, _, answer, harrives, hmem, hverdict, ?_, ?_, ?_⟩
  · refine .concat h.conducted ?_
    rw [h.asks_iff path, Naming.Asks, hid, hkey]
    exact hasks
  · rw [h.interview_concat hheeds, List.filterMap_append]
    cases answer with
    | none => rfl
    | some v => rfl
  · intro r hmore
    rcases List.mem_append.1 hmore with hmore | hmore
    · exact (h.leadsTo r hmore).mono hsetup hsubset
    · obtain rfl := List.mem_singleton.1 hmore
      exact hpath.mono hsetup hsubset

theorem walk (ids : List EntryId) (h : Transcribed probe t₀ s₀ t s c events)
    (hpath : ids ≠ [] → t.LeadsTo p path) (hids : ∀ id ∈ ids.dropLast, id.kind = .package) :
    ∃ c' more, Transcribed probe t₀ s₀ (walk probe ids p path t s).tree
        (walk probe ids p path t s).state c' (events ++ more) ∧
      (walk probe ids p path t s).names = .ok (more.map (·.entry.name)) ∧
      more.map (fun r => (r.place, r.entry.id)) = visits p ids := by
  induction ids generalizing p path t s c events with
  | nil => exact ⟨c, [], by rwa [List.append_nil], rfl, rfl⟩
  | cons id rest ih =>
      generalize hr : (t.directory p).entryFor (t.naming probe path) id s = reply
      obtain ⟨hid, c₁, answer, hnext⟩ :=
        h.request (hpath (List.cons_ne_nil id rest)) id hr
      -- what is left of the way starts at the entry just made, a package
      have hbelow : rest ≠ [] → (t.withDirectory p reply.directory reply.tally).LeadsTo
          (p.child id.segment) (path.join reply.entry.name) := by
        intro hrest
        have hkind : id.kind = .package := by
          refine hids id ?_
          rw [List.dropLast_cons_of_ne_nil hrest]
          exact List.mem_cons_self
        have hlast := List.mem_append_right events (List.mem_singleton_self
          (⟨p, path, reply.entry, answer⟩ : Event))
        have hlisted := hnext.mem_entries_of_mem hlast
        refine .child (hnext.leadsTo _ hlast) ?_
        rwa [← hkind, ← hid]
      have hrest : ∀ id' ∈ rest.dropLast, id'.kind = .package := by
        intro id' hm
        refine hids id' ?_
        rw [List.dropLast_cons_of_ne_nil]
        · exact List.mem_cons_of_mem id hm
        · rintro rfl
          exact List.not_mem_nil hm
      obtain ⟨c', more, htranscribed, hnames, hplaces⟩ := ih hnext hbelow hrest
      rw [walk_cons probe rest hr hid]
      refine ⟨c', ⟨p, path, reply.entry, answer⟩ :: more, ?_, ?_, ?_⟩
      · rwa [List.append_assoc] at htranscribed
      · simp only [hnames]
        rfl
      · rw [List.map_cons, hplaces, hid]
        rfl

theorem allocateAll (identifiers : List Identifier) (h : Transcribed probe t₀ s₀ t s c events) :
    ∃ c', ∃ given : List (List Text), ∃ more,
      Transcribed probe t₀ s₀ (t.allocateAll probe identifiers s).2.1
        (t.allocateAll probe identifiers s).2.2 c' (events ++ more) ∧
      (t.allocateAll probe identifiers s).1 =
        given.map (fun names => .ok (t₀.outputDir.joinAll names)) ∧
      more.map (·.entry.name) = given.flatten ∧
      more.map (fun r => (r.place, r.entry.id)) =
        identifiers.flatMap fun i => visits .root i.steps := by
  induction identifiers generalizing t s c events with
  | nil => exact ⟨c, [], [], by rwa [List.append_nil], rfl, rfl, rfl⟩
  | cons i rest ih =>
      have hroot : i.steps ≠ [] → t.LeadsTo .root t.outputDir := fun _ => .root
      obtain ⟨c₁, first, hwalk, hnames, hplaces⟩ :=
        h.walk i.steps hroot i.kind_of_mem_dropLast_steps
      obtain ⟨c', given, more, htranscribed, hpaths, hgiven, hvisits⟩ := ih hwalk
      refine ⟨c', first.map (·.entry.name) :: given, first ++ more, ?_, ?_, ?_, ?_⟩
      · rwa [List.append_assoc] at htranscribed
      · have hpath : (t.allocate probe i s).1 =
            .ok (t₀.outputDir.joinAll (first.map (·.entry.name))) := by
          rw [← h.arrives.sameSetup.outputDir_eq, allocate, namesFor, hnames]
          rfl
        rw [List.map_cons, ← hpath, ← hpaths]
        rfl
      · rw [List.map_append, hgiven, List.flatten_cons]
      · rw [List.map_append, hplaces, hvisits, List.flatMap_cons]

theorem two_le_meeting (h : Transcribed probe t₀ s₀ t s c events) {r : Event}
    (hr : r ∈ asking events) :
    2 ≤ (Listing.meeting t.rules (c r.place) (r.key t₀.rules)).length := by
  obtain ⟨hmem, hsome⟩ := mem_asking.1 hr
  obtain ⟨past, later, rfl, hasks⟩ := h.conducted.exists_past hmem
  obtain ⟨q, hq, hplace, hkey⟩ := (hasks.1 hsome).meets
  have hrules := h.arrives.sameSetup.rules_eq
  have hother : q.entry ≠ r.entry := fun he =>
    (hasks.1 hsome).newcomer q hq hplace (congrArg Entry.id he)
  have hfirst : q.entry ∈ Listing.meeting t.rules (c r.place) (r.key t₀.rules) :=
    Listing.mem_meeting.2
      ⟨(h.mem_iff _ _).2 ⟨q, List.mem_append_left _ hq, hplace, rfl⟩, .inl hkey⟩
  have hsecond : r.entry ∈ Listing.meeting t.rules (c r.place) (r.key t₀.rules) :=
    Listing.mem_meeting.2
      ⟨(h.mem_iff _ _).2 ⟨r, hmem, rfl, rfl⟩, .inr (by rw [hrules]; rfl)⟩
  have hcard : 1 < (Listing.meeting t.rules (c r.place) (r.key t₀.rules)).toFinset.card :=
    Finset.one_lt_card.2 ⟨q.entry, List.mem_toFinset.2 hfirst, r.entry, List.mem_toFinset.2 hsecond,
      hother⟩
  exact hcard.trans_le (List.toFinset_card_le _)

theorem mem_sharedKeys (h : Transcribed probe t₀ s₀ t s c events) {r : Event}
    (hr : r ∈ asking events) : (r.place, r.key t₀.rules) ∈ t.sharedKeys :=
  h.arrives.lists.mem_sharedKeys.2 (h.two_le_meeting hr)

theorem exists_group (h : Transcribed probe t₀ s₀ t s c events) {r : Event}
    (hr : r ∈ asking events) :
    ∃ g, (t.directory r.place).index.get? (r.key t₀.rules) = some (.group g) := by
  have htwo := h.two_le_meeting hr
  have hkey := (h.arrives.lists r.place).1 (r.key t₀.rules)
  cases hslot : (t.directory r.place).index.get? (r.key t₀.rules) with
  | none =>
      rw [hslot] at hkey
      rw [hkey.eq_nil] at htwo
      exact absurd htwo (by decide)
  | some slot =>
      rw [hslot] at hkey
      cases slot with
      | single e =>
          rw [hkey.eq_singleton] at htwo
          exact absurd htwo (by simp)
      | group g => exact ⟨g, rfl⟩

end Transcribed

theorem BuiltFrom.transcribed {settings : Settings} {outputDir : Location}
    (h : BuiltFrom t settings outputDir) (probe : Probe σ) (s : σ) :
    Transcribed probe t s t s .empty [] where
  arrives := ⟨h.lists _, .refl t, .here⟩
  mem_iff := by simp [Catalogue.empty]
  verdict_iff := by
    intro q key
    have hempty : t.directory q = {} := directory_of_get?_eq_none (by rw [h.directories_eq]; rfl)
    rw [hempty]
    simp [Directory.verdict, CaseSensitivity.isKnown]
  conducted := .nil
  interview_eq := rfl
  leadsTo := fun _ hr => absurd hr List.not_mem_nil

end Tree

end ClassLayout
