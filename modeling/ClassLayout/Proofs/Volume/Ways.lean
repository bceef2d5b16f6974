import ClassLayout.Volume.Basic

namespace ClassLayout.Volume

structure Descends (v : Volume) (goal : Goal) (place : Place) (piece : Text) (rest : List Text) :
    Prop where
  directory : v.node? place = some .directory
  named : Path.isBlank piece = false
  notUp : piece ≠ ['.', '.']
  allowed : ¬ (goal.creates ∧ rest ≠ [] ∧ rest.all List.isEmpty)
  short : piece.bytes ≤ longestName

/-- The place to which the pieces of a path lead, with so many links at most. -/
inductive Leads (v : Volume) (goal : Goal) : Nat → Place → List Text → Place → Prop
  | here {links : Nat} {place : Place} : Leads v goal links place [] place
  | blank {links : Nat} {place last : Place} {piece : Text} {rest : List Text}
      (directory : v.node? place = some .directory) (blank : Path.isBlank piece = true)
      (onward : Leads v goal links place rest last) : Leads v goal links place (piece :: rest) last
  | up {links : Nat} {place last : Place} {rest : List Text}
      (directory : v.node? place = some .directory)
      (onward : Leads v goal links place.parent rest last) :
      Leads v goal links place (['.', '.'] :: rest) last
  | free {links : Nat} {place : Place} {piece : Text} (descends : v.Descends goal place piece [])
      (free : v.node? (place.child piece) = none) :
      Leads v goal links place [piece] (place.child piece)
  | down {links : Nat} {place last : Place} {piece : Text} {rest : List Text} {n : Node}
      (descends : v.Descends goal place piece rest) (there : v.node? (place.child piece) = some n)
      (noLink : ∀ target, n ≠ .link target)
      (onward : Leads v goal links (place.child piece) rest last) :
      Leads v goal links place (piece :: rest) last
  | link {links : Nat} {place : Place} {piece target : Text}
      (descends : v.Descends goal place piece [])
      (link : v.node? (place.child piece) = some (.link target))
      (stays : goal.followsLast = false) :
      Leads v goal links place [piece] (place.child piece)
  | jump {links : Nat} {place last : Place} {piece target : Text} {rest : List Text}
      (descends : v.Descends goal place piece rest)
      (link : v.node? (place.child piece) = some (.link target)) (spelled : target ≠ [])
      (follows : rest ≠ [] ∨ goal.followsLast = true)
      (onward : Leads v goal links (start place target) (Text.pieces '/' target ++ rest) last) :
      Leads v goal (links + 1) place (piece :: rest) last

variable {v w : Volume} {goal : Goal} {links : Nat} {place last : Place} {piece : Text}
  {pieces rest : List Text}

def jumpWith (v : Volume) (goal : Goal) : Nat → Place → List Text → Except Fault Place
  | 0 => fun _ _ => .error .tooManyLinks
  | links + 1 => v.follow goal links

theorem follow_eq (v : Volume) (goal : Goal) (links : Nat) :
    v.follow goal links = v.followWith goal (v.jumpWith goal links) := by
  cases links with
  | zero => rfl
  | succ links => rfl

theorem follow_nil : v.follow goal links place [] = .ok place := by
  rw [follow_eq, followWith]

theorem follow_of_not_directory (h : v.node? place ≠ some .directory) :
    v.follow goal links place (piece :: rest) = .error .notDirectory := by
  rw [follow_eq, followWith, if_pos h]

theorem follow_of_blank (h : v.node? place = some .directory) (hblank : Path.isBlank piece = true) :
    v.follow goal links place (piece :: rest) = v.follow goal links place rest := by
  rw [follow_eq, followWith, if_neg (not_not_intro h), if_pos hblank]

theorem follow_up (h : v.node? place = some .directory) :
    v.follow goal links place (['.', '.'] :: rest) = v.follow goal links place.parent rest := by
  rw [follow_eq, followWith, if_neg (not_not_intro h), if_neg (by decide), if_pos rfl]

theorem Descends.follow_eq (h : v.Descends goal place piece rest) (links : Nat) :
    v.follow goal links place (piece :: rest) =
      match v.node? (place.child piece) with
      | none => if rest = [] then .ok (place.child piece) else .error .notFound
      | some (.link target) =>
          if rest = [] ∧ !goal.followsLast then .ok (place.child piece)
          else if target = [] then .error .notFound
          else v.jumpWith goal links (start place target) (Text.pieces '/' target ++ rest)
      | some _ => v.follow goal links (place.child piece) rest := by
  rw [Volume.follow_eq, followWith, if_neg (not_not_intro h.directory),
    if_neg (Bool.not_eq_true _ ▸ h.named), if_neg h.notUp, if_neg h.allowed]
  exact if_neg (Nat.not_lt.2 h.short)

theorem Leads.follow_eq_ok (h : v.Leads goal links place pieces last) :
    v.follow goal links place pieces = .ok last := by
  induction h with
  | here => exact follow_nil
  | blank directory blank _ ih => rw [follow_of_blank directory blank, ih]
  | up directory _ ih => rw [follow_up directory, ih]
  | free descends free =>
      rw [descends.follow_eq, free]
      rfl
  | @down _ _ _ _ _ n descends there noLink _ ih =>
      rw [descends.follow_eq, there]
      cases n with
      | directory => exact ih
      | file content => exact ih
      | link target => exact absurd rfl (noLink target)
  | link descends link stays =>
      rw [descends.follow_eq, link, stays]
      rfl
  | jump descends link spelled follows _ ih =>
      rw [descends.follow_eq, link]
      dsimp only
      rw [if_neg, if_neg spelled]
      · exact ih
      · rintro ⟨hlast, hstays⟩
        rcases follows with hrest | hfollows
        · exact hrest hlast
        · rw [hfollows] at hstays
          cases hstays

theorem Descends.leads (h : v.Descends goal place piece rest)
    (hdown : v.follow goal links (place.child piece) rest = .ok last →
      v.Leads goal links (place.child piece) rest last)
    (hjump : ∀ fewer p ps, links = fewer + 1 → v.follow goal fewer p ps = .ok last →
      v.Leads goal fewer p ps last)
    (hfollow : v.follow goal links place (piece :: rest) = .ok last) :
    v.Leads goal links place (piece :: rest) last := by
  rw [h.follow_eq] at hfollow
  cases hnode : v.node? (place.child piece) with
  | none =>
      rw [hnode] at hfollow
      dsimp only at hfollow
      split at hfollow
      · rename_i hrest
        subst hrest
        cases hfollow
        exact .free h hnode
      · cases hfollow
  | some n =>
      rw [hnode] at hfollow
      cases n with
      | directory => exact .down h hnode (fun _ he => by cases he) (hdown hfollow)
      | file content => exact .down h hnode (fun _ he => by cases he) (hdown hfollow)
      | link target =>
          dsimp only at hfollow
          split at hfollow
          · rename_i hstays
            obtain ⟨rfl, hstays⟩ := hstays
            cases hfollow
            exact .link h hnode (by simpa using hstays)
          · rename_i hgoes
            split at hfollow
            · cases hfollow
            · rename_i hspelled
              cases links with
              | zero => cases hfollow
              | succ fewer =>
                  refine .jump h hnode hspelled ?_ (hjump fewer _ _ rfl hfollow)
                  by_cases hrest : rest = []
                  · right
                    simpa [hrest] using hgoes
                  · exact .inl hrest

theorem descends_of_follow_eq_ok (hdirectory : v.node? place = some .directory)
    (hnamed : ¬ Path.isBlank piece) (hup : piece ≠ ['.', '.'])
    (h : v.follow goal links place (piece :: rest) = .ok last) :
    v.Descends goal place piece rest := by
  rw [follow_eq, followWith, if_neg (not_not_intro hdirectory), if_neg hnamed, if_neg hup] at h
  split at h
  · cases h
  · rename_i hallowed
    split at h
    · cases h
    · rename_i hshort
      exact ⟨hdirectory, by simpa using hnamed, hup, hallowed, Nat.not_lt.1 hshort⟩

theorem leads_of_follow_eq_ok (h : v.follow goal links place pieces = .ok last) :
    v.Leads goal links place pieces last := by
  induction links using Nat.strongRecOn generalizing place pieces with
  | ind links ihlinks =>
      induction pieces generalizing place with
      | nil =>
          rw [follow_nil] at h
          cases h
          exact .here
      | cons piece rest ih =>
          by_cases hdirectory : v.node? place = some .directory
          · by_cases hblank : Path.isBlank piece
            · rw [follow_of_blank hdirectory hblank] at h
              exact .blank hdirectory hblank (ih h)
            · by_cases hup : piece = ['.', '.']
              · subst hup
                rw [follow_up hdirectory] at h
                exact .up hdirectory (ih h)
              · refine (descends_of_follow_eq_ok hdirectory hblank hup h).leads ih ?_ h
                rintro fewer p ps rfl hfollow
                exact ihlinks fewer (Nat.lt_succ_self _) hfollow
          · rw [follow_of_not_directory hdirectory] at h
            cases h

theorem follow_eq_ok_iff :
    v.follow goal links place pieces = .ok last ↔ v.Leads goal links place pieces last :=
  ⟨leads_of_follow_eq_ok, Leads.follow_eq_ok⟩

theorem locate_eq_ok_iff {path : Text} : v.locate goal path = .ok last ↔
    flaw? path = none ∧
      v.Leads goal mostLinks (start v.workingDir path) (Text.pieces '/' path) last := by
  unfold locate
  cases flaw? path with
  | some fault => simp
  | none => simp [follow_eq_ok_iff]

section Goals

variable {goal' : Goal}

theorem Descends.changeGoal {rest' : List Text} (h : v.Descends goal place piece rest)
    (hcreates : goal'.creates = false) : v.Descends goal' place piece rest' where
  directory := h.directory
  named := h.named
  notUp := h.notUp
  allowed hc := by
    rw [hcreates] at hc
    cases hc.1
  short := h.short

/-- A goal that creates nothing has no more conditions than another. If it goes on from a link at
the end, where the other stays, the place must be no link. -/
theorem Leads.changeGoal (h : v.Leads goal links place pieces last)
    (hcreates : goal'.creates = false) (hfollows : goal.followsLast → goal'.followsLast)
    (hlast : goal'.followsLast → goal.followsLast ∨ ∀ target, v.node? last ≠ some (.link target)) :
    v.Leads goal' links place pieces last := by
  induction h with
  | here => exact .here
  | blank directory blank _ ih => exact .blank directory blank (ih hlast)
  | up directory _ ih => exact .up directory (ih hlast)
  | free descends free => exact .free (descends.changeGoal hcreates) free
  | down descends there noLink _ ih =>
      exact .down (descends.changeGoal hcreates) there noLink (ih hlast)
  | link descends link stays =>
      refine .link (descends.changeGoal hcreates) link ?_
      rw [← Bool.not_eq_true]
      intro hgoes
      rcases hlast hgoes with hgoes | hlast
      · rw [stays] at hgoes
        cases hgoes
      · exact hlast _ link
  | jump descends link spelled follows _ ih =>
      exact .jump (descends.changeGoal hcreates) link spelled (follows.imp id hfollows) (ih hlast)

theorem Leads.exists_remove (h : v.Leads goal links place pieces last) :
    ∃ p, v.Leads .remove links place pieces p ∧
      (p = last ∨ ∃ target, v.node? p = some (.link target)) := by
  induction h with
  | here => exact ⟨_, .here, .inl rfl⟩
  | blank directory blank _ ih =>
      obtain ⟨p, hp, hlast⟩ := ih
      exact ⟨p, .blank directory blank hp, hlast⟩
  | up directory _ ih =>
      obtain ⟨p, hp, hlast⟩ := ih
      exact ⟨p, .up directory hp, hlast⟩
  | free descends free => exact ⟨_, .free (descends.changeGoal rfl) free, .inl rfl⟩
  | down descends there noLink _ ih =>
      obtain ⟨p, hp, hlast⟩ := ih
      exact ⟨p, .down (descends.changeGoal rfl) there noLink hp, hlast⟩
  | link descends link _ =>
      exact ⟨_, .link (descends.changeGoal rfl) link rfl, .inl rfl⟩
  | @jump _ _ _ _ _ rest descends link spelled _ _ ih =>
      by_cases hrest : rest = []
      · subst hrest
        exact ⟨_, .link (descends.changeGoal rfl) link rfl, .inr ⟨_, link⟩⟩
      · obtain ⟨p, hp, hlast⟩ := ih
        exact ⟨p, .jump (descends.changeGoal rfl) link spelled (.inl hrest) hp, hlast⟩

end Goals

def way? (v : Volume) (place : Place) : Option Node :=
  match v.node? place with
  | some .directory => some .directory
  | some (.link target) => some (.link target)
  | _ => none

/-- The volumes differ at most in where files are and what is in them. -/
structure SameWays (v w : Volume) : Prop where
  workingDir_eq : v.workingDir = w.workingDir
  way?_eq : ∀ place, v.way? place = w.way? place

theorem way?_eq_directory_iff :
    v.way? place = some .directory ↔ v.node? place = some .directory := by
  unfold way?
  cases v.node? place with
  | none => simp
  | some n => cases n <;> simp

theorem way?_eq_link_iff {target : Text} :
    v.way? place = some (.link target) ↔ v.node? place = some (.link target) := by
  unfold way?
  cases v.node? place with
  | none => simp
  | some n => cases n <;> simp

theorem way?_eq_none_iff : v.way? place = none ↔
    v.node? place = none ∨ ∃ content, v.node? place = some (.file content) := by
  unfold way?
  cases v.node? place with
  | none => simp
  | some n => cases n <;> simp

theorem Leads.eq_here (h : v.Leads goal links place pieces last)
    (hplace : v.node? place ≠ some .directory) : pieces = [] ∧ last = place := by
  cases h with
  | here => exact ⟨rfl, rfl⟩
  | blank directory => exact absurd directory hplace
  | up directory => exact absurd directory hplace
  | free descends => exact absurd descends.directory hplace
  | down descends => exact absurd descends.directory hplace
  | link descends => exact absurd descends.directory hplace
  | jump descends => exact absurd descends.directory hplace

namespace SameWays

theorem symm (h : v.SameWays w) : w.SameWays v :=
  ⟨h.workingDir_eq.symm, fun p => (h.way?_eq p).symm⟩

theorem trans {x : Volume} (h : v.SameWays w) (h' : w.SameWays x) : v.SameWays x :=
  ⟨h.workingDir_eq.trans h'.workingDir_eq, fun p => (h.way?_eq p).trans (h'.way?_eq p)⟩

theorem directory (h : v.SameWays w) (hv : v.node? place = some .directory) :
    w.node? place = some .directory := by
  rwa [← way?_eq_directory_iff, ← h.way?_eq, way?_eq_directory_iff]

theorem link (h : v.SameWays w) {target : Text} (hv : v.node? place = some (.link target)) :
    w.node? place = some (.link target) := by
  rwa [← way?_eq_link_iff, ← h.way?_eq, way?_eq_link_iff]

theorem descends (h : v.SameWays w) (hv : v.Descends goal place piece rest) :
    w.Descends goal place piece rest :=
  ⟨h.directory hv.directory, hv.named, hv.notUp, hv.allowed, hv.short⟩

theorem leads_name (h : v.SameWays w) (hv : v.Descends goal place piece [])
    (hway : v.way? (place.child piece) = none) :
    w.Leads goal links place [piece] (place.child piece) := by
  rw [h.way?_eq] at hway
  rcases way?_eq_none_iff.1 hway with hfree | ⟨content, hfile⟩
  · exact .free (h.descends hv) hfree
  · exact .down (h.descends hv) hfile (fun _ he => by cases he) .here

theorem leads (h : v.SameWays w) (hv : v.Leads goal links place pieces last) :
    w.Leads goal links place pieces last := by
  induction hv with
  | here => exact .here
  | blank directory blank _ ih => exact .blank (h.directory directory) blank ih
  | up directory _ ih => exact .up (h.directory directory) ih
  | free descends free => exact h.leads_name descends (way?_eq_none_iff.2 (.inl free))
  | @down links place last piece rest n descends there noLink onward ih =>
      cases n with
      | directory => exact .down (h.descends descends) (h.directory there) noLink ih
      | file content =>
          obtain ⟨rfl, rfl⟩ := onward.eq_here (by rw [there]; exact fun he => by cases he)
          exact h.leads_name descends (way?_eq_none_iff.2 (.inr ⟨content, there⟩))
      | link target => exact absurd rfl (noLink target)
  | link descends link stays => exact .link (h.descends descends) (h.link link) stays
  | jump descends link spelled follows _ ih =>
      exact .jump (h.descends descends) (h.link link) spelled follows ih

theorem locate (h : v.SameWays w) {path : Text} (hv : v.locate goal path = .ok last) :
    w.locate goal path = .ok last := by
  rw [locate_eq_ok_iff] at hv ⊢
  rw [← h.workingDir_eq]
  exact ⟨hv.1, h.leads hv.2⟩

end SameWays

end ClassLayout.Volume
