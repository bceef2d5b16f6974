import ClassLayout.Proofs.Volume.Ways

namespace ClassLayout.Volume

variable {v w : Volume} {place : Place} {path : Text}

theorem ne_root_of_node?_eq_none (h : v.node? place = none) : place ≠ .root := by
  rintro rfl
  cases h

theorem ne_root_of_link {target : Text} (h : v.node? place = some (.link target)) :
    place ≠ .root := by
  rintro rfl
  cases h

theorem get?_nodes_of_ne_root (h : place ≠ .root) : v.nodes.get? place = v.node? place := by
  rw [node?, if_neg h]

theorem node?_put (h : place ≠ .root) (n : Node) (p : Place) :
    (v.put place n).node? p = if p = place then some n else v.node? p := by
  unfold node? put
  by_cases hp : p = .root
  · rw [if_pos hp, if_pos hp, if_neg fun he => h (he.symm.trans hp)]
  · rw [if_neg hp, if_neg hp, Table.get?_insert]

theorem node?_put_self (h : place ≠ .root) (n : Node) : (v.put place n).node? place = some n := by
  rw [node?_put h, if_pos rfl]

theorem node?_put_of_ne (h : place ≠ .root) (n : Node) {p : Place} (hp : p ≠ place) :
    (v.put place n).node? p = v.node? p := by
  rw [node?_put h, if_neg hp]

theorem node?_erase (h : place ≠ .root) (p : Place) :
    (v.erase place).node? p = if p = place then none else v.node? p := by
  unfold node? erase
  by_cases hp : p = .root
  · rw [if_pos hp, if_pos hp, if_neg fun he => h (he.symm.trans hp)]
  · rw [if_neg hp, if_neg hp, Table.get?_erase]

theorem erase_put_self (h : v.node? place = none) (n : Node) : (v.put place n).erase place = v := by
  have hget : v.nodes.get? place = none := by
    rw [get?_nodes_of_ne_root (ne_root_of_node?_eq_none h), h]
  have hnodes := Table.erase_insert_self hget n
  exact congrArg (Volume.mk · v.workingDir) hnodes

theorem erase_put_of_ne {p : Place} (h : p ≠ place) (n : Node) :
    (v.put p n).erase place = (v.erase place).put p n :=
  congrArg (Volume.mk · v.workingDir) (Table.erase_insert_of_ne h v.nodes n)

theorem ne_root_of_way?_eq_none (h : v.way? place = none) : place ≠ .root := by
  rintro rfl
  cases h

/-- What is no way to anything may become a file, or another one. -/
theorem SameWays.put_content (h : v.way? place = none) (content : List UInt8) :
    v.SameWays (v.put place (.file content)) := by
  refine ⟨rfl, fun p => ?_⟩
  by_cases hp : p = place
  · rw [hp, h, eq_comm, way?_eq_none_iff]
    exact .inr ⟨content, node?_put_self (ne_root_of_way?_eq_none h) _⟩
  · unfold way?
    rw [node?_put_of_ne (ne_root_of_way?_eq_none h) _ hp]

theorem SameWays.put_file (h : v.node? place = none) (content : List UInt8) :
    v.SameWays (v.put place (.file content)) :=
  .put_content (way?_eq_none_iff.2 (.inl h)) content

theorem inspect_eq_ok_iff {n : Node} : v.inspect path = .ok n ↔
    ∃ p, v.locate .inspect path = .ok p ∧ v.node? p = some n := by
  unfold inspect
  cases v.locate .inspect path with
  | error fault => simp [bind, Except.bind]
  | ok p =>
      cases hnode : v.node? p with
      | none => simp [bind, Except.bind, hnode]
      | some n => simp [bind, Except.bind, hnode]

theorem exists_iff : v.exists path = true ↔
    ∃ p n, v.locate .inspect path = .ok p ∧ v.node? p = some n := by
  have hok : v.exists path = true ↔ ∃ n, v.inspect path = .ok n := by
    unfold Volume.exists
    cases v.inspect path with
    | error fault => simp [Except.isOk, Except.toBool]
    | ok n => simp [Except.isOk, Except.toBool]
  rw [hok, exists_comm]
  exact exists_congr fun n => inspect_eq_ok_iff

theorem locate_inspect_of_write (h : v.locate .write path = .ok place) :
    v.locate .inspect path = .ok place := by
  rw [locate_eq_ok_iff] at h ⊢
  exact ⟨h.1, h.2.changeGoal rfl id .inl⟩

theorem write_eq_ok_iff {content : List UInt8} : v.write path content = .ok w ↔
    ∃ p, v.locate .write path = .ok p ∧
      (v.node? p = none ∨ ∃ old, v.node? p = some (.file old)) ∧ w = v.put p (.file content) := by
  unfold write
  cases v.locate .write path with
  | error fault => simp [bind, Except.bind]
  | ok p =>
      cases hnode : v.node? p with
      | none => simp [bind, Except.bind, hnode, eq_comm]
      | some n => cases n <;> simp [bind, Except.bind, hnode, eq_comm]

theorem create_eq_ok_iff {n : Node} : v.create path n = .ok w ↔
    ∃ p, v.locate .occupy path = .ok p ∧ v.node? p = none ∧ w = v.put p n := by
  unfold create
  cases v.locate .occupy path with
  | error fault => simp [bind, Except.bind]
  | ok p =>
      cases hnode : v.node? p with
      | none => simp [bind, Except.bind, hnode, eq_comm]
      | some n => simp [bind, Except.bind, hnode]

theorem create_of_taken {n n' : Node} (hlocate : v.locate .occupy path = .ok place)
    (hthere : v.node? place = some n') : v.create path n = .error .alreadyExists := by
  rw [create, hlocate]
  dsimp only [bind, Except.bind]
  rw [hthere]

theorem remove_eq_ok_iff : v.remove path = .ok w ↔
    ∃ p n, v.locate .remove path = .ok p ∧ v.node? p = some n ∧ n ≠ .directory ∧
      w = v.erase p := by
  unfold remove
  cases v.locate .remove path with
  | error fault => simp [bind, Except.bind]
  | ok p =>
      cases hnode : v.node? p with
      | none => simp [bind, Except.bind, hnode]
      | some n => cases n <;> simp [bind, Except.bind, hnode, eq_comm]

/-- The link that a path names, if there is a link at its end, wherever that leads. -/
def linkAt? (v : Volume) (path : Text) : Option Place :=
  match v.locate .remove path with
  | .error _ => none
  | .ok place =>
      match v.node? place with
      | some (.link _) => some place
      | _ => none

theorem linkAt?_eq_some_iff : v.linkAt? path = some place ↔
    v.locate .remove path = .ok place ∧ ∃ target, v.node? place = some (.link target) := by
  constructor
  · intro h
    unfold linkAt? at h
    split at h
    · cases h
    · rename_i p hlocate
      split at h
      · rename_i target hnode
        cases h
        exact ⟨hlocate, target, hnode⟩
      · cases h
  · rintro ⟨hlocate, target, hnode⟩
    rw [linkAt?, hlocate]
    dsimp only
    rw [hnode]

theorem linkAt?_eq_none_of_node? (hlocate : v.locate .remove path = .ok place)
    (hnode : ∀ target, v.node? place ≠ some (.link target)) : v.linkAt? path = none := by
  rw [Option.eq_none_iff_forall_ne_some]
  intro p hp
  obtain ⟨hlocate', target, hlink⟩ := linkAt?_eq_some_iff.1 hp
  rw [hlocate] at hlocate'
  cases hlocate'
  exact hnode target hlink

theorem locate_inspect_of_not_link {goal : Goal} (h : v.locate goal path = .ok place)
    (hnode : ∀ target, v.node? place ≠ some (.link target)) :
    v.locate .inspect path = .ok place := by
  rw [locate_eq_ok_iff] at h ⊢
  exact ⟨h.1, h.2.changeGoal rfl (fun _ => rfl) fun _ => .inr hnode⟩

theorem exists_of_locate_remove {n : Node} (hlocate : v.locate .remove path = .ok place)
    (hnode : v.node? place = some n) (hn : ∀ target, n ≠ .link target) : v.exists path = true := by
  refine exists_iff.2 ⟨place, n, locate_inspect_of_not_link hlocate fun target hlink => ?_, hnode⟩
  rw [hnode] at hlink
  exact hn target (Option.some.inj hlink)

theorem read_of_free (hlocate : v.locate .inspect path = .ok place)
    (hfree : v.node? place = none) : v.read path = .error .notFound := by
  rw [read, inspect, hlocate]
  dsimp only [bind, Except.bind]
  rw [hfree]

theorem not_exists_of_read (h : v.read path = .error .notFound) : v.exists path = false := by
  rw [← Bool.not_eq_true]
  intro hexists
  obtain ⟨p, n, hlocate, hnode⟩ := exists_iff.1 hexists
  rw [read, inspect_eq_ok_iff.2 ⟨p, hlocate, hnode⟩] at h
  cases n with
  | directory => cases h
  | file content => cases h
  | link target => cases h

end ClassLayout.Volume
