import ClassLayout.CaseSensitivity
import ClassLayout.Name.Rules
import ClassLayout.Stats
import ClassLayout.Table

namespace ClassLayout

structure Entry where
  id : EntryId
  name : Text
  deriving DecidableEq

/-- Entries that met on one key, and the verdict on the volume once one was needed. -/
structure Group where
  members : Table EntryId Entry
  verdict : CaseSensitivity := .unknown
  deriving DecidableEq

inductive Slot where
  | single (entry : Entry)
  | group (group : Group)
  deriving DecidableEq

structure Directory where
  index : Table Text Slot := {}
  deriving DecidableEq

structure Naming (σ : Type) where
  rules : Rules
  forced : CaseSensitivity
  ask : σ → CaseSensitivity × σ

structure Reply (σ : Type) where
  entry : Entry
  directory : Directory
  tally : Stats
  state : σ

def Stats.ofKind : Kind → Stats
  | .package => { packages := 1 }
  | .classFile => { classes := 1 }

namespace Group

def around (first : Entry) : Group := { members := ⟨[(first.id, first)]⟩ }

def holdsName (g : Group) (name : Text) : Bool := g.members.values.any (·.name = name)

/-- Whether the volume keeps names apart that differ by case: as forced, as found out before, or
as answered now. An answer that settles nothing is asked for again next time. -/
def isSensitive {σ : Type} (naming : Naming σ) (g : Group) (s : σ) : Bool × Group × σ :=
  if naming.forced.isKnown then (naming.forced.isSensitive, g, s)
  else if g.verdict.isKnown then (g.verdict.isSensitive, g, s)
  else
    let (verdict, s) := naming.ask s
    (verdict.isSensitive, { g with verdict := verdict }, s)

def keepsPlain {σ : Type} (naming : Naming σ) (g : Group) (name : Text) (s : σ) :
    Bool × Group × σ :=
  if g.holdsName name then (false, g, s) else g.isSensitive naming s

end Group

namespace Directory

variable {σ : Type}

/-- The least number from `first` on whose name is free. One more candidate than there are keys
is enough, since different numbers give different keys. -/
def freeNumber? (rules : Rules) (d : Directory) (id : EntryId) (first : Nat) : Option Nat :=
  (List.range' first (d.index.size + 1)).find? fun n =>
    !d.index.contains (fold (rules.numberedName id n))

def numberedName (rules : Rules) (d : Directory) (id : EntryId) (first : Nat) : Text :=
  match d.freeNumber? rules id first with
  | some n => rules.numberedName id n
  | none => rules.plainName id

/-- Find or make an entry in the group under `key`. A numbered name is also entered in the index,
where no later name can take it. -/
def joinGroup (naming : Naming σ) (d : Directory) (key : Text) (g : Group) (id : EntryId)
    (s : σ) : Reply σ :=
  match g.members.get? id with
  | some entry => { entry, directory := d, tally := {}, state := s }
  | none =>
      let plain := naming.rules.plainName id
      let (keeps, g, s) := g.keepsPlain naming plain s
      let name := if keeps then plain else d.numberedName naming.rules id (g.members.size + 1)
      let entry : Entry := ⟨id, name⟩
      let index := d.index.insert key (.group { g with members := g.members.insert id entry })
      if keeps then { entry, directory := ⟨index⟩, tally := .ofKind id.kind, state := s }
      else
        { entry
          directory := ⟨index.insert (fold name) (.single entry)⟩
          tally := .ofKind id.kind + { disambiguated := 1 }
          state := s }

def entryFor (naming : Naming σ) (d : Directory) (id : EntryId) (s : σ) : Reply σ :=
  let name := naming.rules.plainName id
  let key := fold name
  match d.index.get? key with
  | none =>
      let entry : Entry := ⟨id, name⟩
      { entry
        directory := ⟨d.index.insert key (.single entry)⟩
        tally := .ofKind id.kind
        state := s }
  | some (.group g) => d.joinGroup naming key g id s
  | some (.single entry) =>
      if entry.id = id then { entry, directory := d, tally := {}, state := s }
      else
        let r := d.joinGroup naming key (.around entry) id s
        { r with tally := { virtualGroups := 1 } + r.tally }

end Directory

end ClassLayout
