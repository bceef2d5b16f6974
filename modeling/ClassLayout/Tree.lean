import ClassLayout.Directory
import ClassLayout.Identifier
import ClassLayout.Place
import ClassLayout.Probe
import ClassLayout.Settings

namespace ClassLayout

structure Tree where
  outputDir : Location
  settings : Settings
  escapes : Bool
  /-- The directories by the place of their package, whose names are its segments. One that is
  missing is empty. -/
  directories : Table Place Directory := {}
  stats : Stats := {}
  deriving DecidableEq

def Identifier.steps (i : Identifier) : List EntryId :=
  i.package.map (⟨·, .package⟩) ++ [⟨i.className, .classFile⟩]

structure Walk (σ : Type) where
  names : Except Error (List Text)
  tree : Tree
  state : σ

namespace Tree

variable {σ : Type}

/-- A tree with nothing in it, unless the settings do not allow one. The volume is asked about
device names only if the settings leave that open. -/
def build (probe : Probe σ) (settings : Settings) (outputDir : Location) (s : σ) :
    Except Error Tree × σ :=
  match settings.flaw? with
  | some flaw => (.error (.invalidConfiguration flaw), s)
  | none =>
      match settings.escapeReservedNames with
      | some escapes => (.ok { outputDir, settings, escapes }, s)
      | none =>
          let (escapes, s) := probe.rejectsReserved outputDir settings.fileExtension s
          (.ok { outputDir, settings, escapes }, s)

def rules (t : Tree) : Rules where
  extension := t.settings.fileExtension
  maxBytes := t.settings.maxComponentBytes
  escapes := t.escapes

def directory (t : Tree) (package : Place) : Directory :=
  (t.directories.get? package).getD {}

def naming (t : Tree) (probe : Probe σ) (path : Location) : Naming σ where
  rules := t.rules
  forced := t.settings.caseSensitivity
  ask := probe.caseSensitivity path

def wrongKind (path : Location) (segment : Text) : Error :=
  .internal
    (path.quoted ++ " entered for segment ".toList ++ segment.quoted ++ " of the wrong kind".toList)

/-- Go down through the entries `ids` from the directory of `package` at `path`. -/
def walk (probe : Probe σ) : List EntryId → Place → Location → Tree → σ → Walk σ
  | [], _, _, t, s => ⟨.ok [], t, s⟩
  | id :: rest, package, path, t, s =>
      let r := (t.directory package).entryFor (t.naming probe path) id s
      let t := { t with
        directories := t.directories.insert package r.directory
        stats := t.stats + r.tally }
      let below := path.join r.entry.name
      if r.entry.id.kind = id.kind then
        let w := walk probe rest (package.child id.segment) below t r.state
        { w with names := w.names.map (r.entry.name :: ·) }
      else ⟨.error (wrongKind below id.segment), t, r.state⟩

def namesFor (probe : Probe σ) (t : Tree) (i : Identifier) (s : σ) : Walk σ :=
  walk probe i.steps .root t.outputDir t s

def allocate (probe : Probe σ) (t : Tree) (i : Identifier) (s : σ) :
    Except Error Location × Tree × σ :=
  let w := t.namesFor probe i s
  (w.names.map t.outputDir.joinAll, w.tree, w.state)

def allocateParsed (probe : Probe σ) (t : Tree) (descriptor : Text) (s : σ) :
    Except Error Location × Tree × σ :=
  match Identifier.parse descriptor with
  | .error e => (.error e, t, s)
  | .ok i => t.allocate probe i s

def allocateAll (probe : Probe σ) : Tree → List Identifier → σ →
    List (Except Error Location) × Tree × σ
  | t, [], s => ([], t, s)
  | t, i :: rest, s =>
      let (path, t, s) := t.allocate probe i s
      let (paths, t, s) := allocateAll probe t rest s
      (path :: paths, t, s)

end Tree

end ClassLayout
