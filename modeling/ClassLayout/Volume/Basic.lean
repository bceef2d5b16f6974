import ClassLayout.Error
import ClassLayout.Path
import ClassLayout.Place
import ClassLayout.Table

namespace ClassLayout

inductive Node where
  | directory
  | file (content : List UInt8)
  | link (target : Text)
  deriving DecidableEq

structure Volume where
  nodes : Table Place Node := {}
  workingDir : Place := .root
  deriving DecidableEq

/-- What a path is followed for. To occupy it is to create something where nothing is. -/
inductive Goal where
  | inspect
  | write
  | occupy
  | remove
  deriving DecidableEq

namespace Goal

def followsLast : Goal → Bool
  | inspect | write => true
  | occupy | remove => false

def creates : Goal → Bool
  | write | occupy => true
  | inspect | remove => false

end Goal

namespace Volume

def node? (v : Volume) (place : Place) : Option Node :=
  if place = .root then some .directory else v.nodes.get? place

def put (v : Volume) (place : Place) (n : Node) : Volume :=
  { v with nodes := v.nodes.insert place n }

def erase (v : Volume) (place : Place) : Volume := { v with nodes := v.nodes.erase place }

def entriesIn (v : Volume) (place : Place) : List Place :=
  v.nodes.keys.filter fun p => p ≠ .root ∧ p.parent = place

def longestName : Nat := 255

def longestPath : Nat := 4095

def mostLinks : Nat := 40

def start (place : Place) (path : Text) : Place := if Path.isAbsolute path then .root else place

/-- Links are left to `jump`, which goes on from a place with the pieces of the target and those
behind the link. A name to be created ends the path: not even an empty piece may come behind it. -/
def followWith (v : Volume) (goal : Goal) (jump : Place → List Text → Except Fault Place) :
    Place → List Text → Except Fault Place
  | place, [] => .ok place
  | place, piece :: rest =>
      if v.node? place ≠ some .directory then .error .notDirectory
      else if Path.isBlank piece then followWith v goal jump place rest
      else if piece = ['.', '.'] then followWith v goal jump place.parent rest
      else if goal.creates ∧ rest ≠ [] ∧ rest.all List.isEmpty then .error .isDirectory
      else if longestName < piece.bytes then .error .nameTooLong
      else
        match v.node? (place.child piece) with
        | none => if rest = [] then .ok (place.child piece) else .error .notFound
        | some (.link target) =>
            if rest = [] ∧ !goal.followsLast then .ok (place.child piece)
            else if target = [] then .error .notFound
            else jump (start place target) (Text.pieces '/' target ++ rest)
        | some _ => followWith v goal jump (place.child piece) rest

def follow (v : Volume) (goal : Goal) : Nat → Place → List Text → Except Fault Place
  | 0 => v.followWith goal fun _ _ => .error .tooManyLinks
  | links + 1 => v.followWith goal (v.follow goal links)

def flaw? (path : Text) : Option Fault :=
  if '\x00' ∈ path then some .nulInName
  else if path = [] then some .notFound
  else if longestPath < path.bytes then some .nameTooLong
  else none

def locate (v : Volume) (goal : Goal) (path : Text) : Except Fault Place :=
  match flaw? path with
  | some fault => .error fault
  | none => v.follow goal mostLinks (start v.workingDir path) (Text.pieces '/' path)

def inspect (v : Volume) (path : Text) : Except Fault Node := do
  match v.node? (← v.locate .inspect path) with
  | none => .error .notFound
  | some n => .ok n

def «exists» (v : Volume) (path : Text) : Bool := (v.inspect path).isOk

def isDirectory (v : Volume) (path : Text) : Bool :=
  match v.inspect path with
  | .ok .directory => true
  | _ => false

def read (v : Volume) (path : Text) : Except Fault (List UInt8) := do
  match ← v.inspect path with
  | .file content => .ok content
  | .directory => .error .isDirectory
  | .link _ => .error .tooManyLinks

/-- Give a file new content, or create it. A link that leads nowhere yet has its target created. -/
def write (v : Volume) (path : Text) (content : List UInt8) : Except Fault Volume := do
  let place ← v.locate .write path
  match v.node? place with
  | none | some (.file _) => .ok (v.put place (.file content))
  | some .directory => .error .isDirectory
  | some (.link _) => .error .tooManyLinks

/-- Create something under a name that is not taken, not even by a link that leads nowhere. -/
def create (v : Volume) (path : Text) (n : Node) : Except Fault Volume := do
  let place ← v.locate .occupy path
  match v.node? place with
  | none => .ok (v.put place n)
  | some _ => .error .alreadyExists

def remove (v : Volume) (path : Text) : Except Fault Volume := do
  let place ← v.locate .remove path
  match v.node? place with
  | none => .error .notFound
  | some .directory => .error .isDirectory
  | some _ => .ok (v.erase place)

/-- A link that leads nowhere is in the way, as is anything else that is no directory. A `.` behind
the last name asks for a directory that is there already. -/
def makeWay (v : Volume) (place : Place) : List Text → Except Fault Unit × Volume
  | [] => (.ok (), v)
  | piece :: rest =>
      match v.follow .inspect mostLinks place [piece] with
      | .error fault => (.error fault, v)
      | .ok next =>
          match v.node? next with
          | some .directory => makeWay v next rest
          | some _ => (.error (if rest = [] then .alreadyExists else .notDirectory), v)
          | none =>
              if next ≠ place.child piece then (.error .alreadyExists, v)
              else if rest.all Path.isBlank ∧ ['.'] ∈ rest then (.error .notFound, v)
              else makeWay (v.put next .directory) next rest

/-- Create a directory and those above it, as far as they are missing. The empty path asks for
nothing. What was created before a failure stays. -/
def makeDirectories (v : Volume) (path : Text) : Except Fault Unit × Volume :=
  if path = [] then (.ok (), v)
  else
    match flaw? path with
    | some fault => (.error fault, v)
    | none => v.makeWay (start v.workingDir path) (Text.pieces '/' path)

def makeLink (v : Volume) (path target : Text) : Except Fault Volume :=
  match flaw? target with
  | some fault => .error fault
  | none => v.create path (.link target)

end Volume

end ClassLayout
