import ClassLayout.Name.Reserved
import ClassLayout.Probe
import ClassLayout.Text.Utf8
import ClassLayout.Volume.Basic

namespace ClassLayout.Volume

/-- The path itself or its closest ancestor that is a directory. The empty ancestor is the working
directory. -/
def nearestDirectory? (v : Volume) (path : Text) : Option Text :=
  ((Path.ancestors path).map fun dir => if dir.isEmpty then ['.'] else dir).find? v.isDirectory

def probeContent : List UInt8 := Text.encode ['t', 'e', 's', 't']

def triedNames : List Text :=
  [['a', 'u', 'x'], ['c', 'o', 'n'], ['c', 'o', 'm', '1'], ['c', 'o', 'm', '9'],
    ['l', 'p', 't', '1']]

def refusesSome (dir extension : Text) : List Text → Volume → Bool × Volume
  | [], v => (false, v)
  | name :: rest, v =>
      let path := Path.join dir (name ++ extension)
      if v.exists path then refusesSome dir extension rest v
      else
        match v.write path probeContent with
        | .error _ => (true, v)
        | .ok written =>
            match written.remove path with
            | .error _ => (true, written)
            | .ok removed => refusesSome dir extension rest removed

def rejectsReserved (path extension : Text) (v : Volume) : Bool × Volume :=
  match v.nearestDirectory? path with
  | none => (true, v)
  | some dir => v.refusesSome dir extension triedNames

def lowerProbe (dir : Text) (n : Nat) : Text :=
  Path.join dir ("case_probe.".toList ++ Text.decimal n)

def upperProbe (dir : Text) (n : Nat) : Text :=
  Path.join dir ("CASE_PROBE.".toList ++ Text.decimal n)

/-- The least number with two free names. Each number before it is taken by an entry of the
directory, so a search with a counter of 32 bits parts from this one only where 2^32 - 1 numbers of
one directory are taken. -/
def freeProbe? (v : Volume) (dir : Text) : Option Nat :=
  let taken := match v.locate .inspect dir with
    | .ok place => (v.entriesIn place).length
    | .error _ => 0
  (List.range' 1 (taken + 1)).find? fun n =>
    !v.exists (lowerProbe dir n) && !v.exists (upperProbe dir n)

def removeIfThere (v : Volume) (path : Text) : Volume :=
  match v.remove path with
  | .ok removed => removed
  | .error _ => v

/-- With the lower name in place: whether the upper one is another name. If looking at it and
creating it do not agree, opening it decides. -/
def tellsApart (upper : Text) (v : Volume) : Bool × Volume :=
  if v.exists upper then (false, v)
  else
    match v.create upper (.file []) with
    | .ok created => (true, created)
    | .error .alreadyExists =>
        match v.read upper with
        | .error .notFound => (true, v)
        | _ => (false, v)
    | .error _ => (false, v)

/-- Create the lower probe name, compare the upper one, and remove both on every way out. -/
def tryCase (lower upper : Text) (v : Volume) : Bool × Volume :=
  let (apart, v) := match v.create lower (.file probeContent) with
    | .error _ => (false, v)
    | .ok created => created.tellsApart upper
  (apart, (v.removeIfThere lower).removeIfThere upper)

def caseSensitivity (path : Text) (v : Volume) : CaseSensitivity × Volume :=
  match v.nearestDirectory? path with
  | none => (.insensitive, v)
  | some dir =>
      match v.freeProbe? dir with
      | none => (.insensitive, v)
      | some n =>
          let (apart, v) := v.tryCase (lowerProbe dir n) (upperProbe dir n)
          (if apart then .sensitive else .insensitive, v)

end ClassLayout.Volume

namespace ClassLayout

/-- On a volume, whose names are all text, the nearest directory to a path that is no text is the
one nearest to its closest ancestor that is. -/
def Probe.ofVolume : Probe Volume where
  caseSensitivity dir v := v.caseSensitivity dir.textAbove
  rejectsReserved dir extension v := v.rejectsReserved dir.textAbove extension

end ClassLayout
