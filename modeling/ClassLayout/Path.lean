import ClassLayout.Text.Basic

namespace ClassLayout

namespace Path

def isAbsolute (path : Text) : Bool := path.head? == some '/'

/-- Put a name below a path. An absolute name stands for itself, and a path that is empty or ends
in the separator takes no further one. -/
def join (path name : Text) : Text :=
  if isAbsolute name then name
  else if path.isEmpty || path.getLast? == some '/' then path ++ name
  else path ++ '/' :: name

def isBlank (piece : Text) : Bool := piece.isEmpty || piece == ['.']

def trimBlanks (pieces : List Text) : List Text := (pieces.reverse.dropWhile isBlank).reverse

inductive Anchor where
  | root
  | here
  | name
  deriving DecidableEq

def anchored (path : Text) : Anchor × List Text :=
  match Text.pieces '/' path with
  | [] => (.name, [])
  | first :: rest =>
      if isAbsolute path then (.root, rest)
      else if first = ['.'] then (.here, rest)
      else (.name, first :: rest)

def ofAnchored : Anchor → List Text → Text
  | .root, pieces => '/' :: Text.joined '/' pieces
  | .here, [] => ['.']
  | .here, pieces => '.' :: '/' :: Text.joined '/' pieces
  | .name, pieces => Text.joined '/' pieces

/-- The path without its last name, and without the blank pieces around that name. The root and
the empty path have no parent. -/
def parent? (path : Text) : Option Text :=
  let (anchor, pieces) := anchored path
  match trimBlanks pieces, anchor with
  | [], .here => some []
  | [], _ => none
  | names, _ => some (ofAnchored anchor (trimBlanks names.dropLast))

def ancestorsWithin : Nat → Text → List Text
  | 0, path => [path]
  | n + 1, path =>
      path :: match parent? path with
        | none => []
        | some up => ancestorsWithin n up

/-- The path itself, its parent, the parent's parent, and so on. A parent is shorter than its
path, so the length of the path bounds the walk. -/
def ancestors (path : Text) : List Text := ancestorsWithin path.length path

end Path

end ClassLayout
