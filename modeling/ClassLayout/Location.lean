import ClassLayout.Path
import ClassLayout.Text.Quoted

namespace ClassLayout

/-- The path of a file or directory: text, or bytes that are no text. -/
inductive Location where
  | text (path : Text)
  | bytes (path : List UInt8) (undecodable : Text.decode? path = none)
  deriving DecidableEq

namespace Location

def slash : UInt8 := 0x2F

def ofBytes (path : List UInt8) : Location :=
  match h : Text.decode? path with
  | some t => .text t
  | none => .bytes path h

def toBytes : Location → List UInt8
  | .text path => Text.encode path
  | .bytes path _ => path

def join : Location → Text → Location
  | .text path, name => .text (Path.join path name)
  | .bytes path _, name =>
      if Path.isAbsolute name then .text name
      else if path.getLast? = some slash then ofBytes (path ++ Text.encode name)
      else ofBytes (path ++ slash :: Text.encode name)

def joinAll (l : Location) (names : List Text) : Location := names.foldl join l

def quoted : Location → Text
  | .text path => path.quoted
  | .bytes path _ => Text.quotedBytes path

/-- The closest ancestor that is text, the path itself included. -/
def textAbove : Location → Text
  | .text path => path
  | .bytes path _ =>
      let names := ((Text.pieces slash path).map Text.decode?).takeWhile Option.isSome
      (Path.parent? (Text.joined '/' (names.filterMap id ++ [[Text.replacement]]))).getD []

end Location

end ClassLayout
