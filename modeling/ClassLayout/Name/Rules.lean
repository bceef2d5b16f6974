import ClassLayout.Name.Reserved
import ClassLayout.Name.Shorten
import ClassLayout.Text.Lowercase

namespace ClassLayout

inductive Kind where
  | package
  | classFile
  deriving DecidableEq

/-- What one entry of a directory is for: a segment as it was submitted, and its kind. -/
@[ext]
structure EntryId where
  segment : Text
  kind : Kind
  deriving DecidableEq

structure Rules where
  extension : Text
  maxBytes : Nat
  escapes : Bool
  deriving DecidableEq

namespace Rules

variable (rules : Rules)

def stem (segment : Text) : Text := if rules.escapes then escapeReserved segment else segment

def extensionOf : Kind → Text
  | .package => []
  | .classFile => rules.extension

def nameWithTail (segment tail : Text) : Text :=
  fit (rules.stem segment) tail rules.maxBytes ++ tail

def plainName (id : EntryId) : Text := rules.nameWithTail id.segment (rules.extensionOf id.kind)

def numberTail (n : Nat) : Text := '.' :: Text.decimal n

def numberedName (id : EntryId) (n : Nat) : Text :=
  rules.nameWithTail id.segment (numberTail n ++ rules.extensionOf id.kind)

end Rules

/-- The key under which a directory looks for a name. -/
def fold (name : Text) : Text := name.lower

end ClassLayout
