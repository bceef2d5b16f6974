import ClassLayout.Text.Quoted

namespace ClassLayout

inductive IdentifierFlaw where
  | missingMarkers
  | emptyPackageSegment
  | emptyClassName
  | noSegments
  | separatorIn (segment : Text)
  | emptySegment
  | stated (reason : Text)
  deriving DecidableEq

inductive SettingsFlaw where
  | budgetTooSmall (least maxBytes : Nat)
  | noRoomForName (extension : Text) (maxBytes : Nat)
  | separatorInExtension (extension : Text)
  | stated (problem : Text)
  deriving DecidableEq

inductive Fault where
  | notFound
  | alreadyExists
  | notDirectory
  | isDirectory
  | nameTooLong
  | tooManyLinks
  | nulInName
  | notUtf8
  | stated (problem : Text)
  deriving DecidableEq

inductive Error where
  | invalidIdentifier (identifier : Text) (flaw : IdentifierFlaw)
  | invalidConfiguration (flaw : SettingsFlaw)
  | io (fault : Fault)
  | json
  | internal (problem : Text)
  deriving DecidableEq

namespace IdentifierFlaw

def message : IdentifierFlaw → Text
  | missingMarkers => "expected leading 'L' and trailing ';'".toList
  | emptyPackageSegment => "empty package segment".toList
  | emptyClassName => "empty class name".toList
  | noSegments => "no segments".toList
  | separatorIn segment => "segment ".toList ++ segment.quoted ++ " contains '/'".toList
  | emptySegment => "empty segment".toList
  | stated reason => reason

end IdentifierFlaw

namespace SettingsFlaw

def message : SettingsFlaw → Text
  | budgetTooSmall least maxBytes =>
      "max_component_bytes must be at least ".toList ++ Text.decimal least ++ ", got ".toList ++
        Text.decimal maxBytes
  | noRoomForName extension maxBytes =>
      "file extension ".toList ++ extension.quoted ++ " leaves no room for a name within ".toList ++
        Text.decimal maxBytes ++ " bytes".toList
  | separatorInExtension extension =>
      "file extension ".toList ++ extension.quoted ++ " contains a path separator".toList
  | stated problem => problem

end SettingsFlaw

namespace Fault

/-- The system's own wording and number where the system reports the fault. -/
def message : Fault → Text
  | notFound => "No such file or directory (os error 2)".toList
  | alreadyExists => "File exists (os error 17)".toList
  | notDirectory => "Not a directory (os error 20)".toList
  | isDirectory => "Is a directory (os error 21)".toList
  | nameTooLong => "File name too long (os error 36)".toList
  | tooManyLinks => "Too many levels of symbolic links (os error 40)".toList
  | nulInName => "file name contained an unexpected NUL byte".toList
  | notUtf8 => "stream did not contain valid UTF-8".toList
  | stated problem => problem

end Fault

namespace Error

def message : Error → Text
  | invalidIdentifier identifier flaw =>
      "Invalid class identifier ".toList ++ identifier.quoted ++ ": ".toList ++ flaw.message
  | invalidConfiguration flaw => "Invalid configuration: ".toList ++ flaw.message
  | io fault => "IO error: ".toList ++ fault.message
  | json => "JSON error".toList
  | internal problem => "Internal error: ".toList ++ problem

def blamesCaller : Error → Bool
  | invalidIdentifier .. | invalidConfiguration _ => true
  | io _ | json | internal _ => false

end Error

end ClassLayout
