import ClassLayout.CaseSensitivity
import ClassLayout.Error

namespace ClassLayout

/-- What can be set for a tree besides its output directory. A verdict and a choice of escaping that
are given are forced; what is left open is found out by the probe. -/
structure Settings where
  fileExtension : Text := ['.', 's', 'm', 'a', 'l', 'i']
  maxComponentBytes : Nat := 245
  caseSensitivity : CaseSensitivity := .unknown
  escapeReservedNames : Option Bool := none
  deriving DecidableEq

namespace Settings

def leastComponentBytes : Nat := 8

/-- Room beside the extension: a character of the name, the cut marker, and a number of five digits
behind its point. -/
def nameRoom : Nat := 2 + 6

def flaw? (s : Settings) : Option SettingsFlaw :=
  if s.maxComponentBytes < leastComponentBytes then
    some (.budgetTooSmall leastComponentBytes s.maxComponentBytes)
  else if s.maxComponentBytes < s.fileExtension.bytes + nameRoom then
    some (.noRoomForName s.fileExtension s.maxComponentBytes)
  else if '/' ∈ s.fileExtension ∨ '\\' ∈ s.fileExtension then
    some (.separatorInExtension s.fileExtension)
  else none

end Settings

end ClassLayout
