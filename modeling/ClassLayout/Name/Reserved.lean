import ClassLayout.Text.Basic

namespace ClassLayout

def reservedMarker : Char := '#'

def reservedNames : List Text :=
  [['C', 'O', 'N'], ['P', 'R', 'N'], ['A', 'U', 'X'], ['N', 'U', 'L']]

def reservedFamilies : List Text := [['C', 'O', 'M'], ['L', 'P', 'T']]

/-- A device name in any mix of ASCII letter case: one of four words, or a family name with one
digit from 1 to 9. -/
def isReserved (name : Text) : Bool :=
  let upper := name.map Char.toUpper
  reservedNames.contains upper ||
    (reservedFamilies.contains (upper.take 3) &&
      match upper.drop 3 with
      | [d] => '1' ≤ d && d ≤ '9'
      | _ => false)

def escapeReserved (name : Text) : Text :=
  if isReserved name then name ++ [reservedMarker] else name

end ClassLayout
