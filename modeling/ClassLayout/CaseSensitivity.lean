namespace ClassLayout

inductive CaseSensitivity where
  | unknown
  | sensitive
  | insensitive
  deriving DecidableEq, Repr

namespace CaseSensitivity

def isSensitive (c : CaseSensitivity) : Bool := c == .sensitive

def isKnown (c : CaseSensitivity) : Bool := c != .unknown

end CaseSensitivity

end ClassLayout
