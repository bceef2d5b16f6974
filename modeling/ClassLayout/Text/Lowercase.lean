import ClassLayout.Text.Basic
import ClassLayout.Text.Cased
import ClassLayout.Text.CaseMapping

namespace ClassLayout

/-- The dotted capital I keeps its dot as a combining character. -/
def lowerChar (c : Char) : Text :=
  if c = 'İ' then ['i', '\u0307'] else [lowerLetter c]

def meetsCased (t : Text) : Bool :=
  match t.dropWhile isCaseIgnorable with
  | [] => false
  | c :: _ => isCased c

/-- A capital sigma that ends a word: a cased letter stands before it and none after it.
`before` runs backwards from the sigma. -/
def endsWord (before after : Text) : Bool := meetsCased before && !meetsCased after

namespace Text

def lowerFrom (before : Text) : Text → Text
  | [] => []
  | c :: rest =>
      (if c = 'Σ' then (if endsWord before rest then ['ς'] else ['σ']) else lowerChar c) ++
        lowerFrom (c :: before) rest

def lower (t : Text) : Text := lowerFrom [] t

end Text

end ClassLayout
