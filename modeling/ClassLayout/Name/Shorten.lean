import ClassLayout.Text.Basic

namespace ClassLayout

def cutMarker : Char := '#'

inductive Side where
  | left
  | right
  deriving DecidableEq

def Side.other : Side → Side
  | left => right
  | right => left

def alternate (s : Side) : Text → Text → List (Side × Char)
  | [], ys => ys.map (s.other, ·)
  | xs, [] => xs.map (s, ·)
  | x :: xs, y :: ys => (s, x) :: (s.other, y) :: alternate s xs ys

/-- The characters around the middle in the order in which they are given up. With an even count
the one right of the middle goes first, with an odd count the one left of it. -/
def centreOut (count : Nat) (left right : Text) : List (Side × Char) :=
  if count % 2 = 0 then alternate .right right left.reverse
  else alternate .left left.reverse right

/-- The fewest leading items that together have at least `target` bytes, or all of them. -/
def giveUp (target : Nat) : List (Side × Char) → List (Side × Char)
  | [] => []
  | x :: rest => if target = 0 then [] else x :: giveUp (target - x.2.utf8Size) rest

structure Cut where
  before : Text
  after : Text
  deriving DecidableEq

def cutMiddle (t : Text) (target : Nat) : Cut :=
  let left := t.take (t.length / 2)
  match t.drop (t.length / 2) with
  | [] => ⟨[], []⟩
  | middle :: right =>
      let gone := giveUp (target - middle.utf8Size) (centreOut t.length left right)
      { before := left.take (left.length - gone.countP (·.1 = .left))
        after := right.drop (gone.countP (·.1 = .right)) }

def sizeLimit : Nat := UInt64.size

/-- Shorten a name by at least `remove` bytes, marker included: one more byte is cut out than
asked for, which pays for the marker. -/
def shorten (t : Text) (remove : Nat) : Text :=
  let cut := cutMiddle t ((remove + 1) % sizeLimit)
  cut.before ++ cutMarker :: cut.after

def fit (t tail : Text) (maxBytes : Nat) : Text :=
  let total := t.bytes + tail.bytes
  if maxBytes < total then shorten t (total - maxBytes) else t

end ClassLayout
