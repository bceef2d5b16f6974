import ClassLayout.CaseSensitivity
import ClassLayout.Location

namespace ClassLayout

/-- A source of verdicts about the volume below an output directory. Each question takes the
surroundings to the answer and to the surroundings afterwards. -/
structure Probe (σ : Type) where
  caseSensitivity (dir : Location) : σ → CaseSensitivity × σ
  rejectsReserved (dir : Location) (extension : Text) : σ → Bool × σ

inductive Call where
  | case (dir : Location)
  | reserved (dir : Location) (extension : Text)
  deriving DecidableEq

namespace Probe

/-- Preset answers. A verdict that settles nothing is answered as insensitive, which keeps names
apart. -/
def fixed {σ : Type} (verdict : CaseSensitivity) (rejects : Bool) : Probe σ where
  caseSensitivity _ s := (if verdict.isKnown then verdict else .insensitive, s)
  rejectsReserved _ _ s := (rejects, s)

def scripted (rejects : Bool) : Probe (List CaseSensitivity) where
  caseSensitivity
    | _, [] => (.unknown, [])
    | _, [verdict] => (verdict, [verdict])
    | _, verdict :: rest => (verdict, rest)
  rejectsReserved _ _ s := (rejects, s)

def recording {σ : Type} (p : Probe σ) : Probe (σ × List Call) where
  caseSensitivity dir s :=
    let (verdict, t) := p.caseSensitivity dir s.1
    (verdict, t, s.2 ++ [.case dir])
  rejectsReserved dir extension s :=
    let (rejects, t) := p.rejectsReserved dir extension s.1
    (rejects, t, s.2 ++ [.reserved dir extension])

end Probe

end ClassLayout
