import ClassLayout.Text.Basic

namespace ClassLayout.Json

inductive Value where
  | null
  | bool (b : Bool)
  | number (literal : Text)
  /-- No content where an escape spells one half of a surrogate pair alone: that is JSON, but no
  text. -/
  | string (content : Option Text)
  | array (items : List Value)
  | object (members : List (Option Text × Value))

namespace Value

def text? : Value → Option Text
  | string content => content
  | _ => none

def bool? : Value → Option Bool
  | bool b => some b
  | _ => none

/-- Numbers that are read are counts of a 64-bit machine. -/
def countLimit : Nat := UInt64.size

def count? : Value → Option Nat
  | number literal =>
      if literal.all Char.isDigit then
        let n := literal.foldl (fun n c => 10 * n + (c.toNat - '0'.toNat)) 0
        if n < countLimit then some n else none
      else none
  | _ => none

def optional? {α : Type} (read : Value → Option α) : Value → Option (Option α)
  | null => some none
  | v => (read v).map some

/-- What the members say about a name: nothing, one value, or, said twice, no answer. -/
def member? (members : List (Option Text × Value)) (name : Text) : Option (Option Value) :=
  match members.filter fun m => m.1 = some name with
  | [] => some none
  | [m] => some (some m.2)
  | _ => none

/-- The values of the named fields of a record. An object may have further members, in any order
and number; an array has the first fields in their order and nothing else. -/
def fields? (names : List Text) : Value → Option (List (Option Value))
  | object members =>
      if members.all (·.1.isSome) then names.mapM (member? members) else none
  | array items =>
      if items.length ≤ names.length then
        some (items.map some ++ List.replicate (names.length - items.length) none)
      else none
  | _ => none

end Value

end ClassLayout.Json
