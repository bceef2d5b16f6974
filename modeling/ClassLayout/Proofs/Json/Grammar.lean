import ClassLayout.Json.Parser

namespace ClassLayout.Json

def IsBlank (t : Text) : Prop := ∀ c ∈ t, Parser.isSpace c

instance (t : Text) : Decidable (IsBlank t) := List.decidableBAll _ t

theorem isBlank_nil : IsBlank [] := fun _ h => absurd h List.not_mem_nil

def IsDigits (t : Text) : Prop := t ≠ [] ∧ ∀ d ∈ t, d.isDigit

def IsWhole (t : Text) : Prop := IsDigits t ∧ (t.head? = some '0' → t = ['0'])

def IsFraction (t : Text) : Prop := t = [] ∨ ∃ ds, IsDigits ds ∧ t = '.' :: ds

def IsExponent (t : Text) : Prop :=
  t = [] ∨ ∃ e sign ds, (e = 'e' ∨ e = 'E') ∧ (sign = [] ∨ sign = ['+'] ∨ sign = ['-']) ∧
    IsDigits ds ∧ t = e :: sign ++ ds

def IsNumber (t : Text) : Prop :=
  ∃ minus whole fraction exponent, (minus = [] ∨ minus = ['-']) ∧ IsWhole whole ∧
    IsFraction fraction ∧ IsExponent exponent ∧ t = minus ++ whole ++ fraction ++ exponent

def shortEscapes : List (Char × Char) :=
  [('"', '"'), ('\\', '\\'), ('/', '/'), ('b', '\x08'), ('f', '\x0c'), ('n', '\n'), ('r', '\r'),
    ('t', '\t')]

/-- What the inside of a string literal spells, piece by piece. -/
inductive Spells : Text → List Parser.Piece → Prop
  | nil : Spells [] []
  | plain {c : Char} {t : Text} {ps : List Parser.Piece} (quote : c ≠ '"') (backslash : c ≠ '\\')
      (control : ¬ c.toNat < 0x20) (rest : Spells t ps) : Spells (c :: t) (.char c :: ps)
  | short {e c : Char} {t : Text} {ps : List Parser.Piece} (escape : (e, c) ∈ shortEscapes)
      (rest : Spells t ps) : Spells ('\\' :: e :: t) (.char c :: ps)
  | unit {a b c d : Char} {n : Nat} {t : Text} {ps : List Parser.Piece}
      (digits : Parser.hexUnit? a b c d = some n) (rest : Spells t ps) :
      Spells ('\\' :: 'u' :: a :: b :: c :: d :: t) (.unit n :: ps)

/-- What a stretch of a document says: a value, one or all items of an array, one or all members of
an object. -/
inductive Phrase where
  | value (v : Value)
  | item (v : Value)
  | items (vs : List Value)
  | member (m : Option Text × Value)
  | members (ms : List (Option Text × Value))

/-- The texts that write a phrase. Space may stand inside brackets and braces, around items and
members, and around the colon of a member. -/
inductive Written : Phrase → Text → Prop
  | null : Written (.value .null) ['n', 'u', 'l', 'l']
  | true : Written (.value (.bool true)) ['t', 'r', 'u', 'e']
  | false : Written (.value (.bool false)) ['f', 'a', 'l', 's', 'e']
  | number {t : Text} (literal : IsNumber t) : Written (.value (.number t)) t
  | string {t : Text} {ps : List Parser.Piece} (inside : Spells t ps) :
      Written (.value (.string (Parser.spelled? ps))) ('"' :: (t ++ ['"']))
  | emptyArray {s : Text} (blank : IsBlank s) : Written (.value (.array [])) ('[' :: (s ++ [']']))
  | array {vs : List Value} {t : Text} (inside : Written (.items vs) t) :
      Written (.value (.array vs)) ('[' :: (t ++ [']']))
  | emptyObject {s : Text} (blank : IsBlank s) :
      Written (.value (.object [])) ('{' :: (s ++ ['}']))
  | object {ms : List (Option Text × Value)} {t : Text} (inside : Written (.members ms) t) :
      Written (.value (.object ms)) ('{' :: (t ++ ['}']))
  | item {v : Value} {s t s' : Text} (before : IsBlank s) (value : Written (.value v) t)
      (after : IsBlank s') : Written (.item v) (s ++ (t ++ s'))
  | lastItem {v : Value} {t : Text} (item : Written (.item v) t) : Written (.items [v]) t
  | moreItems {v : Value} {vs : List Value} {t u : Text} (item : Written (.item v) t)
      (rest : Written (.items vs) u) : Written (.items (v :: vs)) (t ++ ',' :: u)
  | member {ps : List Parser.Piece} {v : Value} {s name s' t : Text} (before : IsBlank s)
      (spelled : Spells name ps) (after : IsBlank s') (item : Written (.item v) t) :
      Written (.member (Parser.spelled? ps, v)) (s ++ '"' :: (name ++ '"' :: (s' ++ ':' :: t)))
  | lastMember {m : Option Text × Value} {t : Text} (member : Written (.member m) t) :
      Written (.members [m]) t
  | moreMembers {m : Option Text × Value} {ms : List (Option Text × Value)} {t u : Text}
      (member : Written (.member m) t) (rest : Written (.members ms) u) :
      Written (.members (m :: ms)) (t ++ ',' :: u)

def IsDocument (v : Value) (t : Text) : Prop :=
  ∃ before written after, IsBlank before ∧ Written (.value v) written ∧ IsBlank after ∧
    t = before ++ (written ++ after)

end ClassLayout.Json
