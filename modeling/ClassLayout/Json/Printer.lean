import ClassLayout.Json.Value

namespace ClassLayout.Json

inductive Scalar where
  | null
  | bool (b : Bool)
  | count (n : Nat)
  | text (t : Text)
  deriving DecidableEq

abbrev Record := List (Text × Scalar)

def escapedChar (c : Char) : Text :=
  match c with
  | '"' => ['\\', '"']
  | '\\' => ['\\', '\\']
  | '\x08' => ['\\', 'b']
  | '\x0c' => ['\\', 'f']
  | '\n' => ['\\', 'n']
  | '\r' => ['\\', 'r']
  | '\t' => ['\\', 't']
  | c =>
      if c.toNat < 0x20 then
        ['\\', 'u', '0', '0', Nat.digitChar (c.toNat / 16), Nat.digitChar (c.toNat % 16)]
      else [c]

def stringLiteral (t : Text) : Text := '"' :: t.flatMap escapedChar ++ ['"']

namespace Scalar

def toValue : Scalar → Value
  | null => .null
  | bool b => .bool b
  | count n => .number (Text.decimal n)
  | text t => .string (some t)

def print : Scalar → Text
  | null => ['n', 'u', 'l', 'l']
  | bool true => ['t', 'r', 'u', 'e']
  | bool false => ['f', 'a', 'l', 's', 'e']
  | count n => Text.decimal n
  | text t => stringLiteral t

end Scalar

namespace Record

def toValue (r : Record) : Value := .object (r.map fun f => (some f.1, f.2.toValue))

def compact (r : Record) : Text :=
  '{' :: Text.joined ',' (r.map fun f => stringLiteral f.1 ++ ':' :: f.2.print) ++ ['}']

def prettyField (f : Text × Scalar) : Text :=
  ['\n', ' ', ' '] ++ stringLiteral f.1 ++ [':', ' '] ++ f.2.print

def pretty (r : Record) : Text :=
  if r.isEmpty then ['{', '}']
  else '{' :: Text.joined ',' (r.map prettyField) ++ ['\n', '}']

end Record

end ClassLayout.Json
