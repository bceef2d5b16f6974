import ClassLayout.Text.Printable
import ClassLayout.Text.Utf8

namespace ClassLayout.Text

def codePointEscape (c : Char) : Text :=
  ['\\', 'u', '{'] ++ Nat.toDigits 16 c.toNat ++ ['}']

def quotedChar (c : Char) : Text :=
  match c with
  | '\x00' => ['\\', '0']
  | '\t' => ['\\', 't']
  | '\r' => ['\\', 'r']
  | '\n' => ['\\', 'n']
  | '"' => ['\\', '"']
  | '\\' => ['\\', '\\']
  | c => if isCombining c || !isPrintable c then codePointEscape c else [c]

/-- A text between double quotes in which every character can be seen. -/
def quoted (t : Text) : Text := '"' :: t.flatMap quotedChar ++ ['"']

def byteEscape (b : UInt8) : Text :=
  ['\\', 'x'] ++ (Nat.toDigits 16 b.toNat).map Char.toUpper

def quotedBytes (b : List UInt8) : Text :=
  '"' :: (readFrom none b).flatMap (Sum.elim quotedChar (List.flatMap byteEscape)) ++ ['"']

end ClassLayout.Text
