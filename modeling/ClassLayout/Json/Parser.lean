import ClassLayout.Json.Value

namespace ClassLayout.Json.Parser

def isSpace (c : Char) : Bool := c == ' ' || c == '\n' || c == '\t' || c == '\r'

def skipSpace (t : Text) : Text := t.dropWhile isSpace

/-- What a string literal spells: characters, and code units written as `\u` escapes. -/
inductive Piece where
  | char (c : Char)
  | unit (n : Nat)
  deriving DecidableEq

def hexDigit? (c : Char) : Option Nat :=
  if '0' ≤ c ∧ c ≤ '9' then some (c.toNat - '0'.toNat)
  else if 'a' ≤ c ∧ c ≤ 'f' then some (c.toNat - 'a'.toNat + 10)
  else if 'A' ≤ c ∧ c ≤ 'F' then some (c.toNat - 'A'.toNat + 10)
  else none

def hexUnit? (a b c d : Char) : Option Nat := do
  return (((← hexDigit? a) * 16 + (← hexDigit? b)) * 16 + (← hexDigit? c)) * 16 + (← hexDigit? d)

def escaped? : Char → Option Char
  | '"' => some '"'
  | '\\' => some '\\'
  | '/' => some '/'
  | 'b' => some '\x08'
  | 'f' => some '\x0c'
  | 'n' => some '\n'
  | 'r' => some '\r'
  | 't' => some '\t'
  | _ => none

def pieces : Text → Option (List Piece × Text)
  | [] => none
  | '"' :: rest => some ([], rest)
  | '\\' :: 'u' :: a :: b :: c :: d :: rest => do
      let n ← hexUnit? a b c d
      let (more, rest) ← pieces rest
      return (.unit n :: more, rest)
  | '\\' :: e :: rest => do
      let c ← escaped? e
      let (more, rest) ← pieces rest
      return (.char c :: more, rest)
  | c :: rest => do
      if c.toNat < 0x20 then none
      else
        let (more, rest) ← pieces rest
        return (.char c :: more, rest)

def isHighSurrogate (n : Nat) : Bool := 0xD800 ≤ n && n ≤ 0xDBFF

def isLowSurrogate (n : Nat) : Bool := 0xDC00 ≤ n && n ≤ 0xDFFF

/-- The text that pieces spell. A high surrogate and the low one right behind it are one
character. -/
def spelled? : List Piece → Option Text
  | [] => some []
  | .char c :: rest => (spelled? rest).map (c :: ·)
  | .unit h :: .unit l :: rest =>
      if isHighSurrogate h then
        if isLowSurrogate l then
          (spelled? rest).map (Char.ofNat (0x10000 + (h - 0xD800) * 0x400 + (l - 0xDC00)) :: ·)
        else none
      else if isLowSurrogate h then none
      else (spelled? (.unit l :: rest)).map (Char.ofNat h :: ·)
  | .unit n :: rest =>
      if isHighSurrogate n || isLowSurrogate n then none
      else (spelled? rest).map (Char.ofNat n :: ·)

def digits? (t : Text) : Option (Text × Text) :=
  match t.takeWhile Char.isDigit with
  | [] => none
  | ds => some (ds, t.dropWhile Char.isDigit)

def whole? : Text → Option (Text × Text)
  | '0' :: rest => some (['0'], rest)
  | t => digits? t

def fraction? : Text → Option (Text × Text)
  | '.' :: rest => do
      let (ds, rest) ← digits? rest
      return ('.' :: ds, rest)
  | t => some ([], t)

def sign : Text → Text × Text
  | '+' :: rest => (['+'], rest)
  | '-' :: rest => (['-'], rest)
  | t => ([], t)

def exponent? : Text → Option (Text × Text)
  | [] => some ([], [])
  | e :: rest =>
      if e = 'e' ∨ e = 'E' then do
        let (s, rest) := sign rest
        let (ds, rest) ← digits? rest
        return (e :: s ++ ds, rest)
      else some ([], e :: rest)

def minus : Text → Text × Text
  | '-' :: rest => (['-'], rest)
  | t => ([], t)

def number? (t : Text) : Option (Text × Text) := do
  let (m, t) := minus t
  let (w, t) ← whole? t
  let (f, t) ← fraction? t
  let (e, t) ← exponent? t
  return (m ++ w ++ f ++ e, t)

def behind? (word t : Text) : Option Text :=
  if word.isPrefixOf t then some (t.drop word.length) else none

def string? (t : Text) : Option (Option Text × Text) := do
  let (ps, rest) ← pieces t
  return (spelled? ps, rest)

mutual

def value (depth : Nat) (t : Text) : Option (Value × Text) :=
  match depth with
  | 0 => none
  | depth + 1 =>
      match skipSpace t with
      | [] => none
      | '"' :: rest => do
          let (content, rest) ← string? rest
          return (.string content, rest)
      | '[' :: rest => do
          let (vs, rest) ← items depth rest
          return (.array vs, rest)
      | '{' :: rest => do
          let (ms, rest) ← members depth rest
          return (.object ms, rest)
      | 'n' :: rest => (behind? ['u', 'l', 'l'] rest).map (.null, ·)
      | 't' :: rest => (behind? ['r', 'u', 'e'] rest).map (.bool true, ·)
      | 'f' :: rest => (behind? ['a', 'l', 's', 'e'] rest).map (.bool false, ·)
      | t => do
          let (literal, rest) ← number? t
          return (.number literal, rest)

def items (depth : Nat) (t : Text) : Option (List Value × Text) :=
  match depth with
  | 0 => none
  | depth + 1 =>
      match skipSpace t with
      | ']' :: rest => some ([], rest)
      | t => moreItems depth t

def moreItems (depth : Nat) (t : Text) : Option (List Value × Text) :=
  match depth with
  | 0 => none
  | depth + 1 => do
      let (v, rest) ← value depth t
      match skipSpace rest with
      | ']' :: rest => return ([v], rest)
      | ',' :: rest =>
          let (vs, rest) ← moreItems depth rest
          return (v :: vs, rest)
      | _ => none

def members (depth : Nat) (t : Text) : Option (List (Option Text × Value) × Text) :=
  match depth with
  | 0 => none
  | depth + 1 =>
      match skipSpace t with
      | '}' :: rest => some ([], rest)
      | t => moreMembers depth t

def moreMembers (depth : Nat) (t : Text) : Option (List (Option Text × Value) × Text) :=
  match depth with
  | 0 => none
  | depth + 1 =>
      match skipSpace t with
      | '"' :: rest => do
          let (name, rest) ← string? rest
          match skipSpace rest with
          | ':' :: rest =>
              let (v, rest) ← value depth rest
              match skipSpace rest with
              | '}' :: rest => return ([(name, v)], rest)
              | ',' :: rest =>
                  let (ms, rest) ← moreMembers depth rest
                  return ((name, v) :: ms, rest)
              | _ => none
          | _ => none
      | _ => none

end

end Parser

/-- The value that a whole text spells, with nothing but space around it. Every third call at the
latest takes a character, which bounds the depth. -/
def parse (t : Text) : Option Value := do
  let (v, rest) ← Parser.value (3 * t.length + 3) t
  if (Parser.skipSpace rest).isEmpty then some v else none

end ClassLayout.Json
