import ClassLayout.Text.Basic

namespace ClassLayout.Text

def encode (t : Text) : List UInt8 := (String.ofList t).toUTF8.data.toList

def decode? (b : List UInt8) : Option Text := (String.fromUTF8? ⟨b.toArray⟩).map String.toList

theorem decode?_encode (t : Text) : decode? (encode t) = some t := by
  simp only [decode?, encode, String.fromUTF8?, String.toUTF8_eq_toByteArray, Array.toArray_toList]
  rw [dif_pos (String.ofList t).isValidUTF8]
  exact congrArg some String.toList_ofList

theorem encode_of_decode? {b : List UInt8} {t : Text} (h : decode? b = some t) : encode t = b := by
  simp only [decode?, String.fromUTF8?] at h
  split at h
  · rw [Option.map_some, Option.some.injEq] at h
    subst h
    rw [encode, String.ofList_toList]
    rfl
  · cases h

theorem encode_injective {s t : Text} (h : encode s = encode t) : s = t := by
  have hdecoded := congrArg decode? h
  rwa [decode?_encode, decode?_encode, Option.some.injEq] at hdecoded

theorem encode_eq_flatMap (t : Text) : encode t = t.flatMap String.utf8EncodeChar := by
  simp [encode, String.toUTF8_eq_toByteArray, String.toByteArray_ofList, List.utf8Encode]

theorem encode_append (s t : Text) : encode (s ++ t) = encode s ++ encode t := by
  simp only [encode_eq_flatMap, List.flatMap_append]

def replacement : Char := '\ufffd'

/-- A character of which only the bytes `read` have come: its bits so far, the bounds of the byte to
come, and the number of bytes after that one. -/
structure Unfinished where
  read : List UInt8
  bits : Nat
  least : Nat
  greatest : Nat
  more : Nat

/-- Characters, and between them bytes that encode none. -/
abbrev Reading := List (Char ⊕ List UInt8)

def startWith (b : UInt8) : Reading × Option Unfinished :=
  let n := b.toNat
  if n < 0x80 then ([.inl (Char.ofNat n)], none)
  else if n < 0xC2 then ([.inr [b]], none)
  else if n < 0xE0 then ([], some ⟨[b], n - 0xC0, 0x80, 0xBF, 0⟩)
  else if n < 0xF0 then
    ([], some ⟨[b], n - 0xE0, if n = 0xE0 then 0xA0 else 0x80, if n = 0xED then 0x9F else 0xBF, 1⟩)
  else if n < 0xF5 then
    ([], some ⟨[b], n - 0xF0, if n = 0xF0 then 0x90 else 0x80, if n = 0xF4 then 0x8F else 0xBF, 2⟩)
  else ([.inr [b]], none)

/-- A byte behind those before it. One that cannot go on with the unfinished character breaks it
off and starts afresh. -/
def goOn (b : UInt8) : Option Unfinished → Reading × Option Unfinished
  | none => startWith b
  | some u =>
      if u.least ≤ b.toNat ∧ b.toNat ≤ u.greatest then
        let bits := u.bits * 64 + b.toNat % 64
        match u.more with
        | 0 => ([.inl (Char.ofNat bits)], none)
        | more + 1 => ([], some ⟨u.read ++ [b], bits, 0x80, 0xBF, more⟩)
      else (.inr u.read :: (startWith b).1, (startWith b).2)

def readFrom : Option Unfinished → List UInt8 → Reading
  | none, [] => []
  | some u, [] => [.inr u.read]
  | u, b :: rest => (goOn b u).1 ++ readFrom (goOn b u).2 rest

/-- One replacement character stands for the longest beginning of a character that goes nowhere, and
for any byte that begins none. -/
def decodeLossy (b : List UInt8) : Text := (readFrom none b).map (Sum.elim id fun _ => replacement)

end ClassLayout.Text
