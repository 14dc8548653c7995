import Companion.Text.Basic

/-!
# UTF-8

Text as bytes and bytes as text. The decoder goes through the bytes one at a time and, where they
stop being UTF-8, says how many bytes before were good and how many the bad sequence has.
-/

namespace Companion

/-- A sequence of bytes. -/
abbrev Bytes := List UInt8

namespace Utf8

/-- The bytes of one character. -/
def encodeChar (c : Char) : Bytes :=
  let n := c.toNat
  if n < 0x80 then [.ofNat n]
  else if n < 0x800 then [.ofNat (0xC0 + n / 0x40), .ofNat (0x80 + n % 0x40)]
  else if n < 0x10000 then
    [.ofNat (0xE0 + n / 0x1000), .ofNat (0x80 + n / 0x40 % 0x40), .ofNat (0x80 + n % 0x40)]
  else
    [.ofNat (0xF0 + n / 0x40000), .ofNat (0x80 + n / 0x1000 % 0x40),
      .ofNat (0x80 + n / 0x40 % 0x40), .ofNat (0x80 + n % 0x40)]

/-- The bytes of a text. -/
def encode (t : Text) : Bytes :=
  t.flatMap encodeChar

/-- Where bytes stop being UTF-8: the number of good bytes before, and the length of the bad
sequence, or none if the bytes end inside a character. -/
structure Fault where
  index : Nat
  length : Option Nat
deriving DecidableEq

namespace Fault

/-- The fault in words. -/
def message (f : Fault) : Text :=
  match f.length with
  | some n =>
    "invalid utf-8 sequence of " ++ Text.ofNat n ++ " bytes from index " ++ Text.ofNat f.index
  | none => "incomplete utf-8 byte sequence from index " ++ Text.ofNat f.index

end Fault

/-- A character begun: its bits so far, the bytes taken and owed, and the range of the next one. -/
structure Begun where
  value : Nat
  taken : Nat
  owed : Nat
  low : Nat
  high : Nat

/-- The character that a first byte of 0x80 or more begins. -/
def begin? (b : Nat) : Option Begun :=
  if 0xC2 ≤ b ∧ b ≤ 0xDF then some ⟨b - 0xC0, 1, 1, 0x80, 0xBF⟩
  else if b = 0xE0 then some ⟨0, 1, 2, 0xA0, 0xBF⟩
  else if b = 0xED then some ⟨0xD, 1, 2, 0x80, 0x9F⟩
  else if 0xE1 ≤ b ∧ b ≤ 0xEF then some ⟨b - 0xE0, 1, 2, 0x80, 0xBF⟩
  else if b = 0xF0 then some ⟨0, 1, 3, 0x90, 0xBF⟩
  else if 0xF1 ≤ b ∧ b ≤ 0xF3 then some ⟨b - 0xF0, 1, 3, 0x80, 0xBF⟩
  else if b = 0xF4 then some ⟨4, 1, 3, 0x80, 0x8F⟩
  else none

/-- The text of the bytes that follow `index` good ones and, where a character is begun, its first
bytes. -/
def decodeFrom (index : Nat) : Option Begun → Bytes → Except Fault Text
  | none, [] => .ok []
  | some _, [] => .error ⟨index, none⟩
  | none, b :: bs =>
    if b.toNat < 0x80 then (decodeFrom (index + 1) none bs).map (Char.ofNat b.toNat :: ·)
    else
      match begin? b.toNat with
      | some p => decodeFrom index (some p) bs
      | none => .error ⟨index, some 1⟩
  | some p, b :: bs =>
    if p.low ≤ b.toNat ∧ b.toNat ≤ p.high then
      let value := p.value * 0x40 + (b.toNat - 0x80)
      if p.owed ≤ 1 then
        (decodeFrom (index + p.taken + 1) none bs).map (Char.ofNat value :: ·)
      else decodeFrom index (some ⟨value, p.taken + 1, p.owed - 1, 0x80, 0xBF⟩) bs
    else .error ⟨index, some p.taken⟩

/-- The text of the bytes, if they are UTF-8. -/
def decode (bytes : Bytes) : Except Fault Text :=
  decodeFrom 0 none bytes

end Utf8

end Companion
