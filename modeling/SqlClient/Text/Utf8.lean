namespace SqlClient.Text

/-!
# Reading UTF-8

Bytes are read as text if they are well-formed UTF-8.  If not, the fault says how far the
text is good and how many bytes after that belong to no character.

* `Utf8.decode` — the characters, or the first fault.
-/

/-- Where bytes stop being text.  No length means that they end inside a character. -/
structure Utf8Fault where
  validUpTo : Nat
  length : Option Nat
deriving DecidableEq, Repr

/-- What is wrong with the bytes. -/
def Utf8Fault.message (f : Utf8Fault) : String :=
  match f.length with
  | some n => s!"invalid utf-8 sequence of {n} bytes from index {f.validUpTo}"
  | none => s!"incomplete utf-8 byte sequence from index {f.validUpTo}"

namespace Utf8

/-- How many continuation bytes follow a first byte, and the range of the first of them. -/
def lead? (b : Nat) : Option (Nat × Nat × Nat) :=
  if b < 0x80 then some (0, 0, 0)
  else if 0xc2 ≤ b ∧ b ≤ 0xdf then some (1, 0x80, 0xbf)
  else if b = 0xe0 then some (2, 0xa0, 0xbf)
  else if b = 0xed then some (2, 0x80, 0x9f)
  else if 0xe1 ≤ b ∧ b ≤ 0xef then some (2, 0x80, 0xbf)
  else if b = 0xf0 then some (3, 0x90, 0xbf)
  else if 0xf1 ≤ b ∧ b ≤ 0xf3 then some (3, 0x80, 0xbf)
  else if b = 0xf4 then some (3, 0x80, 0x8f)
  else none

/-- The bits of a first byte that belong to the code point. -/
def leadBits (b tail : Nat) : Nat :=
  if tail = 0 then b else if tail = 1 then b % 0x20 else if tail = 2 then b % 0x10 else b % 8

/-- Read on from a character that starts at index `start`.  In the middle of a character,
    `tail` bytes of it are missing, the next between `low` and `high`, and `taken` have been
    read. -/
def decodeFrom (start taken tail low high value : Nat) :
    List UInt8 → Except Utf8Fault (List Char)
  | [] => if tail = 0 then .ok [] else .error ⟨start, none⟩
  | byte :: rest =>
    let b := byte.toNat
    if tail = 0 then
      match lead? b with
      | none => .error ⟨start, some 1⟩
      | some (0, _, _) => (decodeFrom (start + 1) 0 0 0 0 0 rest).map (Char.ofNat b :: ·)
      | some (n + 1, low, high) => decodeFrom start 1 (n + 1) low high (leadBits b (n + 1)) rest
    else if low ≤ b ∧ b ≤ high then
      let value := value * 0x40 + b % 0x40
      if tail = 1 then
        (decodeFrom (start + taken + 1) 0 0 0 0 0 rest).map (Char.ofNat value :: ·)
      else decodeFrom start (taken + 1) (tail - 1) 0x80 0xbf value rest
    else .error ⟨start, some taken⟩

/-- The characters of well-formed bytes. -/
def decode (bytes : List UInt8) : Except Utf8Fault (List Char) := decodeFrom 0 0 0 0 0 0 bytes

end Utf8

end SqlClient.Text
