/-!
# UTF-8

Writing characters as bytes and reading them back.  Reading goes unit by unit:
a unit is one character, or the longest start of a character that cannot be
completed.  Strict reading refuses a text with a broken unit, lenient reading
puts the replacement character in its place.
-/

namespace MailSearch
namespace Text
namespace Utf8

/-- The bytes of a sequence of characters. -/
def encode (text : List Char) : List UInt8 :=
  text.flatMap String.utf8EncodeChar

/-- The bytes of a text. -/
def bytes (text : String) : List UInt8 :=
  encode text.toList

/-- What the first byte of a longer character promises. -/
structure Lead where
  /-- The number of bytes that follow. -/
  tails : Nat
  /-- The least second byte. -/
  low : Nat
  /-- The greatest second byte. -/
  high : Nat
  /-- The bits of the code point that the first byte holds. -/
  bits : Nat

/-- Read the first byte of a character of two, three or four bytes. -/
def lead? (first : UInt8) : Option Lead :=
  let code := first.toNat
  if 0xC2 ≤ code ∧ code ≤ 0xDF then some ⟨1, 0x80, 0xBF, code - 0xC0⟩
  else if code = 0xE0 then some ⟨2, 0xA0, 0xBF, 0⟩
  else if code = 0xED then some ⟨2, 0x80, 0x9F, 0xD⟩
  else if 0xE1 ≤ code ∧ code ≤ 0xEF then some ⟨2, 0x80, 0xBF, code - 0xE0⟩
  else if code = 0xF0 then some ⟨3, 0x90, 0xBF, 0⟩
  else if 0xF1 ≤ code ∧ code ≤ 0xF3 then some ⟨3, 0x80, 0xBF, code - 0xF0⟩
  else if code = 0xF4 then some ⟨3, 0x80, 0x8F, 4⟩
  else none

/-- Read the bytes that a first byte promised, and stop before one that does not
fit. -/
def readTails :
    Nat -> Nat -> Nat -> Nat -> List UInt8 -> Option Char × List UInt8
  | 0, _, _, bits, rest => (some (Char.ofNat bits), rest)
  | _ + 1, _, _, _, [] => (none, [])
  | tails + 1, low, high, bits, byte :: rest =>
      if low ≤ byte.toNat ∧ byte.toNat ≤ high then
        readTails tails 0x80 0xBF (bits * 64 + (byte.toNat - 0x80)) rest
      else (none, byte :: rest)

/-- Read one unit: a character, or `none` for a start that cannot be
completed. -/
def readUnit (first : UInt8) (rest : List UInt8) : Option Char × List UInt8 :=
  if first.toNat < 0x80 then (some (Char.ofNat first.toNat), rest)
  else
    match lead? first with
    | none => (none, rest)
    | some lead => readTails lead.tails lead.low lead.high lead.bits rest

theorem length_readTails_le (tails low high bits : Nat) (rest : List UInt8) :
    (readTails tails low high bits rest).2.length ≤ rest.length := by
  induction rest generalizing tails low high bits with
  | nil => cases tails <;> simp [readTails]
  | cons byte rest ih =>
      cases tails with
      | zero => simp [readTails]
      | succ tails =>
          simp only [readTails]
          split
          · have := ih tails 0x80 0xBF (bits * 64 + (byte.toNat - 0x80))
            simp only [List.length_cons]
            omega
          · simp

theorem length_readUnit_le (first : UInt8) (rest : List UInt8) :
    (readUnit first rest).2.length ≤ rest.length := by
  unfold readUnit
  split
  · simp
  · split
    · simp
    · exact length_readTails_le ..

/-- The units of a sequence of bytes. -/
def units : List UInt8 -> List (Option Char)
  | [] => []
  | first :: rest => (readUnit first rest).1 :: units (readUnit first rest).2
termination_by bytes => bytes.length
decreasing_by
  have := length_readUnit_le first rest
  simp only [List.length_cons]
  omega

/-- Read a text that must be whole. -/
def decode? (bytes : List UInt8) : Option (List Char) :=
  (units bytes).mapM id

/-- Read a text with the replacement character for every broken unit. -/
def decodeLossy (bytes : List UInt8) : List Char :=
  (units bytes).map fun unit => unit.getD '\uFFFD'

/-- Whether bytes are at their end or begin with a character, and not with the
middle of one. -/
def isBoundary : List UInt8 -> Bool
  | [] => true
  | first :: _ => first.toNat < 0x80 || 0xC0 ≤ first.toNat

/-- The number of bytes that a sequence of characters takes. -/
def size (text : List Char) : Nat :=
  (text.map Char.utf8Size).foldl (· + ·) 0

end Utf8
end Text
end MailSearch
