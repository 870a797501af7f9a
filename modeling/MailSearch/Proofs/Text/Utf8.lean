import MailSearch.Text.Utf8

/-!
# UTF-8 back and forth

A character that was written as bytes is read back as one unit, so a text that
was encoded is decoded as it was; and what is read as a character are the bytes
that it is written as, so a text that was decoded is encoded as it was.  No unit
reaches over an ASCII character, not even a broken one, so bytes can be cut in
front of it before they are read.
-/

namespace MailSearch
namespace Text
namespace Utf8

/-! ## Bytes of a character -/

theorem readTails_cons
    {tails low high bits code : Nat}
    (least : low ≤ code)
    (most : code ≤ high)
    (isByte : code < 256)
    (rest : List UInt8) :
    readTails (tails + 1) low high bits (UInt8.ofNat code :: rest) =
      readTails tails 0x80 0xBF (bits * 64 + (code - 0x80)) rest := by
  rw [readTails, UInt8.toNat_ofNat_of_lt' isByte, if_pos ⟨least, most⟩]

/-- A first byte with the high bit promises what the table says of it. -/
theorem readUnit_of_lead
    {code tails low high bits : Nat}
    (isLead : 0x80 ≤ code)
    (isByte : code < 256)
    (promised : lead? (UInt8.ofNat code) = some ⟨tails, low, high, bits⟩)
    (rest : List UInt8) :
    readUnit (UInt8.ofNat code) rest = readTails tails low high bits rest := by
  rw [readUnit, UInt8.toNat_ofNat_of_lt' isByte,
    if_neg (Nat.not_lt.mpr isLead), promised]

theorem lead?_of_two
    {code : Nat}
    (least : 0xC2 ≤ code)
    (most : code ≤ 0xDF) :
    lead? (UInt8.ofNat code) = some ⟨1, 0x80, 0xBF, code - 0xC0⟩ := by
  have isByte : code < 256 := by omega
  simp only [lead?, UInt8.toNat_ofNat_of_lt' isByte]
  rw [if_pos ⟨least, most⟩]

/-- The least and the greatest second byte of a character of three bytes. -/
theorem exists_lead?_of_three
    {code : Nat}
    (least : 0xE0 ≤ code)
    (most : code ≤ 0xEF) :
    ∃ low high, lead? (UInt8.ofNat code) = some ⟨2, low, high, code - 0xE0⟩ ∧
      (low = 0x80 ∨ code = 0xE0 ∧ low = 0xA0) ∧
        (high = 0xBF ∨ code = 0xED ∧ high = 0x9F) := by
  have isByte : code < 256 := by omega
  simp only [lead?, UInt8.toNat_ofNat_of_lt' isByte]
  rw [if_neg (by omega)]
  split
  · rename_i same
    subst same
    exact ⟨0xA0, 0xBF, rfl, Or.inr ⟨rfl, rfl⟩, Or.inl rfl⟩
  · split
    · rename_i same
      subst same
      exact ⟨0x80, 0x9F, rfl, Or.inl rfl, Or.inr ⟨rfl, rfl⟩⟩
    · rw [if_pos (by omega)]
      exact ⟨0x80, 0xBF, rfl, Or.inl rfl, Or.inl rfl⟩

/-- The least and the greatest second byte of a character of four bytes. -/
theorem exists_lead?_of_four
    {code : Nat}
    (least : 0xF0 ≤ code)
    (most : code ≤ 0xF4) :
    ∃ low high, lead? (UInt8.ofNat code) = some ⟨3, low, high, code - 0xF0⟩ ∧
      (low = 0x80 ∨ code = 0xF0 ∧ low = 0x90) ∧
        (high = 0xBF ∨ code = 0xF4 ∧ high = 0x8F) := by
  have isByte : code < 256 := by omega
  simp only [lead?, UInt8.toNat_ofNat_of_lt' isByte]
  rw [if_neg (by omega), if_neg (by omega), if_neg (by omega),
    if_neg (by omega)]
  split
  · rename_i same
    subst same
    exact ⟨0x90, 0xBF, rfl, Or.inr ⟨rfl, rfl⟩, Or.inl rfl⟩
  · split
    · exact ⟨0x80, 0xBF, rfl, Or.inl rfl, Or.inl rfl⟩
    · rw [if_pos (by omega)]
      have same : code = 0xF4 := by omega
      subst same
      exact ⟨0x80, 0x8F, rfl, Or.inl rfl, Or.inr ⟨rfl, rfl⟩⟩

/-! ## Bytes of a text -/

theorem encode_cons
    (c : Char)
    (rest : List Char) :
    encode (c :: rest) = String.utf8EncodeChar c ++ encode rest :=
  List.flatMap_cons

theorem encode_append
    (left right : List Char) :
    encode (left ++ right) = encode left ++ encode right :=
  List.flatMap_append

theorem encode_singleton
    (c : Char) :
    encode [c] = String.utf8EncodeChar c :=
  List.flatMap_singleton String.utf8EncodeChar c

/-! ## Units -/

theorem units_cons
    {first : UInt8}
    {bytes rest : List UInt8}
    {c : Char}
    (read : readUnit first bytes = (some c, rest)) :
    units (first :: bytes) = some c :: units rest := by
  rw [units, read]

/-- The bytes of a character are read as one unit. -/
theorem units_utf8EncodeChar_append
    (c : Char)
    (rest : List UInt8) :
    units (String.utf8EncodeChar c ++ rest) = some c :: units rest := by
  have valid : c.toNat < 0xD800 ∨ 0xDFFF < c.toNat ∧
      c.toNat < 0x110000 := c.valid
  have isCode : c.val.toNat = c.toNat := rfl
  unfold String.utf8EncodeChar
  simp only [isCode]
  generalize code : c.toNat = v at valid
  have same : Char.ofNat v = c := by
    rw [← code, Char.ofNat_toNat]
  split
  · rename_i ascii
    have isByte : v < 256 := by omega
    have low : v < 0x80 := by omega
    rw [List.cons_append, List.nil_append]
    apply units_cons
    rw [readUnit, UInt8.toNat_ofNat_of_lt' isByte, if_pos low, same]
  · split
    · have promised := @lead?_of_two (v / 64 % 32 + 192) (by omega) (by omega)
      have total : (v / 64 % 32 + 192 - 0xC0) * 64 + (v % 64 + 128 - 0x80) =
          v := by omega
      simp only [List.cons_append, List.nil_append]
      apply units_cons
      rw [readUnit_of_lead (by omega) (by omega) promised,
        readTails_cons (by omega) (by omega) (by omega), readTails, total, same]
    · split
      · obtain ⟨low, high, promised, least, most⟩ :=
          @exists_lead?_of_three (v / 4096 % 16 + 224) (by omega) (by omega)
        have total :
            ((v / 4096 % 16 + 224 - 0xE0) * 64 + (v / 64 % 64 + 128 - 0x80)) *
            64 +
            (v % 64 + 128 - 0x80) = v := by omega
        simp only [List.cons_append, List.nil_append]
        apply units_cons
        rw [readUnit_of_lead (by omega) (by omega) promised,
          readTails_cons (by omega) (by omega) (by omega),
          readTails_cons (by omega) (by omega) (by omega), readTails,
            total, same]
      · obtain ⟨low, high, promised, least, most⟩ :=
          @exists_lead?_of_four (v / 262144 % 8 + 240) (by omega) (by omega)
        have total :
            (((v / 262144 % 8 + 240 - 0xF0) * 64 +
                  (v / 4096 % 64 + 128 - 0x80)) * 64 +
                (v / 64 % 64 + 128 - 0x80)) * 64 + (v % 64 + 128 - 0x80) =
              v := by omega
        simp only [List.cons_append, List.nil_append]
        apply units_cons
        rw [readUnit_of_lead (by omega) (by omega) promised,
          readTails_cons (by omega) (by omega) (by omega),
          readTails_cons (by omega) (by omega) (by omega),
          readTails_cons (by omega) (by omega) (by omega), readTails,
            total, same]

theorem units_encode
    (text : List Char) :
    units (encode text) = text.map some := by
  induction text with
  | nil => rw [encode, List.flatMap_nil, units, List.map_nil]
  | cons c rest inductionHypothesis =>
      rw [encode, List.flatMap_cons, units_utf8EncodeChar_append,
        List.map_cons, ← encode, inductionHypothesis]

/-- A text that was encoded is decoded as it was. -/
theorem decode?_encode
    (text : List Char) :
    decode? (encode text) = some text := by
  rw [decode?, units_encode]
  induction text with
  | nil => rfl
  | cons c rest inductionHypothesis =>
      rw [List.map_cons, List.mapM_cons, inductionHypothesis]
      rfl

/-! ## Characters of units -/

/-- The bytes of the character with a code. -/
theorem utf8EncodeChar_ofNat
    {code : Nat}
    (valid : code.isValidChar) :
    String.utf8EncodeChar (Char.ofNat code) =
      if code ≤ 0x7F then [UInt8.ofNat code]
      else if code ≤ 0x7FF then [UInt8.ofNat (code / 64 % 32 + 192),
        UInt8.ofNat (code % 64 + 128)]
      else if code ≤ 0xFFFF then
        [UInt8.ofNat (code / 4096 % 16 + 224),
          UInt8.ofNat (code / 64 % 64 + 128), UInt8.ofNat (code % 64 + 128)]
      else
        [UInt8.ofNat (code / 262144 % 8 + 240),
          UInt8.ofNat (code / 4096 % 64 + 128),
          UInt8.ofNat (code / 64 % 64 + 128),
            UInt8.ofNat (code % 64 + 128)] := by
  have same : (Char.ofNat code).val.toNat = code := by
    have direct : Char.ofNat code = Char.ofNatAux code valid := dif_pos valid
    rw [direct]
    rfl
  rw [String.utf8EncodeChar, same]

theorem exists_of_readTails_succ
    {tails low high bits : Nat}
    {bytes left : List UInt8}
    {c : Char}
    (read : readTails (tails + 1) low high bits bytes = (some c, left)) :
    ∃ code rest, bytes = UInt8.ofNat code :: rest ∧ low ≤ code ∧ code ≤ high ∧
      readTails tails 0x80 0xBF (bits * 64 + (code - 0x80)) rest =
        (some c, left) := by
  cases bytes with
  | nil => cases read
  | cons byte rest =>
      rw [readTails] at read
      split at read
      · rename_i within
        exact ⟨byte.toNat, rest, by rw [UInt8.ofNat_toNat], within.1,
          within.2, read⟩
      · cases read

/-- What is read behind the first of two bytes was written as these bytes. -/
theorem eq_append_of_two
    {first : Nat}
    (isLead : 0xC2 ≤ first ∧ first ≤ 0xDF)
    {bytes left : List UInt8}
    {c : Char}
    (read : readTails 1 0x80 0xBF (first - 0xC0) bytes = (some c, left)) :
    UInt8.ofNat first :: bytes = String.utf8EncodeChar c ++ left := by
  obtain ⟨second, rest, rfl, leastSecond, mostSecond, read⟩ :=
    exists_of_readTails_succ read
  rw [readTails, Prod.mk.injEq, Option.some.injEq] at read
  obtain ⟨rfl, rfl⟩ := read
  generalize isCode : (first - 0xC0) * 64 + (second - 0x80) = code
  have valid : code.isValidChar := .inl (by omega)
  have lead : code / 64 % 32 + 192 = first := by omega
  have tail : code % 64 + 128 = second := by omega
  rw [utf8EncodeChar_ofNat valid, if_neg (by omega), if_pos (by omega),
    lead, tail]
  rfl

/-- So it is behind the first of three bytes; no surrogate is among the
characters. -/
theorem eq_append_of_three
    {first low high : Nat}
    (isLead : 0xE0 ≤ first ∧ first ≤ 0xEF)
    (within : 0x80 ≤ low ∧ high ≤ 0xBF)
    (long : first = 0xE0 → 0xA0 ≤ low)
    (scalar : first = 0xED → high ≤ 0x9F)
    {bytes left : List UInt8}
    {c : Char}
    (read : readTails 2 low high (first - 0xE0) bytes = (some c, left)) :
    UInt8.ofNat first :: bytes = String.utf8EncodeChar c ++ left := by
  obtain ⟨second, rest, rfl, leastSecond, mostSecond, read⟩ :=
    exists_of_readTails_succ read
  obtain ⟨third, rest, rfl, leastThird, mostThird, read⟩ :=
    exists_of_readTails_succ read
  rw [readTails, Prod.mk.injEq, Option.some.injEq] at read
  obtain ⟨rfl, rfl⟩ := read
  generalize isCode : ((first - 0xE0) * 64 + (second - 0x80)) * 64 +
    (third - 0x80) = code
  have valid : code.isValidChar := by
    unfold Nat.isValidChar
    omega
  have lead : code / 4096 % 16 + 224 = first := by omega
  have middle : code / 64 % 64 + 128 = second := by omega
  have tail : code % 64 + 128 = third := by omega
  rw [utf8EncodeChar_ofNat valid, if_neg (by omega), if_neg (by omega),
    if_pos (by omega), lead, middle, tail]
  rfl

/-- And behind the first of four bytes; no character is beyond the last one. -/
theorem eq_append_of_four
    {first low high : Nat}
    (isLead : 0xF0 ≤ first ∧ first ≤ 0xF4)
    (within : 0x80 ≤ low ∧ high ≤ 0xBF)
    (long : first = 0xF0 → 0x90 ≤ low)
    (scalar : first = 0xF4 → high ≤ 0x8F)
    {bytes left : List UInt8}
    {c : Char}
    (read : readTails 3 low high (first - 0xF0) bytes = (some c, left)) :
    UInt8.ofNat first :: bytes = String.utf8EncodeChar c ++ left := by
  obtain ⟨second, rest, rfl, leastSecond, mostSecond, read⟩ :=
    exists_of_readTails_succ read
  obtain ⟨third, rest, rfl, leastThird, mostThird, read⟩ :=
    exists_of_readTails_succ read
  obtain ⟨fourth, rest, rfl, leastFourth, mostFourth, read⟩ :=
    exists_of_readTails_succ read
  rw [readTails, Prod.mk.injEq, Option.some.injEq] at read
  obtain ⟨rfl, rfl⟩ := read
  generalize isCode :
      (((first - 0xF0) * 64 + (second - 0x80)) * 64 + (third - 0x80)) * 64 +
    (fourth - 0x80) = code
  have valid : code.isValidChar := .inr (by omega)
  have lead : code / 262144 % 8 + 240 = first := by omega
  have upper : code / 4096 % 64 + 128 = second := by omega
  have middle : code / 64 % 64 + 128 = third := by omega
  have tail : code % 64 + 128 = fourth := by omega
  rw [utf8EncodeChar_ofNat valid, if_neg (by omega), if_neg (by omega),
    if_neg (by omega), lead, upper, middle, tail]
  rfl

/-- What first bytes promise, by the number of bytes of the character. -/
theorem lead?_cases
    {first : UInt8}
    {lead : Lead}
    (promised : lead? first = some lead) :
    ((0xC2 ≤ first.toNat ∧ first.toNat ≤ 0xDF) ∧
      lead = ⟨1, 0x80, 0xBF, first.toNat - 0xC0⟩) ∨
    ((0xE0 ≤ first.toNat ∧ first.toNat ≤ 0xEF) ∧
      ∃ low high, lead = ⟨2, low, high, first.toNat - 0xE0⟩ ∧
        (0x80 ≤ low ∧ high ≤ 0xBF) ∧
        (first.toNat = 0xE0 → 0xA0 ≤ low) ∧
          (first.toNat = 0xED → high ≤ 0x9F)) ∨
    ((0xF0 ≤ first.toNat ∧ first.toNat ≤ 0xF4) ∧
      ∃ low high, lead = ⟨3, low, high, first.toNat - 0xF0⟩ ∧
        (0x80 ≤ low ∧ high ≤ 0xBF) ∧
        (first.toNat = 0xF0 → 0x90 ≤ low) ∧
          (first.toNat = 0xF4 → high ≤ 0x8F)) := by
  revert promised
  unfold lead?
  dsimp only
  repeat' split
  all_goals rintro ⟨⟩
  · exact .inl ⟨by omega, rfl⟩
  · refine .inr (.inl ⟨by omega, 0xA0, 0xBF, ?_, by omega, by omega, by omega⟩)
    rw [Lead.mk.injEq]
    omega
  · refine .inr (.inl ⟨by omega, 0x80, 0x9F, ?_, by omega, by omega, by omega⟩)
    rw [Lead.mk.injEq]
    omega
  · exact .inr (.inl ⟨by omega, 0x80, 0xBF, rfl, by omega, by omega, by omega⟩)
  · refine .inr (.inr ⟨by omega, 0x90, 0xBF, ?_, by omega, by omega, by omega⟩)
    rw [Lead.mk.injEq]
    omega
  · exact .inr (.inr ⟨by omega, 0x80, 0xBF, rfl, by omega, by omega, by omega⟩)
  · refine .inr (.inr ⟨by omega, 0x80, 0x8F, ?_, by omega, by omega, by omega⟩)
    rw [Lead.mk.injEq]
    omega

/-- A unit that is a character was written as the bytes that it was read
from. -/
theorem eq_append_of_readUnit
    {first : UInt8}
    {bytes left : List UInt8}
    {c : Char}
    (read : readUnit first bytes = (some c, left)) :
    first :: bytes = String.utf8EncodeChar c ++ left := by
  have isFirst : UInt8.ofNat first.toNat = first := UInt8.ofNat_toNat
  unfold readUnit at read
  split at read
  · rename_i ascii
    have valid : first.toNat.isValidChar := .inl (by omega)
    rw [Prod.mk.injEq, Option.some.injEq] at read
    obtain ⟨rfl, rfl⟩ := read
    rw [utf8EncodeChar_ofNat valid, if_pos (by omega), isFirst,
      List.singleton_append]
  · split at read
    · cases read
    · rename_i lead promised
      rw [← isFirst]
      obtain ⟨isLead, rfl⟩ | ⟨isLead, low, high, rfl, within, long, scalar⟩ |
        ⟨isLead, low, high, rfl, within, long, scalar⟩ := lead?_cases promised
      · exact eq_append_of_two isLead read
      · exact eq_append_of_three isLead within long scalar read
      · exact eq_append_of_four isLead within long scalar read

/-- A text that was decoded is encoded as it was. -/
theorem encode_of_decode?
    {bytes : List UInt8}
    {text : List Char}
    (decoded : decode? bytes = some text) :
    encode text = bytes := by
  rw [decode?] at decoded
  induction bytes using units.induct generalizing text with
  | case1 =>
      rw [units] at decoded
      cases decoded
      rfl
  | case2 first rest inductionHypothesis =>
      rw [units, List.mapM_cons] at decoded
      obtain ⟨c, isUnit, decoded⟩ := Option.bind_eq_some_iff.mp decoded
      obtain ⟨others, decodedRest, decoded⟩ :=
        Option.bind_eq_some_iff.mp decoded
      cases decoded
      have read : readUnit first rest = (some c, (readUnit first rest).2) :=
        Prod.ext isUnit rfl
      rw [encode_cons, inductionHypothesis decodedRest]
      exact (eq_append_of_readUnit read).symm

/-! ## Bytes in front of an ASCII character -/

section Ascii

variable {right : List UInt8}

/-- No first byte promises an ASCII character as the second one. -/
theorem low_le_of_lead?
    {first : UInt8}
    {lead : Lead}
    (promised : lead? first = some lead) :
    0x80 ≤ lead.low := by
  obtain ⟨-, rfl⟩ | ⟨-, low, high, rfl, within, -⟩ |
      ⟨-, low, high, rfl, within, -⟩ :=
    lead?_cases promised
  · exact Nat.le_refl _
  · exact within.1
  · exact within.1

theorem readTails_append
    (ascii : ∀ byte, right.head? = some byte → byte.toNat < 0x80)
    {tails low high bits : Nat}
    (least : 0x80 ≤ low)
    (left : List UInt8) :
    readTails tails low high bits (left ++ right) =
      ((readTails tails low high bits left).1,
        (readTails tails low high bits left).2 ++ right) := by
  induction left generalizing tails low high bits with
  | nil =>
      cases tails with
      | zero => rfl
      | succ tails =>
          cases right with
          | nil => rfl
          | cons byte rest =>
              have isAscii := ascii byte rfl
              exact if_neg (by omega)
  | cons byte rest inductionHypothesis =>
      cases tails with
      | zero => rfl
      | succ tails =>
          rw [List.cons_append, readTails, readTails]
          split
          · exact inductionHypothesis (Nat.le_refl _)
          · rfl

theorem readUnit_append
    (ascii : ∀ byte, right.head? = some byte → byte.toNat < 0x80)
    (first : UInt8)
    (left : List UInt8) :
    readUnit first (left ++ right) =
      ((readUnit first left).1, (readUnit first left).2 ++ right) := by
  unfold readUnit
  split
  · rfl
  · split
    · rfl
    · rename_i lead promised
      exact readTails_append ascii (low_le_of_lead? promised) left

/-- The units in front of an ASCII character are those of the bytes in front of
it. -/
theorem units_append
    (ascii : ∀ byte, right.head? = some byte → byte.toNat < 0x80)
    (left : List UInt8) :
    units (left ++ right) = units left ++ units right := by
  induction left using units.induct with
  | case1 => rw [List.nil_append, units, List.nil_append]
  | case2 first rest inductionHypothesis =>
      rw [List.cons_append, units, units, readUnit_append ascii,
        inductionHypothesis, List.cons_append]

/-- A character is ASCII. -/
def IsAscii (c : Char) : Prop :=
  c.toNat < 0x80

instance : DecidablePred IsAscii :=
  fun _ => inferInstanceAs (Decidable (_ < _))

/-- Characters of ASCII with the same byte are the same. -/
theorem IsAscii.ofNat_inj
    {c other : Char}
    (ascii : IsAscii c)
    (asciiOther : IsAscii other) :
    UInt8.ofNat c.toNat = UInt8.ofNat other.toNat ↔ c = other := by
  constructor
  · intro same
    have codes := congrArg UInt8.toNat same
    rw [UInt8.toNat_ofNat_of_lt' (Nat.lt_trans ascii (by decide)),
      UInt8.toNat_ofNat_of_lt' (Nat.lt_trans asciiOther (by decide))] at codes
    rw [← Char.ofNat_toNat c, codes, Char.ofNat_toNat]
  · rintro rfl
    rfl

theorem encode_cons_of_isAscii
    {c : Char}
    (ascii : IsAscii c)
    (rest : List Char) :
    encode (c :: rest) = UInt8.ofNat c.toNat :: encode rest := by
  have short : c.val.toNat ≤ 127 := Nat.le_of_lt_succ ascii
  rw [encode, List.flatMap_cons, String.utf8EncodeChar]
  simp only [short, ite_true]
  rfl

theorem utf8EncodeChar_of_isAscii
    {c : Char}
    (ascii : IsAscii c) :
    String.utf8EncodeChar c = [UInt8.ofNat c.toNat] := by
  rw [← encode_singleton, encode_cons_of_isAscii ascii]
  rfl

/-- A text of ASCII takes a byte for each character. -/
theorem length_encode_of_isAscii
    {text : List Char}
    (ascii : ∀ c ∈ text, IsAscii c) :
    (encode text).length = text.length := by
  induction text with
  | nil => rfl
  | cons c rest inductionHypothesis =>
      obtain ⟨first, others⟩ := List.forall_mem_cons.mp ascii
      rw [encode_cons_of_isAscii first, List.length_cons,
        inductionHypothesis others, List.length_cons]

theorem two_le_length_utf8EncodeChar
    {c : Char}
    (notAscii : ¬ IsAscii c) :
    2 ≤ (String.utf8EncodeChar c).length := by
  have least : 0x80 ≤ c.val.toNat := Nat.le_of_not_lt notAscii
  simp only [String.utf8EncodeChar]
  rw [if_neg (by omega)]
  repeat' split
  all_goals simp

/-- All bytes of a character that is not ASCII have the high bit. -/
theorem le_of_mem_utf8EncodeChar
    {c : Char}
    (notAscii : ¬ IsAscii c) :
    ∀ byte ∈ String.utf8EncodeChar c, 0x80 ≤ byte.toNat := by
  have least : 0x80 ≤ c.val.toNat := Nat.le_of_not_lt notAscii
  have bound := c.val.toNat_lt
  simp only [String.utf8EncodeChar]
  rw [if_neg (by omega)]
  repeat' split
  all_goals
    simp
    omega

/-- A text that begins with ASCII does not begin like one that begins beyond
it. -/
theorem not_encode_cons_prefix
    {c other : Char}
    (ascii : IsAscii c)
    (beyond : ¬ IsAscii other)
    (left right : List Char) :
    ¬ encode (c :: left) <+: encode (other :: right) := by
  have wide := two_le_length_utf8EncodeChar beyond
  obtain ⟨byte, bytes, split⟩ :=
    List.exists_cons_of_length_pos
      (show 0 < (String.utf8EncodeChar other).length by omega)
  have large :=
    le_of_mem_utf8EncodeChar beyond byte (by
      rw [split]; exact List.mem_cons_self)
  rw [encode_cons_of_isAscii ascii, encode_cons, split, List.cons_append,
    List.cons_prefix_cons]
  rintro ⟨rfl, -⟩
  rw [UInt8.toNat_ofNat_of_lt' (Nat.lt_trans ascii (by decide))] at large
  exact absurd ascii (Nat.not_lt.mpr large)

/-- An ASCII character stands in a text if its byte stands among the bytes. -/
theorem mem_of_mem_encode
    {mark : Char}
    (ascii : IsAscii mark)
    {text : List Char}
    (isByte : UInt8.ofNat mark.toNat ∈ encode text) :
    mark ∈ text := by
  obtain ⟨c, isChar, inChar⟩ := List.mem_flatMap.mp isByte
  by_cases asciiChar : IsAscii c
  · rw [utf8EncodeChar_of_isAscii asciiChar, List.mem_singleton,
      ascii.ofNat_inj asciiChar] at inChar
    rw [inChar]
    exact isChar
  · have large := le_of_mem_utf8EncodeChar asciiChar _ inChar
    rw [UInt8.toNat_ofNat_of_lt' (Nat.lt_trans ascii (by decide))] at large
    exact absurd ascii (Nat.not_lt.mpr large)

theorem units_append_encode
    {tail : List Char}
    (ascii : ∀ c, tail.head? = some c → IsAscii c)
    (left : List UInt8) :
    units (left ++ encode tail) = units left ++ tail.map some := by
  rw [units_append _ left, units_encode]
  intro byte isFirst
  cases tail with
  | nil => cases isFirst
  | cons c rest =>
      have isAscii := ascii c rfl
      rw [encode_cons_of_isAscii isAscii] at isFirst
      cases isFirst
      rw [UInt8.toNat_ofNat_of_lt' (Nat.lt_trans isAscii (by decide))]
      exact isAscii

/-- What is behind some bytes is decoded by itself. -/
theorem decode?_append_encode
    {tail : List Char}
    (ascii : ∀ c, tail.head? = some c → IsAscii c)
    (left : List UInt8) :
    decode? (left ++ encode tail) = (decode? left).map (· ++ tail) := by
  have whole : (tail.map some).mapM id = some tail := by
    rw [← units_encode]
    exact decode?_encode tail
  rw [decode?, units_append_encode ascii, List.mapM_append, whole, decode?]
  cases (units left).mapM id <;> rfl

theorem decodeLossy_append_encode
    {tail : List Char}
    (ascii : ∀ c, tail.head? = some c → IsAscii c)
    (left : List UInt8) :
    decodeLossy (left ++ encode tail) = decodeLossy left ++ tail := by
  rw [decodeLossy, units_append_encode ascii, List.map_append, List.map_map,
    decodeLossy]
  exact congrArg _ (List.map_id tail)

end Ascii

/-! ## Places between characters -/

/-- A character begins with a byte that no other one has in its middle. -/
theorem exists_utf8EncodeChar
    (c : Char) :
    ∃ first tails, String.utf8EncodeChar c = first :: tails ∧
      isBoundary (first :: tails) = true ∧
      ∀ byte ∈ tails, ∀ others, isBoundary (byte :: others) = false := by
  have bound := c.val.toNat_lt
  have code : c.toNat = c.val.toNat := rfl
  simp only [String.utf8EncodeChar, isBoundary]
  repeat' split
  all_goals
    refine ⟨_, _, rfl, ?_, ?_⟩
    all_goals
      simp
      try omega

/-- A place among the bytes of a text lies between two of its characters, or at
an end. -/
def FallsBetween (text : List Char) (place : Nat) : Prop :=
  ∃ front back, text = front ++ back ∧ (encode front).length = place

theorem fallsBetween_zero
    (text : List Char) :
    FallsBetween text 0 :=
  ⟨[], text, rfl, rfl⟩

theorem isBoundary_encode
    (text : List Char) :
    isBoundary (encode text) = true := by
  cases text with
  | nil => rfl
  | cons c rest =>
      obtain ⟨first, tails, bytes, begins, -⟩ := exists_utf8EncodeChar c
      rw [encode_cons, bytes]
      exact begins

theorem fallsBetween_cons_iff
    {c : Char}
    {rest : List Char}
    {place : Nat}
    (positive : place ≠ 0) :
    FallsBetween (c :: rest) place ↔
      (String.utf8EncodeChar c).length ≤ place ∧
        FallsBetween rest (place - (String.utf8EncodeChar c).length) := by
  constructor
  · rintro ⟨front, back, split, rfl⟩
    cases front with
    | nil => exact absurd rfl positive
    | cons other front =>
        cases split
        rw [encode_cons, List.length_append]
        exact ⟨Nat.le_add_right _ _, front, back, rfl,
          (Nat.add_sub_cancel_left _ _).symm⟩
  · rintro ⟨least, front, back, rfl, length⟩
    refine ⟨c :: front, back, rfl, ?_⟩
    rw [encode_cons, List.length_append, length]
    omega

/-- A text can be cut at the places between its characters. -/
theorem isBoundary_drop_encode_iff
    {text : List Char}
    {place : Nat}
    (within : place ≤ (encode text).length) :
    isBoundary ((encode text).drop place) = true ↔ FallsBetween text place := by
  induction text generalizing place with
  | nil =>
      obtain rfl := Nat.le_zero.mp within
      exact iff_of_true rfl (fallsBetween_zero [])
  | cons c rest inductionHypothesis =>
      by_cases atFront : place = 0
      · subst atFront
        exact iff_of_true (isBoundary_encode (c :: rest))
          (fallsBetween_zero (c :: rest))
      · rw [fallsBetween_cons_iff atFront]
        obtain ⟨first, tails, bytes, -, middle⟩ := exists_utf8EncodeChar c
        by_cases beyond : (String.utf8EncodeChar c).length ≤ place
        · rw [encode_cons, List.length_append] at within
          rw [and_iff_right beyond, ← inductionHypothesis (by omega),
            encode_cons, List.drop_append, List.drop_of_length_le beyond,
            List.nil_append]
        · refine iff_of_false ?_ (not_and.mpr fun absurdLength =>
            absurd absurdLength beyond)
          obtain ⟨distance, rfl⟩ := Nat.exists_eq_succ_of_ne_zero atFront
          rw [bytes, List.length_cons, Nat.not_le, Nat.succ_lt_succ_iff]
            at beyond
          rw [encode_cons, bytes, List.cons_append, List.drop_succ_cons,
            List.drop_append_of_le_length (Nat.le_of_lt beyond),
              List.drop_eq_getElem_cons beyond,
            List.cons_append, middle _ (List.getElem_mem beyond)]
          exact Bool.false_ne_true

end Utf8
end Text
end MailSearch
