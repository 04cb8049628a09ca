import Codemod.Text.Utf8

/-!
# Texts read back from their bytes

The bytes of a text are read back as that text. The reader stands between characters after the bytes of
a character as it did before them; the bounds that it puts on a second byte shut out longer encodings
of smaller characters and what is no character.
-/
namespace Codemod.Text.Utf8

/-- The bytes of an array in order. They are listed by a loop over their indices; the induction follows
it, over what was listed before. -/
theorem bytes_eq (bytes : ByteArray) : bytes.toList = bytes.data.toList := by
  have loop (index : Nat) (before : List UInt8) :
      ByteArray.toList.loop bytes index before = before.reverse ++ bytes.data.toList.drop index := by
    fun_induction ByteArray.toList.loop bytes index before with
    | case1 index before inside inductionHypothesis =>
      have next : bytes.data.toList.drop index =
          bytes.get! index :: bytes.data.toList.drop (index + 1) := by
        rw [List.drop_eq_getElem_cons (by simpa using inside)]
        simp [ByteArray.get!, inside]
      rw [inductionHypothesis, next, List.reverse_cons, List.append_assoc, List.singleton_append]
    | case2 index before outside =>
      have past : bytes.data.toList.length ≤ index := by simpa using outside
      rw [List.drop_of_length_le past, List.append_nil]
  simpa [ByteArray.toList] using loop 0 []

section Steps

variable {byte : UInt8} (rest : List UInt8)

/-- A byte below 128 is a character by itself. -/
theorem decode_single (small : byte.toNat < 0x80) :
    decodeFrom .idle (byte :: rest) = Char.ofNat byte.toNat :: decodeFrom .idle rest := by
  simp [decodeFrom, step, start, small]

/-- A byte that begins a sequence of two leaves one to come. -/
theorem decode_lead_two (low : 0xC2 ≤ byte.toNat) (high : byte.toNat ≤ 0xDF) :
    decodeFrom .idle (byte :: rest) =
      decodeFrom (.inside 0 0x80 0xBF (byte.toNat % 0x20)) rest := by
  have large : ¬byte.toNat < 0x80 := by omega
  simp [decodeFrom, step, start, large, low, high]

/-- A byte that begins a sequence of three leaves two to come, the first of them in the bounds that rule
out longer spellings than needed and surrogates. -/
theorem decode_lead_three (low : 0xE0 ≤ byte.toNat) (high : byte.toNat ≤ 0xEF) :
    decodeFrom .idle (byte :: rest) =
      decodeFrom (.inside 1 (if byte.toNat = 0xE0 then 0xA0 else 0x80)
        (if byte.toNat = 0xED then 0x9F else 0xBF) (byte.toNat % 0x10)) rest := by
  have large : ¬byte.toNat < 0x80 := by omega
  have beyond : ¬byte.toNat ≤ 0xDF := by omega
  simp [decodeFrom, step, start, large, beyond, low, high]

/-- A byte that begins a sequence of four leaves three to come, the first of them in the bounds that rule
out longer spellings than needed and codes past the last character. -/
theorem decode_lead_four (low : 0xF0 ≤ byte.toNat) (high : byte.toNat ≤ 0xF4) :
    decodeFrom .idle (byte :: rest) =
      decodeFrom (.inside 2 (if byte.toNat = 0xF0 then 0x90 else 0x80)
        (if byte.toNat = 0xF4 then 0x8F else 0xBF) (byte.toNat % 0x08)) rest := by
  have large : ¬byte.toNat < 0x80 := by omega
  have beyond : ¬byte.toNat ≤ 0xDF := by omega
  have further : ¬byte.toNat ≤ 0xEF := by omega
  simp [decodeFrom, step, start, large, beyond, further, low, high]

variable {low high : Nat} (code : Nat)

/-- The last byte of a sequence completes a character. -/
theorem decode_last (above : low ≤ byte.toNat) (below : byte.toNat ≤ high) :
    decodeFrom (.inside 0 low high code) (byte :: rest) =
      Char.ofNat (code * 0x40 + byte.toNat % 0x40) :: decodeFrom .idle rest := by
  simp [decodeFrom, step, above, below]

/-- Any other byte of a sequence adds six bits, and leaves one fewer to come, in the usual bounds. -/
theorem decode_more (more : Nat) (above : low ≤ byte.toNat) (below : byte.toNat ≤ high) :
    decodeFrom (.inside (more + 1) low high code) (byte :: rest) =
      decodeFrom (.inside more 0x80 0xBF (code * 0x40 + byte.toNat % 0x40)) rest := by
  simp [decodeFrom, step, above, below]

end Steps

/-- The bytes of a character are read as that character. The cases are the four ranges of characters, by
the number of bytes that they take; in each the digits of the code are put together again. -/
theorem decode_char (c : Char) (rest : List UInt8) :
    decodeFrom .idle (String.utf8EncodeChar c ++ rest) = c :: decodeFrom .idle rest := by
  have bounds : c.toNat < 0xD800 ∨ 0xDFFF < c.toNat ∧ c.toNat < 0x110000 := c.valid
  have byte (value : Nat) (small : value < 256) : (UInt8.ofNat value).toNat = value := by
    rw [UInt8.toNat_ofNat', Nat.mod_eq_of_lt small]
  have whole : c.val.toNat = c.toNat := rfl
  have itself {code : Nat} (same : code = c.toNat) : Char.ofNat code = c := by
    rw [same, Char.ofNat_toNat]
  unfold String.utf8EncodeChar
  rw [whole]
  generalize c.toNat = value at bounds itself
  by_cases one : value ≤ 0x7F
  · have lead := byte value (by omega)
    simp only [one, if_true, List.cons_append, List.nil_append]
    rw [decode_single rest (by omega), lead, itself rfl]
  · by_cases two : value ≤ 0x7FF
    · have lead := byte (value / 64 % 0x20 + 0xC0) (by omega)
      have last := byte (value % 0x40 + 0x80) (by omega)
      simp only [one, two, if_true, if_false, List.cons_append, List.nil_append]
      rw [decode_lead_two _ (by omega) (by omega), decode_last _ _ (by omega) (by omega), lead, last,
        itself (by omega)]
    · by_cases three : value ≤ 0xFFFF
      · have lead := byte (value / 4096 % 0x10 + 0xE0) (by omega)
        have second := byte (value / 64 % 0x40 + 0x80) (by omega)
        have last := byte (value % 0x40 + 0x80) (by omega)
        simp only [one, two, three, if_true, if_false, List.cons_append, List.nil_append]
        rw [decode_lead_three _ (by omega) (by omega),
          decode_more _ _ _ (by split <;> omega) (by split <;> omega),
          decode_last _ _ (by omega) (by omega), lead, second, last, itself (by omega)]
      · have lead := byte (value / 262144 % 0x08 + 0xF0) (by omega)
        have second := byte (value / 4096 % 0x40 + 0x80) (by omega)
        have third := byte (value / 64 % 0x40 + 0x80) (by omega)
        have last := byte (value % 0x40 + 0x80) (by omega)
        simp only [one, two, three, if_false, List.cons_append, List.nil_append]
        rw [decode_lead_four _ (by omega) (by omega),
          decode_more _ _ _ (by split <;> omega) (by split <;> omega),
          decode_more _ _ _ (by omega) (by omega),
          decode_last _ _ (by omega) (by omega), lead, second, third, last, itself (by omega)]

/-- The bytes of a text are read as that text. -/
theorem decode_encode (text : String) : decode text.toUTF8 = text := by
  have chars (list : List Char) :
      decodeFrom .idle (list.flatMap String.utf8EncodeChar) = list := by
    induction list with
    | nil => rfl
    | cons c rest inductionHypothesis =>
      rw [List.flatMap_cons, decode_char, inductionHypothesis]
  rw [decode, bytes_eq, String.toUTF8_eq_toByteArray, ← String.utf8Encode_toList, List.utf8Encode,
    List.toList_data_toByteArray, chars, String.ofList_toList]

end Codemod.Text.Utf8
