import AngularLint.Text.Utf8
import Mathlib.Data.List.TakeWhile

/-! Reading back the UTF-8 form of a text. A character is written as one byte, or as a start byte
and one to three more. The start byte tells the reader how many follow, and the second byte lies in
the range that the start byte allows, because a character is written in its shortest form and is no
surrogate. -/

namespace AngularLint.Proofs.Utf8RoundTrip
open AngularLint.Text

private theorem toList_loop (bytes : ByteArray) (index : Nat) (done : List UInt8) :
    ByteArray.toList.loop bytes index done = done.reverse ++ bytes.data.toList.drop index := by
  fun_induction ByteArray.toList.loop bytes index done with
  | case1 index done inside ih =>
    have next : bytes.data.toList.drop index =
        bytes.get! index :: bytes.data.toList.drop (index + 1) := by
      rw [List.drop_eq_getElem_cons (by simpa using inside), Array.getElem_toList]
      exact congrArg (· :: _) (getElem!_pos bytes.data index inside).symm
    rw [ih, next, List.reverse_cons, List.append_assoc, List.singleton_append]
  | case2 index done outside =>
    have past : bytes.data.toList.length ≤ index := Nat.le_of_not_lt outside
    rw [List.drop_eq_nil_of_le past, List.append_nil]

theorem toUTF8_toList (text : String) :
    text.toUTF8.toList = text.toList.flatMap String.utf8EncodeChar := by
  rw [String.toUTF8_eq_toByteArray, ← String.utf8Encode_toList, ByteArray.toList, toList_loop,
    List.utf8Encode, List.toList_data_toByteArray]
  rfl

theorem decodeFrom_skip (position : Nat) (skipped rest : List UInt8) (decoded : List Char) :
    decodeFrom position skipped.length (skipped ++ rest) decoded =
      decodeFrom (position + skipped.length) 0 rest decoded := by
  induction skipped generalizing position with
  | nil => rfl
  | cons byte others ih =>
    rw [List.length_cons, List.cons_append, decodeFrom, ih, Nat.add_assoc, Nat.add_comm 1]

/-- The number that a start byte and the bytes behind it stand for. -/
def codeOf (first : UInt8) (others : List UInt8) : Nat :=
  others.foldl (fun code byte => code * 64 + byte.toNat % 64) (startBits first others.length)

theorem decodeFrom_sequence {first : UInt8} {others : List UInt8} {low high : UInt8} {c : Char}
    (multibyte : ¬ first < 0x80)
    (shape : sequenceShape? first = some (others.length, low, high))
    (continued : continuing others.length low high others = others.length)
    (code : codeOf first others = c.toNat)
    (position : Nat) (rest : List UInt8) (decoded : List Char) :
    decodeFrom position 0 (first :: (others ++ rest)) decoded =
      decodeFrom (position + 1 + others.length) 0 rest (c :: decoded) := by
  have taken : (others ++ rest).take others.length = others := List.take_left
  have found : continuing others.length low high (others ++ rest) =
      continuing others.length low high others := by
    simp only [continuing, taken, List.take_length]
  rw [decodeFrom, if_neg multibyte]
  simp only [shape, found.trans continued, beq_self_eq_true, if_true, taken]
  rw [← decodeFrom_skip, ← Char.ofNat_toNat c, ← code]
  rfl

theorem continuing_eq_length {low high second : UInt8} {others : List UInt8} (above : low ≤ second)
    (below : second ≤ high) (follow : ∀ byte ∈ others, isContinuation byte = true) :
    continuing (second :: others).length low high (second :: others) =
      (second :: others).length := by
  have all : others.takeWhile isContinuation = others := List.takeWhile_eq_self_iff.mpr follow
  rw [continuing, List.take_length]
  simp only [above, below, decide_true, Bool.and_self, if_true, all, List.length_cons]
  exact Nat.add_comm 1 others.length

private theorem shape_of_two :
    ∀ n < 0xE0, 0xC2 ≤ n → sequenceShape? (UInt8.ofNat n) =
      some (1, UInt8.ofNat 0x80, UInt8.ofNat 0xBF) := by
  decide +kernel

private theorem shape_of_three :
    ∀ n < 0xF0, 0xE0 ≤ n → sequenceShape? (UInt8.ofNat n) =
      some (2, UInt8.ofNat (if n = 0xE0 then 0xA0 else 0x80),
        UInt8.ofNat (if n = 0xED then 0x9F else 0xBF)) := by
  decide +kernel

private theorem shape_of_four :
    ∀ n < 0xF5, 0xF0 ≤ n → sequenceShape? (UInt8.ofNat n) =
      some (3, UInt8.ofNat (if n = 0xF0 then 0x90 else 0x80),
        UInt8.ofNat (if n = 0xF4 then 0x8F else 0xBF)) := by
  decide +kernel

/-- The byte for the last six bits of a number, behind a start byte. -/
def follower (n : Nat) : UInt8 :=
  UInt8.ofNat (n % 0x40 + 0x80)

theorem encodeChar_eq (c : Char) :
    String.utf8EncodeChar c =
      if c.toNat ≤ 0x7f then [UInt8.ofNat c.toNat]
      else if c.toNat ≤ 0x7ff then
        [UInt8.ofNat (c.toNat / 64 % 0x20 + 0xc0), follower c.toNat]
      else if c.toNat ≤ 0xffff then
        [UInt8.ofNat (c.toNat / 4096 % 0x10 + 0xe0), follower (c.toNat / 64), follower c.toNat]
      else
        [UInt8.ofNat (c.toNat / 262144 % 0x08 + 0xf0), follower (c.toNat / 4096),
          follower (c.toNat / 64), follower c.toNat] :=
  rfl

theorem toNat_follower (n : Nat) : (follower n).toNat = n % 64 + 128 := by
  rw [follower, UInt8.toNat_ofNat']
  omega

theorem le_follower {low n : Nat} (above : low ≤ n % 64 + 128) : UInt8.ofNat low ≤ follower n := by
  rw [UInt8.le_iff_toNat_le, toNat_follower, UInt8.toNat_ofNat']
  exact Nat.le_trans (Nat.mod_le _ _) above

theorem follower_le {high n : Nat} (below : n % 64 + 128 ≤ high) (small : high < 256) :
    follower n ≤ UInt8.ofNat high := by
  rw [UInt8.le_iff_toNat_le, toNat_follower, UInt8.toNat_ofNat']
  omega

theorem isContinuation_follower (n : Nat) : isContinuation (follower n) = true := by
  have value := toNat_follower n
  simp only [isContinuation, Bool.and_eq_true, decide_eq_true_eq, UInt8.le_iff_toNat_le,
    UInt8.lt_iff_toNat_lt, value, UInt8.reduceToNat]
  omega

private theorem multibyte_ofNat {n : Nat} (large : 0x80 ≤ n) (small : n < 0x100) :
    ¬ UInt8.ofNat n < 0x80 := by
  rw [UInt8.lt_iff_toNat_lt, UInt8.toNat_ofNat']
  change ¬ n % 256 < 128
  omega

private theorem startBits_ofNat {n count : Nat} (small : n < 0x100) :
    startBits (UInt8.ofNat n) count = n % Nat.pow 2 (6 - count) := by
  rw [startBits, UInt8.toNat_ofNat', Nat.mod_eq_of_lt small]

private theorem decode_two (c : Char) (long : 0x7f < c.toNat) (short : c.toNat ≤ 0x7ff)
    (position : Nat) (rest : List UInt8) (decoded : List Char) :
    decodeFrom position 0
        ([UInt8.ofNat (c.toNat / 64 % 0x20 + 0xc0), follower c.toNat] ++ rest) decoded =
      decodeFrom (position + 2) 0 rest (c :: decoded) := by
  have shape := shape_of_two (c.toNat / 64 % 0x20 + 0xc0) (by omega) (by omega)
  refine decodeFrom_sequence (multibyte_ofNat (by omega) (by omega)) shape ?_ ?_ position rest
    decoded
  · apply continuing_eq_length
    · exact le_follower (by omega)
    · exact follower_le (by omega) (by omega)
    · simp
  · simp only [codeOf, List.foldl_cons, List.foldl_nil, List.length_singleton, toNat_follower,
      startBits_ofNat (show c.toNat / 64 % 0x20 + 0xc0 < 0x100 by omega)]
    change (c.toNat / 64 % 32 + 192) % 32 * 64 + (c.toNat % 64 + 128) % 64 = c.toNat
    omega

private theorem decode_three (c : Char) (long : 0x7ff < c.toNat) (short : c.toNat ≤ 0xffff)
    (position : Nat) (rest : List UInt8) (decoded : List Char) :
    decodeFrom position 0
        ([UInt8.ofNat (c.toNat / 4096 % 0x10 + 0xe0), follower (c.toNat / 64), follower c.toNat] ++
          rest) decoded =
      decodeFrom (position + 3) 0 rest (c :: decoded) := by
  have valid : c.toNat < 0xD800 ∨ 0xDFFF < c.toNat ∧ c.toNat < 0x110000 := c.valid
  have shape := shape_of_three (c.toNat / 4096 % 0x10 + 0xe0) (by omega) (by omega)
  refine decodeFrom_sequence (multibyte_ofNat (by omega) (by omega)) shape ?_ ?_ position rest
    decoded
  · apply continuing_eq_length
    · exact le_follower (by split <;> omega)
    · exact follower_le (by split <;> omega) (by split <;> omega)
    · simp [isContinuation_follower]
  · simp only [codeOf, List.foldl_cons, List.foldl_nil, List.length_cons, List.length_nil,
      toNat_follower, startBits_ofNat (show c.toNat / 4096 % 0x10 + 0xe0 < 0x100 by omega)]
    change ((c.toNat / 4096 % 16 + 224) % 16 * 64 + (c.toNat / 64 % 64 + 128) % 64) * 64 +
      (c.toNat % 64 + 128) % 64 = c.toNat
    omega

private theorem decode_four (c : Char) (long : 0xffff < c.toNat)
    (position : Nat) (rest : List UInt8) (decoded : List Char) :
    decodeFrom position 0
        ([UInt8.ofNat (c.toNat / 262144 % 0x08 + 0xf0), follower (c.toNat / 4096),
          follower (c.toNat / 64), follower c.toNat] ++ rest) decoded =
      decodeFrom (position + 4) 0 rest (c :: decoded) := by
  have valid : c.toNat < 0xD800 ∨ 0xDFFF < c.toNat ∧ c.toNat < 0x110000 := c.valid
  have shape := shape_of_four (c.toNat / 262144 % 0x08 + 0xf0) (by omega) (by omega)
  refine decodeFrom_sequence (multibyte_ofNat (by omega) (by omega)) shape ?_ ?_ position rest
    decoded
  · apply continuing_eq_length
    · exact le_follower (by split <;> omega)
    · exact follower_le (by split <;> omega) (by split <;> omega)
    · simp [isContinuation_follower]
  · simp only [codeOf, List.foldl_cons, List.foldl_nil, List.length_cons, List.length_nil,
      toNat_follower, startBits_ofNat (show c.toNat / 262144 % 0x08 + 0xf0 < 0x100 by omega)]
    change (((c.toNat / 262144 % 8 + 240) % 8 * 64 + (c.toNat / 4096 % 64 + 128) % 64) * 64 +
      (c.toNat / 64 % 64 + 128) % 64) * 64 + (c.toNat % 64 + 128) % 64 = c.toNat
    omega

/-- The bytes of a character in front of others are read as that character. -/
theorem decodeFrom_encodeChar (c : Char) (position : Nat) (rest : List UInt8)
    (decoded : List Char) :
    ∃ next, decodeFrom position 0 (String.utf8EncodeChar c ++ rest) decoded =
      decodeFrom next 0 rest (c :: decoded) := by
  rw [encodeChar_eq]
  split
  next short =>
    have first : (UInt8.ofNat c.toNat).toNat = c.toNat := by
      rw [UInt8.toNat_ofNat']
      omega
    have ascii : UInt8.ofNat c.toNat < 0x80 := by
      rw [UInt8.lt_iff_toNat_lt, first]
      exact Nat.lt_succ_of_le short
    refine ⟨position + 1, ?_⟩
    change decodeFrom position 0 (UInt8.ofNat c.toNat :: rest) decoded = _
    rw [decodeFrom, if_pos ascii, first, Char.ofNat_toNat]
  next beyondOne =>
    split
    next two => exact ⟨_, decode_two c (by omega) two position rest decoded⟩
    next beyondTwo =>
      split
      next three => exact ⟨_, decode_three c (by omega) three position rest decoded⟩
      next beyondThree => exact ⟨_, decode_four c (by omega) position rest decoded⟩

theorem decodeFrom_encoded (text : List Char) (position : Nat) (decoded : List Char) :
    decodeFrom position 0 (text.flatMap String.utf8EncodeChar) decoded =
      .ok (decoded.reverse ++ text) := by
  induction text generalizing position decoded with
  | nil => simp [decodeFrom]
  | cons c rest ih =>
    obtain ⟨next, read⟩ :=
      decodeFrom_encodeChar c position (rest.flatMap String.utf8EncodeChar) decoded
    rw [List.flatMap_cons, read, ih, List.reverse_cons, List.append_assoc, List.singleton_append]

/-- Every text is read back from its UTF-8 form. -/
theorem decodeUtf8_toUTF8 (text : String) : decodeUtf8 text.toUTF8.toList = .ok text := by
  rw [toUTF8_toList, decodeUtf8, decodeFrom_encoded, List.reverse_nil, List.nil_append, Except.map,
    String.ofList_toList]

end AngularLint.Proofs.Utf8RoundTrip
