import AngularLint.Proofs.Outcomes
import AngularLint.Proofs.Utf8RoundTrip

/-! Bytes that are read as a text are the UTF-8 form of it. A start byte tells how many bytes follow,
and the range of the second byte leaves out the longer forms and the surrogates; so the character
that is read is written with the same bytes. -/

namespace AngularLint.Proofs.Utf8Decoding
open AngularLint.Text Outcomes Utf8RoundTrip

theorem toNat_ofNat_of_valid {code : Nat} (valid : code.isValidChar) :
    (Char.ofNat code).toNat = code := by
  rw [Char.ofNat, dif_pos valid]
  rfl

theorem ofNat_eq {n : Nat} {byte : UInt8} (same : n = byte.toNat) : UInt8.ofNat n = byte := by
  rw [same, UInt8.ofNat_toNat]

theorem follower_eq {n : Nat} {byte : UInt8} (same : n % 64 + 128 = byte.toNat) :
    follower n = byte :=
  UInt8.toNat.inj ((toNat_follower n).trans same)

theorem toNat_of_isContinuation {byte : UInt8} (continues : isContinuation byte = true) :
    0x80 ≤ byte.toNat ∧ byte.toNat < 0xC0 := by
  simpa only [isContinuation, Bool.and_eq_true, decide_eq_true_eq, UInt8.le_iff_toNat_le,
    UInt8.lt_iff_toNat_lt, UInt8.reduceToNat] using continues

private theorem shape_ranges :
    ∀ n < 0x100, ∀ shape ∈ sequenceShape? (UInt8.ofNat n),
      (shape.1 = 1 ∧ 0xC2 ≤ n ∧ n < 0xE0 ∧ shape.2.1.toNat = 0x80 ∧ shape.2.2.toNat = 0xBF) ∨
      (shape.1 = 2 ∧ 0xE0 ≤ n ∧ n < 0xF0 ∧ shape.2.1.toNat = (if n = 0xE0 then 0xA0 else 0x80) ∧
        shape.2.2.toNat = if n = 0xED then 0x9F else 0xBF) ∨
      (shape.1 = 3 ∧ 0xF0 ≤ n ∧ n < 0xF5 ∧ shape.2.1.toNat = (if n = 0xF0 then 0x90 else 0x80) ∧
        shape.2.2.toNat = if n = 0xF4 then 0x8F else 0xBF) := by
  decide +kernel

private theorem encode_two {first second : UInt8} (start : 0xC2 ≤ first.toNat ∧ first.toNat < 0xE0)
    (above : 0x80 ≤ second.toNat) (below : second.toNat ≤ 0xBF) :
    String.utf8EncodeChar (Char.ofNat (codeOf first [second])) = [first, second] := by
  have code : codeOf first [second] = first.toNat % 32 * 64 + second.toNat % 64 := rfl
  generalize codeOf first [second] = n at code
  have value : (Char.ofNat n).toNat = n := toNat_ofNat_of_valid (.inl (by omega))
  rw [encodeChar_eq, value, if_neg (by omega), if_pos (by omega),
    ofNat_eq (show n / 64 % 0x20 + 0xc0 = first.toNat by omega),
    follower_eq (show n % 64 + 128 = second.toNat by omega)]

private theorem encode_three {first second third : UInt8}
    (start : 0xE0 ≤ first.toNat ∧ first.toNat < 0xF0)
    (above : (if first.toNat = 0xE0 then 0xA0 else 0x80) ≤ second.toNat)
    (below : second.toNat ≤ if first.toNat = 0xED then 0x9F else 0xBF)
    (last : 0x80 ≤ third.toNat ∧ third.toNat < 0xC0) :
    String.utf8EncodeChar (Char.ofNat (codeOf first [second, third])) =
      [first, second, third] := by
  have code : codeOf first [second, third] =
    (first.toNat % 16 * 64 + second.toNat % 64) * 64 + third.toNat % 64 := rfl
  generalize codeOf first [second, third] = n at code
  have secondBounds : 0x80 ≤ second.toNat ∧ second.toNat < 0xC0 := by
    split at above <;> split at below <;> omega
  have shortest : 0x7ff < n := by
    split at above <;> omega
  have valid : n.isValidChar := by
    split at below
    · exact .inl (by omega)
    · rcases Nat.lt_or_ge n 0xD800 with low | high
      · exact .inl low
      · exact .inr ⟨by omega, by omega⟩
  have value : (Char.ofNat n).toNat = n := toNat_ofNat_of_valid valid
  rw [encodeChar_eq, value, if_neg (by omega), if_neg (by omega), if_pos (by omega),
    ofNat_eq (show n / 4096 % 0x10 + 0xe0 = first.toNat by omega),
    follower_eq (show n / 64 % 64 + 128 = second.toNat by omega),
    follower_eq (show n % 64 + 128 = third.toNat by omega)]

private theorem encode_four {first second third fourth : UInt8}
    (start : 0xF0 ≤ first.toNat ∧ first.toNat < 0xF5)
    (above : (if first.toNat = 0xF0 then 0x90 else 0x80) ≤ second.toNat)
    (below : second.toNat ≤ if first.toNat = 0xF4 then 0x8F else 0xBF)
    (next : 0x80 ≤ third.toNat ∧ third.toNat < 0xC0)
    (last : 0x80 ≤ fourth.toNat ∧ fourth.toNat < 0xC0) :
    String.utf8EncodeChar (Char.ofNat (codeOf first [second, third, fourth])) =
      [first, second, third, fourth] := by
  have code : codeOf first [second, third, fourth] =
    ((first.toNat % 8 * 64 + second.toNat % 64) * 64 + third.toNat % 64) * 64 +
      fourth.toNat % 64 := rfl
  generalize codeOf first [second, third, fourth] = n at code
  have secondBounds : 0x80 ≤ second.toNat ∧ second.toNat < 0xC0 := by
    split at above <;> split at below <;> omega
  have shortest : 0xffff < n := by
    split at above <;> omega
  have small : n < 0x110000 := by
    split at below <;> omega
  have value : (Char.ofNat n).toNat = n := toNat_ofNat_of_valid (.inr ⟨by omega, small⟩)
  rw [encodeChar_eq, value, if_neg (by omega), if_neg (by omega), if_neg (by omega),
    ofNat_eq (show n / 262144 % 0x08 + 0xf0 = first.toNat by omega),
    follower_eq (show n / 4096 % 64 + 128 = second.toNat by omega),
    follower_eq (show n / 64 % 64 + 128 = third.toNat by omega),
    follower_eq (show n % 64 + 128 = fourth.toNat by omega)]

theorem encodeChar_codeOf {first second : UInt8} {others : List UInt8} {low high : UInt8}
    (shape : sequenceShape? first = some (others.length + 1, low, high))
    (above : low ≤ second) (below : second ≤ high)
    (follow : ∀ byte ∈ others, isContinuation byte = true) :
    String.utf8EncodeChar (Char.ofNat (codeOf first (second :: others))) =
      first :: second :: others := by
  rw [UInt8.le_iff_toNat_le] at above below
  have asked : (others.length + 1, low, high) ∈ sequenceShape? (UInt8.ofNat first.toNat) := by
    rw [UInt8.ofNat_toNat]
    exact shape
  rcases shape_ranges first.toNat first.toNat_lt _ asked with ⟨count, least, most, lowest, highest⟩ |
    ⟨count, least, most, lowest, highest⟩ | ⟨count, least, most, lowest, highest⟩
  all_goals
    dsimp only at lowest highest
    rw [lowest] at above
    rw [highest] at below
  · match others, count with
    | [], _ => exact encode_two ⟨least, most⟩ above below
  · match others, count with
    | [third], _ =>
      exact encode_three ⟨least, most⟩ above below
        (toNat_of_isContinuation (follow third List.mem_cons_self))
  · match others, count with
    | [third, fourth], _ =>
      exact encode_four ⟨least, most⟩ above below
        (toNat_of_isContinuation (follow third (by simp)))
        (toNat_of_isContinuation (follow fourth (by simp)))

theorem sequenceShape?_pos {first : UInt8} {count : Nat} {low high : UInt8}
    (shape : sequenceShape? first = some (count, low, high)) : 0 < count := by
  have asked : (count, low, high) ∈ sequenceShape? (UInt8.ofNat first.toNat) := by
    rw [UInt8.ofNat_toNat]
    exact shape
  rcases shape_ranges first.toNat first.toNat_lt _ asked with
    ⟨same, _⟩ | ⟨same, _⟩ | ⟨same, _⟩ <;> omega

theorem continuing_inv {count : Nat} {low high : UInt8} {rest : List UInt8} (some : 0 < count)
    (continued : continuing count low high rest = count) :
    ∃ second others remaining, rest = second :: others ++ remaining ∧ count = others.length + 1 ∧
      low ≤ second ∧ second ≤ high ∧ ∀ byte ∈ others, isContinuation byte = true := by
  rw [continuing] at continued
  split at continued
  next => omega
  next second others taken =>
    split at continued
    next within =>
      have fewer := (List.takeWhile_prefix (l := others) isContinuation).length_le
      have most : others.length + 1 ≤ count := by
        rw [← List.length_cons, ← taken]
        exact List.length_take_le count rest
      have whole : others.takeWhile isContinuation = others :=
        (List.takeWhile_prefix isContinuation).eq_of_length (by omega)
      simp only [Bool.and_eq_true, decide_eq_true_eq] at within
      refine ⟨second, others, rest.drop count, ?_, by omega, within.1, within.2,
        List.takeWhile_eq_self_iff.mp whole⟩
      rw [← taken, List.take_append_drop]
    next => omega

/-- What is read first is a character, from just the bytes that it is written with. -/
theorem decodeFrom_cons {first : UInt8} {rest : List UInt8} {position : Nat}
    {decoded text : List Char} (read : decodeFrom position 0 (first :: rest) decoded = .ok text) :
    ∃ c remaining next, first :: rest = String.utf8EncodeChar c ++ remaining ∧
      decodeFrom next 0 remaining (c :: decoded) = .ok text := by
  rw [decodeFrom] at read
  split at read
  next ascii =>
    have small : first.toNat < 0x80 := UInt8.lt_iff_toNat_lt.mp ascii
    have value : (Char.ofNat first.toNat).toNat = first.toNat :=
      toNat_ofNat_of_valid (.inl (by omega))
    refine ⟨Char.ofNat first.toNat, rest, position + 1, ?_, read⟩
    rw [encodeChar_eq, value, if_pos (by omega), UInt8.ofNat_toNat, List.singleton_append]
  next =>
    split at read
    next => cases read
    next count low high shape =>
      dsimp only at read
      split at read
      next found =>
        obtain ⟨second, others, remaining, rfl, rfl, above, below, follow⟩ :=
          continuing_inv (sequenceShape?_pos shape) (beq_iff_eq.mp found)
        have size : others.length + 1 = (second :: others).length := rfl
        rw [size, List.take_left, decodeFrom_skip] at read
        refine ⟨_, remaining, _, ?_, read⟩
        exact congrArg (· ++ remaining) (encodeChar_codeOf shape above below follow).symm
      next =>
        split at read <;> cases read

theorem decodeFrom_ok {bytes : List UInt8} {position : Nat} {decoded text : List Char}
    (read : decodeFrom position 0 bytes decoded = .ok text) :
    ∃ later, text = decoded.reverse ++ later ∧ bytes = later.flatMap String.utf8EncodeChar := by
  -- A character takes up at least one byte, so the bytes get fewer.
  induction sized : bytes.length using Nat.strongRecOn generalizing bytes position decoded with
  | ind size ih =>
    cases bytes with
    | nil =>
      cases read
      exact ⟨[], (List.append_nil _).symm, rfl⟩
    | cons first rest =>
      obtain ⟨c, remaining, next, same, read⟩ := decodeFrom_cons read
      have fewer : remaining.length < size := by
        have whole := congrArg List.length same
        have wide := c.utf8Size_pos
        rw [List.length_append, String.length_utf8EncodeChar] at whole
        omega
      obtain ⟨later, rfl, written⟩ := ih remaining.length fewer read rfl
      refine ⟨c :: later, ?_, ?_⟩
      · rw [List.reverse_cons, List.append_assoc, List.singleton_append]
      · rw [same, List.flatMap_cons, written]

/-- Bytes that can be read are the UTF-8 form of what is read. -/
theorem toUTF8_of_decodeUtf8 {bytes : List UInt8} {text : String}
    (read : decodeUtf8 bytes = .ok text) : text.toUTF8.toList = bytes := by
  obtain ⟨characters, decoded, rfl⟩ := map_eq_ok_iff.mp read
  obtain ⟨later, rfl, written⟩ := decodeFrom_ok decoded
  rw [toUTF8_toList, String.toList_ofList, written]

end AngularLint.Proofs.Utf8Decoding
