import PartialUpdate.Syntax.Literal

/-!
# String literals read back

A text, written as a string literal and read again, is the same text.
-/

namespace PartialUpdate
namespace Literal

/-!
# Escapes by number
-/

theorem hexValue?_digitChar {digit : Nat} (h : digit < 16) :
    hexValue? digit.digitChar = some digit := by
  have hall : forall digit : Fin 16, hexValue? digit.val.digitChar = some digit.val := by decide
  exact hall ⟨digit, h⟩

theorem readCodeDigits_digit (value count : Nat) {digit : Nat} (rest : List Char)
    (hdigit : digit < 16) (hcount : count < 6) :
    readCodeDigits value count (digit.digitChar :: rest) =
      readCodeDigits (value * 16 + digit) (count + 1) rest := by
  rw [readCodeDigits, hexValue?_digitChar hdigit]
  simp only [hcount, if_true]

theorem readCodeDigits_toDigits (number value count : Nat) (rest : List Char)
    (h : count + (Nat.toDigits 16 number).length <= 6) :
    readCodeDigits value count (Nat.toDigits 16 number ++ rest) =
      readCodeDigits (value * Nat.pow 16 (Nat.toDigits 16 number).length + number)
        (count + (Nat.toDigits 16 number).length) rest := by
  induction number using Nat.strongRecOn generalizing rest with
  | _ number ih =>
      by_cases hlt : number < 16
      · rw [Nat.toDigits_of_lt_base hlt] at h ⊢
        have hcount : count < 6 := by
          simp only [List.length_singleton] at h
          omega
        simpa using readCodeDigits_digit value count rest hlt hcount
      · have hsplit :
            Nat.toDigits 16 number =
              Nat.toDigits 16 (number / 16) ++ [(number % 16).digitChar] :=
          Nat.toDigits_of_base_le (by decide) (by omega)
        rw [hsplit, List.length_append, List.length_singleton] at h ⊢
        rw [List.append_assoc, ih (number / 16) (by omega) _ (by omega), List.singleton_append,
          readCodeDigits_digit _ _ rest (Nat.mod_lt _ (by decide)) (by omega)]
        have hpow (count : Nat) : Nat.pow 16 (count + 1) = Nat.pow 16 count * 16 := rfl
        congr 1
        rw [hpow, ← Nat.mul_assoc, Nat.add_mul]
        omega

theorem length_hexDigits (c : Char) : (Quoted.hexDigits c.toNat).length <= 6 := by
  have hvalid : c.toNat < 16 ^ 6 := by
    have hrange := c.valid
    simp only [UInt32.isValidChar, Nat.isValidChar] at hrange
    simp only [Char.toNat]
    omega
  exact (Nat.length_toDigits_le_iff (by decide) (by decide)).mpr hvalid

theorem readCode_hexDigits (c : Char) (rest : List Char) :
    readCode ('\x7b' :: (Quoted.hexDigits c.toNat ++ '\x7d' :: rest)) = some (c, rest) := by
  have hlength := length_hexDigits c
  have hpos : (Nat.toDigits 16 c.toNat).length ≠ 0 := by
    simp [List.length_eq_zero_iff]
  have hdigits :
      readCodeDigits 0 0 (Quoted.hexDigits c.toNat ++ '\x7d' :: rest) = some (c.toNat, rest) := by
    have hclosing : hexValue? '\x7d' = none := by decide
    unfold Quoted.hexDigits at hlength ⊢
    rw [readCodeDigits_toDigits _ _ _ _ (by omega), readCodeDigits, hclosing]
    simp [hpos]
  have hchar : charOf? c.toNat = some c := by
    have hvalid : c.toNat.isValidChar := c.valid
    simp [charOf?, hvalid, Char.ofNat_toNat]
  simp [readCode, skipIf, hdigits, hchar]

/-!
# Quoted texts
-/

theorem readEscape_invisible (c : Char) (rest : List Char) :
    readEscape .text ('u' :: '\x7b' :: (Quoted.hexDigits c.toNat ++ '\x7d' :: rest)) =
      some (c, rest) := by
  simp [readEscape, readCode_hexDigits, Charset.admits]

theorem readQuoted_backslash (fuel : Nat) {c value : Char} {after behind : List Char}
    (hc : c ≠ '\n' ∧ c ≠ '\r') (h : readEscape .text (c :: after) = some (value, behind)) :
    readQuoted .text (fuel + 1) ('\\' :: c :: after) = readQuoted.next .text fuel value behind := by
  rw [readQuoted]
  · simp [h]
  · simp [hc.1]
  · simp [hc.2]

theorem readQuoted_escape (fuel : Nat) (c : Char) (rest : List Char) :
    readQuoted .text (fuel + 1) (Quoted.escape c ++ rest) =
      readQuoted.next .text fuel c rest := by
  unfold Quoted.escape
  split
  · exact readQuoted_backslash fuel (by decide) rfl
  · exact readQuoted_backslash fuel (by decide) rfl
  · exact readQuoted_backslash fuel (by decide) rfl
  · exact readQuoted_backslash fuel (by decide) rfl
  · exact readQuoted_backslash fuel (by decide) rfl
  · exact readQuoted_backslash fuel (by decide) rfl
  · rename_i hzero htab hreturn hline hslash hquote
    by_cases hshape : CharSet.invisible.contains c
    · have hwritten :
          "\\u\x7b".toList ++ Quoted.hexDigits c.toNat ++ ['\x7d'] ++ rest =
            '\\' :: 'u' :: '\x7b' :: (Quoted.hexDigits c.toNat ++ '\x7d' :: rest) := by
        have hopening : "\\u\x7b".toList = ['\\', 'u', '\x7b'] := by decide
        simp [hopening]
      rw [if_pos hshape, hwritten]
      exact readQuoted_backslash fuel (by decide) (readEscape_invisible c rest)
    · rw [if_neg hshape, List.singleton_append]
      have hadmits : Charset.text.admits c = true := rfl
      unfold readQuoted
      split <;> simp_all

theorem readQuoted_zero (fuel : Nat) (rest : List Char) :
    readQuoted .text (fuel + 1) ('\\' :: 'x' :: '0' :: '0' :: rest) =
      readQuoted.next .text fuel '\x00' rest :=
  readQuoted_backslash fuel (by decide) rfl

theorem readQuoted_escapeLiteral (chars rest : List Char) {fuel : Nat}
    (h : chars.length < fuel) :
    readQuoted .text fuel (Quoted.escapeLiteral chars ++ '"' :: rest) = some (chars, rest) := by
  induction chars generalizing fuel with
  | nil =>
      cases fuel with
      | zero => exact absurd h (Nat.not_lt_zero _)
      | succ fuel => simp [Quoted.escapeLiteral, readQuoted]
  | cons c more ih =>
      cases fuel with
      | zero => exact absurd h (Nat.not_lt_zero _)
      | succ fuel =>
          have hmore := ih (Nat.lt_of_succ_lt_succ h)
          have hnext :
              readQuoted.next .text fuel c (Quoted.escapeLiteral more ++ '"' :: rest) =
                some (c :: more, rest) := by
            simp [readQuoted.next, hmore]
          unfold Quoted.escapeLiteral
          rw [List.append_assoc]
          split
          · rename_i hoctal
            have hc : c = '\x00' := by
              simp only [Bool.and_eq_true, beq_iff_eq] at hoctal
              exact hoctal.1
            subst hc
            exact (readQuoted_zero fuel _).trans hnext
          · rw [readQuoted_escape, hnext]

theorem length_le_escapeLiteral (chars : List Char) :
    chars.length <= (Quoted.escapeLiteral chars).length := by
  have hescape : forall c : Char, 1 <= (Quoted.escape c).length := by
    intro c
    unfold Quoted.escape
    split <;> simp
    split <;> simp
  induction chars with
  | nil => simp
  | cons c more ih =>
      unfold Quoted.escapeLiteral
      split
      · simp
        omega
      · have hc := hescape c
        simp
        omega

/-- A text is what its literal stands for. -/
theorem stringValue_literal (text : String) : stringValue (Quoted.literal text) = text := by
  have hlist :
      (Quoted.literal text).toList =
        '"' :: (Quoted.escapeLiteral text.toList ++ ['"']) := by
    simp [Quoted.literal]
  have hlength := length_le_escapeLiteral text.toList
  have hread :
      quoted .text (Quoted.escapeLiteral text.toList ++ ['"']) = some (text.toList, []) := by
    apply readQuoted_escapeLiteral
    simp
    omega
  simp [stringValue, hlist, hread, stringValue.content]

end Literal
end PartialUpdate
