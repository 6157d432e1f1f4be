import QueryBook.Files.Encoding

set_option autoImplicit false

namespace QueryBook

namespace Text.Utf8

section Sequences

variable {b b₂ b₃ b₄ : UInt8} (position : Nat) (rest : List UInt8)

theorem decodeFrom_one (size : sequenceLength b = 1) :
    decodeFrom position (b :: rest) =
      (Char.ofNat b.toNat :: ·) <$> decodeFrom (position + 1) rest := by
  rw [decodeFrom.eq_def]
  simp only [size]

theorem decodeFrom_two (size : sequenceLength b = 2) (second : isSecond b b₂ = true) :
    decodeFrom position (b :: b₂ :: rest) =
      (joinCode (b.toNat - 0xC0) [b₂] :: ·) <$> decodeFrom (position + 2) rest := by
  rw [decodeFrom.eq_def]
  simp only [size, second, if_true]

theorem decodeFrom_three (size : sequenceLength b = 3) (second : isSecond b b₂ = true)
    (third : isContinuation b₃ = true) :
    decodeFrom position (b :: b₂ :: b₃ :: rest) =
      (joinCode (b.toNat - 0xE0) [b₂, b₃] :: ·) <$> decodeFrom (position + 3) rest := by
  rw [decodeFrom.eq_def]
  simp only [size, second, third, if_true]

theorem decodeFrom_four (size : sequenceLength b = 4) (second : isSecond b b₂ = true)
    (third : isContinuation b₃ = true) (fourth : isContinuation b₄ = true) :
    decodeFrom position (b :: b₂ :: b₃ :: b₄ :: rest) =
      (joinCode (b.toNat - 0xF0) [b₂, b₃, b₄] :: ·) <$> decodeFrom (position + 4) rest := by
  rw [decodeFrom.eq_def]
  simp only [size, second, third, fourth, if_true]

end Sequences

theorem toNat_ofNat {n : Nat} (small : n < 256) : (UInt8.ofNat n).toNat = n := by
  rw [UInt8.toNat_ofNat', Nat.mod_eq_of_lt small]

theorem isContinuation_ofNat {n : Nat} (small : n < 64) :
    isContinuation (UInt8.ofNat (n + 128)) = true := by
  rw [isContinuation, toNat_ofNat (by omega), decide_eq_true (by omega), decide_eq_true (by omega)]
  rfl

theorem isSecond_ofNat {lead n : Nat} (byte : lead < 256) (small : n < 64)
    (long : lead = 0xE0 → 0x20 ≤ n) (surrogate : lead = 0xED → n < 0x20)
    (long' : lead = 0xF0 → 0x10 ≤ n) (last : lead = 0xF4 → n < 0x10) :
    isSecond (UInt8.ofNat lead) (UInt8.ofNat (n + 128)) = true := by
  have here := @toNat_ofNat (n + 128) (by omega)
  simp only [isSecond, isContinuation_ofNat small, toNat_ofNat byte, here, Bool.true_and]
  split
  next same => exact decide_eq_true (by have := long same; omega)
  next =>
    split
    next same => exact decide_eq_true (by have := surrogate same; omega)
    next =>
      split
      next same => exact decide_eq_true (by have := long' same; omega)
      next =>
        split
        next same => exact decide_eq_true (by have := last same; omega)
        next => rfl

theorem sequenceLength_ofNat {n : Nat} (small : n < 256) :
    sequenceLength (UInt8.ofNat n) =
      if n < 0x80 then 1 else if n < 0xC2 then 0 else if n < 0xE0 then 2
      else if n < 0xF0 then 3 else if n < 0xF5 then 4 else 0 := by
  simp only [sequenceLength, toNat_ofNat small]

theorem exists_decodeFrom (c : Char) (rest : List UInt8) (position : Nat) :
    ∃ later, decodeFrom position (String.utf8EncodeChar c ++ rest) =
      (c :: ·) <$> decodeFrom later rest := by
  have valid : c.val.toNat < 0xD800 ∨ 0xDFFF < c.val.toNat ∧ c.val.toNat < 0x110000 := c.valid
  have back : Char.ofNat c.val.toNat = c := Char.ofNat_toNat c
  unfold String.utf8EncodeChar
  generalize c.val.toNat = n at valid back ⊢
  subst back
  simp only
  split
  next one =>
    have size : sequenceLength (UInt8.ofNat n) = 1 := by
      rw [sequenceLength_ofNat (by omega), if_pos (by omega)]
    refine ⟨position + 1, ?_⟩
    rw [List.singleton_append, decodeFrom_one _ _ size, toNat_ofNat (by omega)]
  next =>
    split
    next two =>
      have size : sequenceLength (UInt8.ofNat (n / 64 % 32 + 192)) = 2 := by
        rw [sequenceLength_ofNat (by omega), if_neg (by omega), if_neg (by omega),
          if_pos (by omega)]
      have second : isSecond (UInt8.ofNat (n / 64 % 32 + 192)) (UInt8.ofNat (n % 64 + 128)) =
          true := by
        apply isSecond_ofNat <;> omega
      refine ⟨position + 2, ?_⟩
      simp only [List.cons_append, List.nil_append]
      rw [decodeFrom_two _ _ size second]
      simp only [joinCode, List.foldl_cons, List.foldl_nil]
      rw [toNat_ofNat (by omega), toNat_ofNat (by omega),
        show (n / 64 % 32 + 192 - 0xC0) * 64 + (n % 64 + 128 - 128) = n by omega]
    next =>
      split
      next three =>
        have size : sequenceLength (UInt8.ofNat (n / 4096 % 16 + 224)) = 3 := by
          rw [sequenceLength_ofNat (by omega), if_neg (by omega), if_neg (by omega),
            if_neg (by omega), if_pos (by omega)]
        have second : isSecond (UInt8.ofNat (n / 4096 % 16 + 224))
            (UInt8.ofNat (n / 64 % 64 + 128)) = true := by
          apply isSecond_ofNat <;> omega
        have third := @isContinuation_ofNat (n % 64) (by omega)
        refine ⟨position + 3, ?_⟩
        simp only [List.cons_append, List.nil_append]
        rw [decodeFrom_three _ _ size second third]
        simp only [joinCode, List.foldl_cons, List.foldl_nil]
        rw [toNat_ofNat (by omega), toNat_ofNat (by omega), toNat_ofNat (by omega),
          show ((n / 4096 % 16 + 224 - 0xE0) * 64 + (n / 64 % 64 + 128 - 128)) * 64 +
            (n % 64 + 128 - 128) = n by omega]
      next =>
        have size : sequenceLength (UInt8.ofNat (n / 262144 % 8 + 240)) = 4 := by
          rw [sequenceLength_ofNat (by omega), if_neg (by omega), if_neg (by omega),
            if_neg (by omega), if_neg (by omega), if_pos (by omega)]
        have second : isSecond (UInt8.ofNat (n / 262144 % 8 + 240))
            (UInt8.ofNat (n / 4096 % 64 + 128)) = true := by
          apply isSecond_ofNat <;> omega
        have third := @isContinuation_ofNat (n / 64 % 64) (by omega)
        have fourth := @isContinuation_ofNat (n % 64) (by omega)
        refine ⟨position + 4, ?_⟩
        simp only [List.cons_append, List.nil_append]
        rw [decodeFrom_four _ _ size second third fourth]
        simp only [joinCode, List.foldl_cons, List.foldl_nil]
        rw [toNat_ofNat (by omega), toNat_ofNat (by omega), toNat_ofNat (by omega),
          toNat_ofNat (by omega),
          show (((n / 262144 % 8 + 240 - 0xF0) * 64 + (n / 4096 % 64 + 128 - 128)) * 64 +
            (n / 64 % 64 + 128 - 128)) * 64 + (n % 64 + 128 - 128) = n by omega]

theorem decode_encoded (cs : List Char) : decode (cs.flatMap String.utf8EncodeChar) = .ok cs := by
  have from_any (position : Nat) :
      decodeFrom position (cs.flatMap String.utf8EncodeChar) = .ok cs := by
    induction cs generalizing position with
    | nil =>
      rw [List.flatMap_nil, decodeFrom]
    | cons c cs ih =>
      obtain ⟨later, read⟩ := exists_decodeFrom c (cs.flatMap String.utf8EncodeChar) position
      rw [List.flatMap_cons, read, ih later]
      rfl
  exact from_any 0

end Text.Utf8

namespace Encoding

def encode (encoding : Encoding) (cs : List Char) : Option (List UInt8) :=
  match encoding with
  | .utf8 => some (cs.flatMap String.utf8EncodeChar)
  | .utf8Marked => some (byteOrderMark ++ cs.flatMap String.utf8EncodeChar)
  | .latin1 => if cs.all (·.toNat < 256) then some (cs.map (UInt8.ofNat ·.toNat)) else none

theorem afterMark_mark (data : List UInt8) : afterMark (byteOrderMark ++ data) = data := by
  cases data with
  | nil => rfl
  | cons b data => simp [afterMark, byteOrderMark, List.isPrefixOf]

theorem chars_of_encode {encoding : Encoding} {cs : List Char} {data : List UInt8}
    (written : encoding.encode cs = some data) : encoding.chars data = .ok cs := by
  cases encoding with
  | utf8 =>
    cases written
    exact Text.Utf8.decode_encoded cs
  | utf8Marked =>
    cases written
    rw [chars, afterMark_mark]
    exact Text.Utf8.decode_encoded cs
  | latin1 =>
    simp only [encode] at written
    split at written
    next small =>
      cases written
      have small : ∀ c ∈ cs, c.toNat < 256 := by simpa using small
      rw [chars, List.map_map, List.map_congr_left, List.map_id]
      intro c member
      rw [Function.comp_apply, Text.Utf8.toNat_ofNat (small c member), Char.ofNat_toNat, id_eq]
    next => cases written

theorem return_not_mem_unifyLineEnds (cs : List Char) : '\r' ∉ unifyLineEnds cs := by
  fun_induction unifyLineEnds cs with
  | case1 rest ih => simpa using ih
  | case2 rest _ ih => simpa using ih
  | case3 c rest _ other ih => simp [ih, ne_comm.mp (show c ≠ '\r' from other)]
  | case4 => simp

theorem unifyLineEnds_of_unbroken {cs : List Char} (unbroken : '\r' ∉ cs) :
    unifyLineEnds cs = cs := by
  fun_induction unifyLineEnds cs with
  | case1 rest ih => simp at unbroken
  | case2 rest _ ih => simp at unbroken
  | case3 c rest _ _ ih => rw [ih fun member => unbroken (List.mem_cons_of_mem c member)]
  | case4 => rfl

theorem decode_of_encode {encoding : Encoding} {cs : List Char} {data : List UInt8}
    (unbroken : '\r' ∉ cs) (written : encoding.encode cs = some data) :
    encoding.decode data = .ok cs := by
  rw [decode, chars_of_encode written]
  exact congrArg Except.ok (unifyLineEnds_of_unbroken unbroken)

end Encoding

end QueryBook
