import Remit.Bytes.Base64

/-
  This file shows that reading base64 undoes writing it, so that
  bytes can be told from their base64 form, and that this form
  holds no other characters.

  Key theorems include:
    * `Base64.decodeList_encodeList`
    * `Base64.encode_injective`
    * `Base64.not_mem_encode`
-/

namespace Remit.Base64

------------------------------------------------------------
-- Digits
------------------------------------------------------------

/- The digit of a six-bit number is read back, and is no padding. -/
private theorem digits_checked :
    ∀ n < 64, digit? (digit n) = some n ∧ digit n ≠ '=' := by
  decide +kernel

/- The digit of a six-bit number is read back. -/
theorem digit?_digit
    {n : Nat}
    (hn : n < 64) :
    digit? (digit n) = some n :=
  (digits_checked n hn).1

/- No digit is the padding. -/
theorem digit_ne_padding
    {n : Nat}
    (hn : n < 64) :
    digit n ≠ '=' :=
  (digits_checked n hn).2

------------------------------------------------------------
-- Groups
------------------------------------------------------------

/- One byte is read back from its two characters. -/
theorem one?_encode
    (a : UInt8) :
    one? (digit (a.toNat * 0x10 / 0x40))
        (digit (a.toNat * 0x10 % 0x40)) =
      some [a] := by
  have ha := a.toNat_lt
  have hByte :
      (a.toNat * 0x10 / 0x40 * 0x40 + a.toNat * 0x10 % 0x40) / 0x10 =
        a.toNat := by
    omega
  rw [one?, digit?_digit (by omega), digit?_digit (by omega)]
  simp only [Option.bind_eq_bind, Option.bind_some]
  rw [if_pos (by omega), hByte, UInt8.ofNat_toNat]

/- Two bytes are read back from their three characters. -/
theorem two?_encode
    (a b : UInt8) :
    let n := (a.toNat * 0x100 + b.toNat) * 0x4
    two? (digit (n / 0x1000)) (digit (n / 0x40 % 0x40))
        (digit (n % 0x40)) =
      some [a, b] := by
  intro n
  have ha := a.toNat_lt
  have hb := b.toNat_lt
  have hDigits :
      (n / 0x1000 * 0x40 + n / 0x40 % 0x40) * 0x40 + n % 0x40 = n := by
    omega
  have hFirst : UInt8.ofNat (n / 0x400) = a := by
    apply UInt8.toNat_inj.mp
    rw [UInt8.toNat_ofNat']
    omega
  have hSecond : UInt8.ofNat (n / 0x4) = b := by
    apply UInt8.toNat_inj.mp
    rw [UInt8.toNat_ofNat']
    omega
  rw [two?, digit?_digit (by omega), digit?_digit (by omega),
    digit?_digit (by omega)]
  simp only [Option.bind_eq_bind, Option.bind_some]
  rw [hDigits, if_pos (by omega), hFirst, hSecond]

/- Three bytes are read back from their four characters. -/
theorem three?_encode
    (a b c : UInt8) :
    let n := (a.toNat * 0x100 + b.toNat) * 0x100 + c.toNat
    three? (digit (n / 0x40000)) (digit (n / 0x1000 % 0x40))
        (digit (n / 0x40 % 0x40)) (digit (n % 0x40)) =
      some [a, b, c] := by
  intro n
  have ha := a.toNat_lt
  have hb := b.toNat_lt
  have hc := c.toNat_lt
  have hDigits :
      ((n / 0x40000 * 0x40 + n / 0x1000 % 0x40) * 0x40
        + n / 0x40 % 0x40) * 0x40 + n % 0x40 = n := by
    omega
  have hFirst : UInt8.ofNat (n / 0x10000) = a := by
    apply UInt8.toNat_inj.mp
    rw [UInt8.toNat_ofNat']
    omega
  have hSecond : UInt8.ofNat (n / 0x100) = b := by
    apply UInt8.toNat_inj.mp
    rw [UInt8.toNat_ofNat']
    omega
  have hThird : UInt8.ofNat n = c := by
    apply UInt8.toNat_inj.mp
    rw [UInt8.toNat_ofNat']
    omega
  rw [three?, digit?_digit (by omega), digit?_digit (by omega),
    digit?_digit (by omega), digit?_digit (by omega)]
  simp only [Option.bind_eq_bind, Option.bind_some]
  rw [hDigits, hFirst, hSecond, hThird]

------------------------------------------------------------
-- Bytes
------------------------------------------------------------

/- Three characters before one padding are a group of two bytes. -/
theorem decodeList_padded
    {a b c : Char}
    (hc : c ≠ '=') :
    decodeList [a, b, c, '='] = two? a b c := by
  rw [decodeList]
  exact hc

/- Four characters without padding are a group of three bytes. -/
theorem decodeList_cons
    {a b c d : Char}
    (rest : List Char)
    (hd : d ≠ '=') :
    decodeList (a :: b :: c :: d :: rest) =
      (three? a b c d).bind (fun bytes =>
        (decodeList rest).bind (fun others =>
          some (bytes ++ others))) := by
  rw [decodeList]
  · rfl
  · exact fun _ hPadding _ => hd hPadding
  · exact fun hPadding _ => hd hPadding

/- Reading base64 undoes writing it. -/
theorem decodeList_encodeList
    (bytes : Bytes) :
    decodeList (encodeList bytes) = some bytes := by
  induction bytes using encodeList.induct with
  | case1 => rfl
  | case2 a => exact one?_encode a
  | case3 a b =>
      rw [encodeList,
        decodeList_padded (digit_ne_padding (by omega))]
      exact two?_encode a b
  | case4 a b c rest ih =>
      rw [encodeList,
        decodeList_cons _ (digit_ne_padding (by omega)),
        three?_encode, ih]
      rfl

/- Bytes can be told from their base64 form. -/
theorem encode_injective :
    Function.Injective encode := by
  intro s t h
  have hList := congrArg String.toList h
  rw [encode, encode, String.toList_ofList,
    String.toList_ofList] at hList
  have hSome := decodeList_encodeList s
  rw [hList, decodeList_encodeList] at hSome
  exact (Option.some.inj hSome).symm

------------------------------------------------------------
-- Characters
------------------------------------------------------------

/- What is not read as a digit is none. -/
theorem digit_ne
    {n : Nat}
    {c : Char}
    (hc : digit? c = none)
    (hn : n < 64) :
    c ≠ digit n := by
  rintro rfl
  rw [digit?_digit hn] at hc
  cases hc

/-
  Base64 characters are digits and paddings only. The induction
  follows the groups of bytes.
-/
theorem not_mem_encodeList
    {c : Char}
    (hc : digit? c = none)
    (hPadding : c ≠ '=')
    (bytes : Bytes) :
    c ∉ encodeList bytes := by
  induction bytes using encodeList.induct with
  | case1 => exact List.not_mem_nil
  | case2 a =>
      have ha := a.toNat_lt
      simp only [encodeList, List.mem_cons, List.not_mem_nil,
        or_false, not_or]
      exact
        ⟨digit_ne hc (by omega), digit_ne hc (by omega), hPadding,
          hPadding⟩
  | case3 a b =>
      have ha := a.toNat_lt
      have hb := b.toNat_lt
      simp only [encodeList, List.mem_cons, List.not_mem_nil,
        or_false, not_or]
      exact
        ⟨digit_ne hc (by omega), digit_ne hc (by omega),
          digit_ne hc (by omega), hPadding⟩
  | case4 a b d rest ih =>
      have ha := a.toNat_lt
      have hb := b.toNat_lt
      have hd := d.toNat_lt
      simp only [encodeList, List.mem_cons, not_or]
      exact
        ⟨digit_ne hc (by omega), digit_ne hc (by omega),
          digit_ne hc (by omega), digit_ne hc (by omega), ih⟩

/- The base64 form holds digits and paddings only. -/
theorem not_mem_encode
    {c : Char}
    (hc : digit? c = none)
    (hPadding : c ≠ '=')
    (bytes : Bytes) :
    c ∉ (encode bytes).toList := by
  rw [encode, String.toList_ofList]
  exact not_mem_encodeList hc hPadding bytes

end Remit.Base64
