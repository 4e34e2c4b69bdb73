import Mathlib
import Restyle.Text.Utf8

/-! # Texts in UTF-8
A text that has been encoded is decoded to what it was (`decodeStrict?_toUTF8`). -/

namespace Restyle.Text

variable {c : Char} {rest bytes : List UInt8}

/-! ## Bytes of strings -/

/-- `ByteArray.toList.loop` reads on from `i` behind what has been read. -/
theorem toList_loop_eq (bytes : ByteArray) (i : Nat) (before : List UInt8) :
    ByteArray.toList.loop bytes i before = before.reverse ++ bytes.data.toList.drop i := by
  fun_induction ByteArray.toList.loop bytes i before with
  | case1 i before h ih =>
    have hi : i < bytes.data.toList.length := by simpa using h
    rw [ih, List.drop_eq_getElem_cons hi]
    simp [ByteArray.get!, h]
  | case2 i before h =>
    rw [List.drop_eq_nil_of_le (by simpa using Nat.le_of_not_lt h)]
    simp

/-- The bytes of a string are `cs.flatMap String.utf8EncodeChar`. -/
theorem toList_toUTF8 (cs : List Char) :
    (String.ofList cs).toUTF8.toList = cs.flatMap String.utf8EncodeChar := by
  have hdata : (String.ofList cs).toUTF8.data.toList = cs.flatMap String.utf8EncodeChar := by
    simp [String.toUTF8, String.toByteArray_ofList, List.utf8Encode]
  rw [ByteArray.toList, toList_loop_eq, hdata]
  rfl

/-! ## Decoding characters -/

/-- A byte below `0x80` is a character by itself. -/
theorem leadByte_one {b : UInt8} (h : b.toNat < 0x80) :
    leadByte b = .inl (some (Char.ofNat b.toNat)) := by
  unfold leadByte
  rw [if_pos h]

/-- A byte from `0xc2` on starts a character of two bytes. -/
theorem leadByte_two {b : UInt8} (hleast : 0xc2 ≤ b.toNat) (hgreatest : b.toNat < 0xe0) :
    leadByte b = .inr ⟨1, b.toNat - 0xc0, 0x80, 0xbf⟩ := by
  unfold leadByte
  rw [if_neg (by omega), if_neg (by omega), if_pos hgreatest]

/-- A byte from `0xe0` on starts a character of three bytes, of which the second one is restricted
behind `0xe0` and `0xed`. -/
theorem leadByte_three {b : UInt8} (hleast : 0xe0 ≤ b.toNat) (hgreatest : b.toNat < 0xf0) :
    leadByte b = .inr ⟨2, b.toNat - 0xe0, if b.toNat = 0xe0 then 0xa0 else 0x80,
      if b.toNat = 0xed then 0x9f else 0xbf⟩ := by
  unfold leadByte
  rw [if_neg (by omega), if_neg (by omega), if_neg (by omega), if_pos hgreatest]

/-- A byte from `0xf0` to `0xf4` starts a character of four bytes, of which the second one is
restricted behind `0xf0` and `0xf4`. -/
theorem leadByte_four {b : UInt8} (hleast : 0xf0 ≤ b.toNat) (hgreatest : b.toNat < 0xf5) :
    leadByte b = .inr ⟨3, b.toNat - 0xf0, if b.toNat = 0xf0 then 0x90 else 0x80,
      if b.toNat = 0xf4 then 0x8f else 0xbf⟩ := by
  unfold leadByte
  rw [if_neg (by omega), if_neg (by omega), if_neg (by omega), if_neg (by omega), if_pos hgreatest]

/-- A byte that starts a character leaves it pending. -/
theorem decodeFrom_lead {b : UInt8} {p : Pending} (h : leadByte b = .inr p) (rest : List UInt8) :
    decodeFrom none (b :: rest) = decodeFrom (some p) rest := by
  simp [decodeFrom, h]

/-- A byte in the middle of a character adds six bits, and one byte less is missing. -/
theorem decodeFrom_middle {missing value least greatest : Nat} {b : UInt8}
    (hleast : least ≤ b.toNat) (hgreatest : b.toNat ≤ greatest) (rest : List UInt8) :
    decodeFrom (some ⟨missing + 2, value, least, greatest⟩) (b :: rest) =
      decodeFrom (some ⟨missing + 1, value * 64 + (b.toNat - 0x80), 0x80, 0xbf⟩) rest := by
  simp [decodeFrom, hleast, hgreatest]

/-- The last byte of a character adds six bits and completes it. -/
theorem decodeFrom_last {value least greatest : Nat} {b : UInt8} (hleast : least ≤ b.toNat)
    (hgreatest : b.toNat ≤ greatest) (rest : List UInt8) :
    decodeFrom (some ⟨1, value, least, greatest⟩) (b :: rest) =
      some (Char.ofNat (value * 64 + (b.toNat - 0x80))) :: decodeFrom none rest := by
  simp [decodeFrom, hleast, hgreatest]

/-- `decodeFrom none` reads `c` from `String.utf8EncodeChar c`. -/
theorem decodeFrom_utf8EncodeChar (c : Char) (rest : List UInt8) :
    decodeFrom none (String.utf8EncodeChar c ++ rest) = some c :: decodeFrom none rest := by
  have hvalid : c.val.toNat < 0xd800 ∨ 0xdfff < c.val.toNat ∧ c.val.toNat < 0x110000 := c.valid
  have hofNat : ∀ n, n = c.val.toNat → Char.ofNat n = c := by
    rintro n rfl
    exact Char.ofNat_toNat c
  have hbyte : ∀ n, n < 256 → (UInt8.ofNat n).toNat = n := fun n hn => by simp; omega
  unfold String.utf8EncodeChar
  simp only
  set v := c.val.toNat
  -- one case for each number of bytes; every byte adds its bits to the value
  split
  · have h := hbyte v (by omega)
    rw [List.singleton_append, decodeFrom, leadByte_one (by omega), h, hofNat v rfl]
  · have hlast := hbyte (v % 64 + 128) (by omega)
    split
    · have hfirst := hbyte (v / 64 % 32 + 192) (by omega)
      rw [List.cons_append, List.singleton_append,
        decodeFrom_lead (leadByte_two (by omega) (by omega)), decodeFrom_last (by omega) (by omega),
        hfirst, hlast, hofNat _ (by omega)]
    · have hsecond := hbyte (v / 64 % 64 + 128) (by omega)
      split
      · have hfirst := hbyte (v / 4096 % 16 + 224) (by omega)
        rw [List.cons_append, List.cons_append, List.singleton_append,
          decodeFrom_lead (leadByte_three (by omega) (by omega)),
          decodeFrom_middle (by split <;> omega) (by split <;> omega),
          decodeFrom_last (by omega) (by omega), hfirst, hsecond, hlast, hofNat _ (by omega)]
      · have hfirst := hbyte (v / 262144 % 8 + 240) (by omega)
        have hthird := hbyte (v / 4096 % 64 + 128) (by omega)
        rw [List.cons_append, List.cons_append, List.cons_append, List.singleton_append,
          decodeFrom_lead (leadByte_four (by omega) (by omega)),
          decodeFrom_middle (by split <;> omega) (by split <;> omega),
          decodeFrom_middle (by omega) (by omega), decodeFrom_last (by omega) (by omega),
          hfirst, hthird, hsecond, hlast, hofNat _ (by omega)]

/-- `decode (cs.flatMap String.utf8EncodeChar) = cs.map some`. -/
theorem decode_flatMap_utf8EncodeChar (cs : List Char) :
    decode (cs.flatMap String.utf8EncodeChar) = cs.map some := by
  unfold decode
  induction cs with
  | nil => rfl
  | cons c cs ih => rw [List.flatMap_cons, decodeFrom_utf8EncodeChar, ih, List.map_cons]

/-- `decodeStrict?` of the bytes of `String.ofList cs` is `some cs`. -/
theorem decodeStrict?_toUTF8 (cs : List Char) :
    decodeStrict? (String.ofList cs).toUTF8.toList = some cs := by
  have hall : ∀ cs : List Char, (cs.map some).mapM id = some cs := by
    intro cs
    induction cs with
    | nil => rfl
    | cons c cs ih => simp [ih]
  rw [toList_toUTF8, decodeStrict?, decode_flatMap_utf8EncodeChar, hall]

/-- `decodeStrict? text.toUTF8.toList = some text.toList`. -/
theorem decodeStrict?_toUTF8_toList (text : String) :
    decodeStrict? text.toUTF8.toList = some text.toList := by
  have h := decodeStrict?_toUTF8 text.toList
  rwa [String.ofList_toList] at h

end Restyle.Text
