/-! # Decoding UTF-8
Bytes are decoded one at a time. Where they are not well formed, each maximal part that could still
have started a character counts as one failure: the three readings below drop the failures, replace
each of them by one replacement character, or refuse the whole text. -/

namespace Restyle.Text

/-- A multi-byte character under way: the bytes still missing, the value so far, and the range that
the next byte has to lie in. -/
structure Pending where
  /-- The number of bytes still missing. -/
  missing : Nat
  /-- The value of the bits read so far. -/
  value : Nat
  /-- The least byte that can come next. -/
  least : Nat
  /-- The greatest byte that can come next. -/
  greatest : Nat

/-- What a byte starts: a whole character, a failure, or a character under way. The ranges of the
second byte rule out overlong forms, surrogates and values above `U+10FFFF`. -/
def leadByte (b : UInt8) : Option Char ⊕ Pending :=
  let n := b.toNat
  if n < 0x80 then .inl (some (Char.ofNat n))
  else if n < 0xc2 then .inl none
  else if n < 0xe0 then .inr ⟨1, n - 0xc0, 0x80, 0xbf⟩
  else if n < 0xf0 then
    .inr ⟨2, n - 0xe0, if n = 0xe0 then 0xa0 else 0x80, if n = 0xed then 0x9f else 0xbf⟩
  else if n < 0xf5 then
    .inr ⟨3, n - 0xf0, if n = 0xf0 then 0x90 else 0x80, if n = 0xf4 then 0x8f else 0xbf⟩
  else .inl none

/-- Decode the bytes that follow, with or without a character under way. -/
def decodeFrom : Option Pending → List UInt8 → List (Option Char)
  | none, [] => []
  | some _, [] => [none]
  | none, b :: bs =>
    match leadByte b with
    | .inl out => out :: decodeFrom none bs
    | .inr p => decodeFrom (some p) bs
  | some p, b :: bs =>
    if p.least ≤ b.toNat ∧ b.toNat ≤ p.greatest then
      let value := p.value * 64 + (b.toNat - 0x80)
      if p.missing ≤ 1 then some (Char.ofNat value) :: decodeFrom none bs
      else decodeFrom (some ⟨p.missing - 1, value, 0x80, 0xbf⟩) bs
    else
      none :: match leadByte b with
        | .inl out => out :: decodeFrom none bs
        | .inr q => decodeFrom (some q) bs

/-- The characters of a byte sequence, with `none` for each ill-formed part. -/
def decode (bs : List UInt8) : List (Option Char) := decodeFrom none bs

/-- The well-formed characters; ill-formed parts are dropped. -/
def decodeLenient (bs : List UInt8) : List Char := (decode bs).filterMap id

/-- The characters, with one replacement character for each ill-formed part. -/
def decodeReplacing (bs : List UInt8) : List Char := (decode bs).map (·.getD '\uFFFD')

/-- The characters, when every byte belongs to a well-formed one. -/
def decodeStrict? (bs : List UInt8) : Option (List Char) := (decode bs).mapM id

/-- Every line break as one line feed: a carriage return, with the line feed after it if there is
one, becomes a line feed. -/
def unifyLineBreaks : List Char → List Char
  | '\r' :: '\n' :: cs => '\n' :: unifyLineBreaks cs
  | '\r' :: cs => '\n' :: unifyLineBreaks cs
  | c :: cs => c :: unifyLineBreaks cs
  | [] => []

end Restyle.Text
