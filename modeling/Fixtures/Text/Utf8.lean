/-!
# Bytes and text

Paths, arguments and captured output are byte strings. Text is what is shown of them. Decoding
splits a byte string into scalar values and ill-formed parts, after the table of well-formed UTF-8
sequences; the lossy text shows each ill-formed part as one replacement character, and the strict
text exists only where there is no such part.
-/

namespace Fixtures

/-- A byte string: a path, an argument or captured output. -/
abbrev Bytes := List UInt8

namespace Utf8

/-- Bytes that can stand after the second position of a sequence. -/
def isTail (b : UInt8) : Bool := 0x80 ≤ b && b ≤ 0xBF

/-- Bytes that can stand second after `lead`. Four lead bytes narrow the range, so that no scalar
value has a longer spelling than needed, is a surrogate or exceeds the last code point. -/
def isSecond (lead b : UInt8) : Bool :=
  isTail b &&
    (if lead = 0xE0 then 0xA0 ≤ b
    else if lead = 0xED then b ≤ 0x9F
    else if lead = 0xF0 then 0x90 ≤ b
    else if lead = 0xF4 then b ≤ 0x8F
    else true)

/-- The six payload bits of a byte after the first. -/
def payload (b : UInt8) : Nat := b.toNat % 64

/-- The scalar values of a byte string, with `none` for each maximal ill-formed part. -/
def decode : Bytes → List (Option Char)
  | [] => []
  | lead :: rest =>
    if lead < 0x80 then
      some (Char.ofNat lead.toNat) :: decode rest
    else if lead < 0xC2 then
      none :: decode rest
    else if lead < 0xE0 then
      match rest with
      | [] => [none]
      | b :: rest₁ =>
        if isTail b then
          some (Char.ofNat (lead.toNat % 32 * 64 + payload b)) :: decode rest₁
        else
          none :: decode (b :: rest₁)
    else if lead < 0xF0 then
      match rest with
      | [] => [none]
      | b :: rest₁ =>
        if isSecond lead b then
          match rest₁ with
          | [] => [none]
          | c :: rest₂ =>
            if isTail c then
              some (Char.ofNat ((lead.toNat % 16 * 64 + payload b) * 64 + payload c)) ::
                decode rest₂
            else
              none :: decode (c :: rest₂)
        else
          none :: decode (b :: rest₁)
    else if lead < 0xF5 then
      match rest with
      | [] => [none]
      | b :: rest₁ =>
        if isSecond lead b then
          match rest₁ with
          | [] => [none]
          | c :: rest₂ =>
            if isTail c then
              match rest₂ with
              | [] => [none]
              | d :: rest₃ =>
                if isTail d then
                  some (Char.ofNat
                      (((lead.toNat % 8 * 64 + payload b) * 64 + payload c) * 64 + payload d)) ::
                    decode rest₃
                else
                  none :: decode (d :: rest₃)
            else
              none :: decode (c :: rest₂)
        else
          none :: decode (b :: rest₁)
    else
      none :: decode rest

/-- The bytes of a text. -/
def encode (text : String) : Bytes := text.toList.flatMap String.utf8EncodeChar

/-- The shown form of a byte string: an ill-formed part appears as one replacement character. -/
def lossy (bytes : Bytes) : String :=
  String.ofList ((decode bytes).map fun item => item.getD '�')

/-- The text that a byte string spells, if it is well formed. -/
def text? (bytes : Bytes) : Option String := ((decode bytes).mapM id).map String.ofList

end Utf8

end Fixtures
