import MediaTags.Text.Utf8

/-!
# Percent encoding

ASCII letters, digits and the four marks `-`, `_`, `.` and `~` stand for themselves; every other
byte of the UTF-8 form is written `%XX` with capital hexadecimal digits.

The program takes its encoder from a package. The definitions below are what is assumed of that
package: it escapes every byte of the UTF-8 form but those named above, a space like any other, and
does nothing else to the text.
-/

namespace MediaTags.Text.Percent

def hexDigit (n : Nat) : Char :=
  Char.ofNat (if n < 10 then 0x30 + n else 0x41 + (n - 10))

/-- Whether a byte is written as the character it stands for. -/
def isPlain (b : UInt8) : Bool :=
  let c := Char.ofNat b.toNat
  c.isAlphanum || c == '-' || c == '_' || c == '.' || c == '~'

def encodeByte (b : UInt8) : List Char :=
  if isPlain b then [Char.ofNat b.toNat]
  else ['%', hexDigit (b.toNat / 16), hexDigit (b.toNat % 16)]

def encodeBytes (bs : List UInt8) : List Char := bs.flatMap encodeByte

def encode (s : String) : String := .ofList (encodeBytes (Utf8.encode s.toList))

end MediaTags.Text.Percent
