import MediaTags.Text.Ranges
import MediaTags.Text.UnprintableTable

/-!
# Quoted text

A text between double quotes, for messages that show a value. The quote and the backslash are
escaped, four control characters have short forms, and a character that would not show by itself
is written with its hexadecimal code point in braces.
-/

namespace MediaTags.Text.Quoted

def hexDigitsOf (n : Nat) : List Char := Nat.toDigits 16 n

def isPrintable (c : Char) : Bool := !inRanges unprintableRanges c

def encodeChar (c : Char) : List Char :=
  if c = '"' then ['\\', '"']
  else if c = '\\' then ['\\', '\\']
  else if c = '\n' then ['\\', 'n']
  else if c = '\r' then ['\\', 'r']
  else if c = '\t' then ['\\', 't']
  else if c.toNat = 0 then ['\\', '0']
  else if isPrintable c then [c]
  else ['\\', 'u', '\x7b'] ++ hexDigitsOf c.toNat ++ ['\x7d']

def encodeChars (cs : List Char) : List Char := cs.flatMap encodeChar

def encode (s : String) : String := .ofList ('"' :: encodeChars s.toList ++ ['"'])

end MediaTags.Text.Quoted
