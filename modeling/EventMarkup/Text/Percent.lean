/-!
# Percent encoding

In a URL the ASCII letters and digits, the reserved and the unreserved marks and `%` itself stay;
every other character is written as the octets of its UTF-8 form, each as `%` and two upper-case
hexadecimal digits.
-/
namespace EventMarkup.Text

/-- Marks that stay as they are in a URL. -/
def urlMarks : List Char :=
  ['-', '_', '.', '!', '~', '*', '\x27', '(', ')', ';', '/', '?', ':', '@', '&', '=', '+', '$', ',',
    '#', '%', '[', ']']

def isUrlChar (c : Char) : Bool := c.isAlphanum || urlMarks.contains c

/-- The upper-case hexadecimal digit of a number below sixteen. -/
def upperHexDigit (n : Nat) : Char :=
  if n < 10 then Char.ofNat (48 + n) else Char.ofNat (55 + n)

/-- An octet as `%` and two hexadecimal digits. -/
def percentOctet (b : UInt8) : List Char :=
  ['%', upperHexDigit (b.toNat / 16), upperHexDigit (b.toNat % 16)]

/-- What is written in a URL for one character. -/
def percentUnit (c : Char) : List Char :=
  if isUrlChar c then [c] else (String.utf8EncodeChar c).flatMap percentOctet

def percentChars (cs : List Char) : List Char := cs.flatMap percentUnit

/-- Text as it is written in a URL. -/
def encodeUrl (s : String) : String := String.ofList (percentChars s.toList)

end EventMarkup.Text
