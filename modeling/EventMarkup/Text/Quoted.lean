import EventMarkup.Text.UnprintableTable

/-!
# Quoted literals

Messages show a text or a run of octets as a literal between quotes: single quotes, unless it holds
a single quote and no double one. The quote, the backslash, tab, line feed and carriage return are
written after a backslash and unprintable characters by number, so the literal stays on one line.
-/
namespace EventMarkup.Text

/-- The lower-case hexadecimal digit of a number below sixteen. -/
def hexDigit (n : Nat) : Char :=
  if n < 10 then Char.ofNat (48 + n) else Char.ofNat (87 + n)

/-- The last `width` hexadecimal digits of a number. -/
def hexDigits : Nat → Nat → List Char
  | 0, _ => []
  | width + 1, n => hexDigits width (n / 16) ++ [hexDigit (n % 16)]

/-- The quote around a literal: double if the text holds single quotes and no double ones. -/
def quoteFor (cs : List Char) : Char :=
  if cs.contains '\x27' && !cs.contains '\x22' then '\x22' else '\x27'

/-- The escape of a character by its number, in the shortest form that holds it. -/
def numbered (n : Nat) : List Char :=
  if n < 0x100 then '\\' :: 'x' :: hexDigits 2 n
  else if n < 0x10000 then '\\' :: 'u' :: hexDigits 4 n
  else '\\' :: 'U' :: hexDigits 8 n

/-- What stands for one character between the quotes. -/
def quotedUnit (quote c : Char) : List Char :=
  if c = quote || c = '\\' then ['\\', c]
  else if c = '\t' then ['\\', 't']
  else if c = '\n' then ['\\', 'n']
  else if c = '\r' then ['\\', 'r']
  else if inRanges c.toNat unprintables then numbered c.toNat
  else [c]

def quoted (s : String) : String :=
  let quote := quoteFor s.toList
  String.ofList (quote :: s.toList.flatMap (quotedUnit quote) ++ [quote])

/-- What stands for one octet between the quotes; octets above ASCII go by number. -/
def quotedOctet (quote : Char) (b : UInt8) : List Char :=
  if b < 0x80 then quotedUnit quote (Char.ofNat b.toNat) else numbered b.toNat

def quotedOctets (bytes : List UInt8) : String :=
  let quote := quoteFor (bytes.map fun b => Char.ofNat b.toNat)
  String.ofList ('b' :: quote :: bytes.flatMap (quotedOctet quote) ++ [quote])

def quotedList (items : List String) : String :=
  "[" ++ String.intercalate ", " (items.map quoted) ++ "]"

end EventMarkup.Text
