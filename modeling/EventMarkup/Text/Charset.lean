/-!
# Character sets

Text leaves as octets and comes back from octets in one of six character sets. Two of them put a
mark before the text: the marked UTF-8 and UTF-16, which is written in little-endian order.

Encoding fails on a character that the set lacks and names the first run of them. Decoding fails at
the first octets that are no character, with the reason; UTF-16 without a mark is refused as well.
-/
namespace EventMarkup.Text

/-- The character sets that text can be written in. -/
inductive Charset where
  | utf8
  | utf8Marked
  | latin1
  | ascii
  | utf16
  | utf16le
  deriving DecidableEq, Repr

/-- Characters that a set lacks, from `first` to before `stop`. -/
structure Unencodable where
  codec : String
  text : String
  first : Nat
  stop : Nat
  reason : String
  deriving DecidableEq, Repr

/-- Octets that are no text. -/
inductive Undecodable where
  /-- The octets from `first` to before `stop` are no character of the codec. -/
  | malformed (codec : String) (octets : List UInt8) (first stop : Nat) (reason : String)
  /-- The octets as a whole are refused. -/
  | refused (reason : String)
  deriving DecidableEq, Repr

namespace Charset

/-- A label in lower case, with one underscore for each run of separators. -/
def normalLabel (label : String) : List Char :=
  let rec go (pending : Bool) : List Char → List Char
    | [] => []
    | c :: rest =>
      if c.isAlphanum || c = '.' then
        if pending then '_' :: c.toLower :: go false rest else c.toLower :: go false rest
      else go true rest
  (go false label.toList).dropWhile (· = '_')

def names : List (String × Charset) :=
  [("utf_8", utf8), ("utf_8_sig", utf8Marked), ("latin_1", latin1), ("ascii", ascii),
    ("utf_16", utf16), ("utf_16_le", utf16le)]

def otherNames : Charset → List String
  | utf8 => ["utf8", "u8", "utf", "cp65001", "utf8_ucs2", "utf8_ucs4"]
  | utf8Marked => []
  | latin1 => ["8859", "cp819", "csisolatin1", "ibm819", "iso8859", "iso8859_1", "iso_8859_1",
    "iso_8859_1_1987", "iso_ir_100", "l1", "latin", "latin1"]
  | ascii => ["646", "ansi_x3.4_1968", "ansi_x3.4_1986", "ansi_x3_4_1968", "cp367", "csascii",
    "ibm367", "iso646_us", "iso_646.irv_1991", "iso_ir_6", "us", "us_ascii"]
  | utf16 => ["u16", "utf16"]
  | utf16le => ["unicodelittleunmarked", "utf_16le"]

/-- The character set with another name than its own. -/
def ofOtherName? (s : String) : Option Charset :=
  (names.map Prod.snd).find? fun k => k.otherNames.contains s

/-- The character set with a label; case and the kind of separator do not matter. In other names
than a set's own a dot is a separator as well. -/
def ofLabel? (label : String) : Option Charset :=
  let name := normalLabel label
  let undotted := name.map fun c => if c = '.' then '_' else c
  (ofOtherName? (String.ofList name)).or
    ((ofOtherName? (String.ofList undotted)).or (names.lookup (String.ofList name)))

/-- Whether a label holds the null character, which ends every label. -/
def hasNull (label : String) : Bool := label.toList.contains '\x00'

/-! ## Encoding -/

/-- A sixteen-bit unit as two octets, the low one first. -/
def unitOctets (n : Nat) : List UInt8 := [UInt8.ofNat (n % 256), UInt8.ofNat (n / 256)]

/-- The UTF-16 units of a character, low octets first. -/
def utf16Octets (c : Char) : List UInt8 :=
  let n := c.toNat
  if n < 0x10000 then unitOctets n
  else unitOctets (0xd800 + (n - 0x10000) / 0x400) ++ unitOctets (0xdc00 + (n - 0x10000) % 0x400)

/-- The octets of a character, or nothing if the set lacks it. -/
def octets? (k : Charset) (c : Char) : Option (List UInt8) :=
  match k with
  | utf8 | utf8Marked => some (String.utf8EncodeChar c)
  | latin1 => if c.toNat < 256 then some [UInt8.ofNat c.toNat] else none
  | ascii => if c.toNat < 128 then some [UInt8.ofNat c.toNat] else none
  | utf16 | utf16le => some (utf16Octets c)

/-- The octets that a set puts before a text. -/
def mark : Charset → List UInt8
  | utf8Marked => [0xef, 0xbb, 0xbf]
  | utf16 => [0xff, 0xfe]
  | _ => []

/-- The octets of a text, without the mark. -/
def encodeChars (k : Charset) : List Char → Option (List UInt8)
  | [] => some []
  | c :: rest =>
    match k.octets? c, encodeChars k rest with
    | some a, some b => some (a ++ b)
    | _, _ => none

/-- The name and the complaint with which a set refuses a character. -/
def refusal : Charset → String × String
  | latin1 => ("latin-1", "ordinal not in range(256)")
  | ascii => ("ascii", "ordinal not in range(128)")
  | utf16 => ("utf-16", "surrogates not allowed")
  | utf16le => ("utf-16-le", "surrogates not allowed")
  | _ => ("utf-8", "surrogates not allowed")

/-- The first run of characters that a set lacks. -/
def unencodable (k : Charset) (s : String) : Unencodable :=
  let lacks := fun c => (k.octets? c).isNone
  let first := (s.toList.takeWhile fun c => !lacks c).length
  let run := ((s.toList.drop first).takeWhile lacks).length
  ⟨k.refusal.1, s, first, first + run, k.refusal.2⟩

/-- The octets of a text, with the mark in front if `marked`. -/
def encode (k : Charset) (marked : Bool) (s : String) : Except Unencodable (List UInt8) :=
  match k.encodeChars s.toList with
  | some bytes => .ok ((if marked then k.mark else []) ++ bytes)
  | none => .error (k.unencodable s)

/-! ## Decoding -/

/-- Why octets are no character, and how many of them are to blame. -/
structure BadOctets where
  count : Nat
  reason : String

/-- Whether an octet continues a character of UTF-8. -/
def isContinuation (b : UInt8) : Bool := 0x80 ≤ b && b < 0xc0

/-- Whether the second octet of a character of UTF-8 may follow the first: no overlong form, no
surrogate, nothing above the last code point. -/
def mayFollow (first second : UInt8) : Bool :=
  isContinuation second &&
    (first != 0xe0 || 0xa0 ≤ second) && (first != 0xed || second < 0xa0) &&
    (first != 0xf0 || 0x90 ≤ second) && (first != 0xf4 || second < 0x90)

/-- How many octets a character of UTF-8 with this first octet has. -/
def utf8Width (b : UInt8) : Option Nat :=
  if b < 0x80 then some 1
  else if b < 0xc2 then none
  else if b < 0xe0 then some 2
  else if b < 0xf0 then some 3
  else if b < 0xf5 then some 4
  else none

/-- How many octets after the first, at most `n`, belong to the character it starts. -/
def followers (first : UInt8) (n : Nat) : List UInt8 → Nat
  | [] => 0
  | second :: rest =>
    if mayFollow first second then 1 + ((rest.take (n - 1)).takeWhile isContinuation).length else 0

/-- The width of the character at the front of the octets, or what is wrong with it. -/
def utf8Front (b : UInt8) (rest : List UInt8) : Except BadOctets Nat :=
  match utf8Width b with
  | none => .error ⟨1, "invalid start byte"⟩
  | some width =>
    if width = 1 then .ok 1
    else
      let n := followers b (width - 1) rest
      if n + 1 = width then .ok width
      else if n = rest.length then .error ⟨n + 1, "unexpected end of data"⟩
      else .error ⟨n + 1, "invalid continuation byte"⟩

/-- The position and the kind of the first octets that are no UTF-8. The first argument counts the
octets still to be passed over, the second those before the list. -/
def utf8Fault : Nat → Nat → List UInt8 → Option (Nat × BadOctets)
  | _, _, [] => none
  | skip + 1, pos, _ :: rest => utf8Fault skip (pos + 1) rest
  | 0, pos, b :: rest =>
    match utf8Front b rest with
    | .ok width => utf8Fault (width - 1) (pos + 1) rest
    | .error bad => some (pos, bad)

def decodeUtf8 (bytes : List UInt8) : Except Undecodable String :=
  match String.fromUTF8? (ByteArray.mk bytes.toArray) with
  | some s => .ok s
  | none =>
    match utf8Fault 0 0 bytes with
    | some (pos, bad) => .error (.malformed "utf-8" bytes pos (pos + bad.count) bad.reason)
    | none => .error (.malformed "utf-8" bytes 0 bytes.length "invalid start byte")

/-- The characters of octets, with a replacement character for each run that is none. The first
argument counts the octets still to be passed over. -/
def legibleChars : Nat → List UInt8 → List Char
  | _, [] => []
  | skip + 1, _ :: rest => legibleChars skip rest
  | 0, b :: rest =>
    match utf8Front b rest with
    | .ok width =>
      ((String.fromUTF8? (ByteArray.mk (b :: rest.take (width - 1)).toArray)).getD "").toList ++
        legibleChars (width - 1) rest
    | .error bad => '\ufffd' :: legibleChars (bad.count - 1) rest

/-- The text of octets that are meant as UTF-8, whether or not all of them are. -/
def legibleUtf8 (bytes : List UInt8) : String :=
  (String.fromUTF8? (ByteArray.mk bytes.toArray)).getD (String.ofList (legibleChars 0 bytes))

def decodeSingle (bytes : List UInt8) (limit : Nat) : Except Undecodable String :=
  let first := (bytes.takeWhile fun b => b.toNat < limit).length
  if first < bytes.length then
    .error (.malformed "ascii" bytes first (first + 1) "ordinal not in range(128)")
  else .ok (String.ofList (bytes.map fun b => Char.ofNat b.toNat))

/-- Whether a sixteen-bit unit is the first of a pair. -/
def isHigh (n : Nat) : Bool := 0xd800 ≤ n && n < 0xdc00

/-- Whether a sixteen-bit unit is the second of a pair. -/
def isLow (n : Nat) : Bool := 0xdc00 ≤ n && n < 0xe000

/-- The characters of UTF-16 octets at position `pos`, or what is wrong with them. `unit` puts two
octets together. -/
def utf16Chars (unit : UInt8 → UInt8 → Nat) (pos : Nat) :
    List UInt8 → Except (Nat × BadOctets) (List Char)
  | [] => .ok []
  | [_] => .error (pos, ⟨1, "truncated data"⟩)
  | a :: b :: rest =>
    let n := unit a b
    if isLow n then .error (pos, ⟨2, "illegal encoding"⟩)
    else if isHigh n then
      match rest with
      | c :: d :: rest =>
        let m := unit c d
        if isLow m then
          (utf16Chars unit (pos + 4) rest).map
            (Char.ofNat (0x10000 + (n - 0xd800) * 0x400 + (m - 0xdc00)) :: ·)
        else .error (pos, ⟨2, "illegal UTF-16 surrogate"⟩)
      | rest => .error (pos, ⟨2 + rest.length, "unexpected end of data"⟩)
    else (utf16Chars unit (pos + 2) rest).map (Char.ofNat n :: ·)

def decodeUtf16 (codec : String) (unit : UInt8 → UInt8 → Nat) (bytes : List UInt8) (pos : Nat) :
    Except Undecodable String :=
  match utf16Chars unit pos (bytes.drop pos) with
  | .ok cs => .ok (String.ofList cs)
  | .error (found, bad) => .error (.malformed codec bytes found (found + bad.count) bad.reason)

/-- Two octets as a unit, the low one first. -/
def littleUnit (a b : UInt8) : Nat := a.toNat + 256 * b.toNat

/-- Two octets as a unit, the high one first. -/
def bigUnit (a b : UInt8) : Nat := b.toNat + 256 * a.toNat

/-- The text of a whole file of octets. A mark tells the byte order of UTF-16 and is dropped; a
file of the marked UTF-8 that breaks off within the mark is empty. -/
def decode (k : Charset) (bytes : List UInt8) : Except Undecodable String :=
  match k with
  | utf8 => decodeUtf8 bytes
  | utf8Marked =>
    match bytes with
    | [0xef] | [0xef, 0xbb] => .ok ""
    | 0xef :: 0xbb :: 0xbf :: rest => decodeUtf8 rest
    | _ => decodeUtf8 bytes
  | latin1 => decodeSingle bytes 256
  | ascii => decodeSingle bytes 128
  | utf16le => decodeUtf16 "utf-16-le" littleUnit bytes 0
  | utf16 =>
    match bytes with
    | 0xff :: 0xfe :: _ => decodeUtf16 "utf-16-le" littleUnit bytes 2
    | 0xfe :: 0xff :: _ => decodeUtf16 "utf-16-be" bigUnit bytes 2
    | _ =>
      match decodeUtf16 "utf-16-le" littleUnit bytes 0 with
      | .error e => .error e
      | .ok s => if bytes.length < 2 then .ok s
        else .error (.refused "UTF-16 stream does not start with BOM")

end Charset

end EventMarkup.Text
