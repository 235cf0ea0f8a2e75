import EventMarkup.Cause

/-!
# Codecs

How a file is decoded as a whole, and what each text becomes that is written to it. The six
character sets are codecs; others come from the host of a run.
-/
namespace EventMarkup

/-- What a target received by one write. -/
inductive Item where
  | text (s : String)
  | octets (bytes : List UInt8)
  deriving DecidableEq, Repr

def Item.chars : Item → String
  | text s => s
  | octets _ => ""

def Item.bytes : Item → List UInt8
  | text _ => []
  | octets bytes => bytes

/-- A way to read and write files of text. What a text becomes may depend on what has been written:
a codec can put a mark at the start, shift between sets or hold characters back. -/
structure Codec where
  decode (bytes : List UInt8) : Except Text.Undecodable String
  encode (sent : Array Item) (t : String) : Except Cause (List UInt8)

/-- The codec of a character set. A file has one mark, at its start. -/
def Text.Charset.codec (c : Charset) : Codec where
  decode := c.decode
  encode sent t := (c.encode sent.isEmpty t).mapError .unencodable

instance : Coe Text.Charset Codec := ⟨Text.Charset.codec⟩

/-- The codec with a label: one of the six sets, or else one of some others. -/
def Codec.named? (others : String → Option Codec) (label : String) : Option Codec :=
  match Text.Charset.ofLabel? label with
  | some c => some c
  | none => others label

theorem Codec.named?_of_label {others : String → Option Codec} {label : String}
    {c : Text.Charset} (h : Text.Charset.ofLabel? label = some c) :
    Codec.named? others label = some c.codec := by
  rw [named?, h]

end EventMarkup
