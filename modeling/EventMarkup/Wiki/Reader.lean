import EventMarkup.Text.Blank
import EventMarkup.Wiki.Block
import EventMarkup.Wiki.Cursor

/-!
# Block readers

A reader tells by its first line whether a block is of its kind, and reads the block up to a blank
line. A figure is an image between exclamation marks; what follows the last mark of the line, and
the lines after it, are the caption. Everything else is a paragraph.
-/
namespace EventMarkup.Wiki

inductive BlockReader where
  | figure
  | paragraph
  deriving DecidableEq, Repr

/-- The characters before and after the last exclamation mark. -/
def splitAtLastMark : List Char → Option (List Char × List Char)
  | [] => none
  | c :: rest =>
    match splitAtLastMark rest with
    | some (front, back) => some (c :: front, back)
    | none => if c = '!' then some ([], rest) else none

/-- The parts that are not empty, with single spaces between them. -/
def joinParts (parts : List String) : String :=
  String.intercalate " " (parts.filter (· ≠ ""))

/-- The image and the start of the caption on the first line of a figure. A line without a mark
loses its ends to the image and is all caption. -/
def figureLine (line : List Char) : List Char × List Char :=
  match splitAtLastMark line with
  | some (front, back) => (front.drop 1, back)
  | none => (line.dropLast.drop 1, line)

/-- The start of a caption without a line break in front and without blanks around it. -/
def captionStart (cs : List Char) : List Char :=
  match Text.trimChars cs with
  | '\\' :: '\\' :: rest => Text.trimChars rest
  | trimmed => trimmed

namespace BlockReader

/-- Whether the line can start a block of the reader's kind. -/
def accepts (r : BlockReader) (line : String) : Bool :=
  match r with
  | paragraph => !Text.isBlankText line
  | figure =>
    match line.toList, splitAtLastMark line.toList with
    | '!' :: _, some (front, _) => front.length > 1
    | _, _ => false

/-- The block that starts with a line, of which `rest` are the trimmed lines after it. -/
def block (r : BlockReader) (line : String) (rest : List String) : Block :=
  match r with
  | paragraph => .paragraph (joinParts (Text.trim line :: rest))
  | figure =>
    let (image, first) := figureLine line.toList
    let caption := joinParts (String.ofList (captionStart first) :: rest)
    .figure (String.ofList image) (if Text.isBlankText caption then none else some caption)

/-- Reads the block that starts with a line already read. -/
def read (r : BlockReader) (line : String) (c : Cursor) : Block × Cursor :=
  (r.block line c.run.1, c.run.2)

/-- The readers of a page unless others are given: figures come first. -/
def usual : List BlockReader := [figure, paragraph]

end BlockReader

end EventMarkup.Wiki
