import EventMarkup.Options
import EventMarkup.Text.Charset

/-!
# Causes

What went wrong below the library: in the file system, in a borrowed stream, in a character set or
in a field of options. A cause is shown after the message of the error that it led to.
-/
namespace EventMarkup

/-- A failure that another error reports. -/
inductive Cause where
  | missing
  | isDirectory
  | notDirectory
  | nameTooLong
  | broken
  | closed
  /-- The label of a character set holds the null character. -/
  | nullInLabel
  | unencodable (u : Text.Unencodable)
  | undecodable (u : Text.Undecodable)
  /-- Another failure of the file system or of a device. -/
  | system (kind : String) (number : Nat) (words : String)
  | option (f : OptionFault)
  | other (label : String)
  deriving DecidableEq, Repr

namespace Cause

def label : Cause → String
  | missing => "FileNotFoundError"
  | isDirectory => "IsADirectoryError"
  | notDirectory => "NotADirectoryError"
  | nameTooLong | broken => "OSError"
  | closed | nullInLabel | option _ => "ValueError"
  | unencodable _ => "UnicodeEncodeError"
  | undecodable (.malformed ..) => "UnicodeDecodeError"
  | undecodable (.refused _) => "UnicodeError"
  | system kind _ _ => kind
  | other s => s

/-- The number and the words of a failure of the file system. -/
def system? : Cause → Option (Nat × String)
  | missing => some (2, "No such file or directory")
  | isDirectory => some (21, "Is a directory")
  | notDirectory => some (20, "Not a directory")
  | nameTooLong => some (36, "File name too long")
  | system _ number words => some (number, words)
  | _ => none

def atPath (c : Cause) (path : String) : String :=
  match c.system? with
  | some (n, words) => "[Errno " ++ toString n ++ "] " ++ words ++ ": " ++ Text.quoted path
  | none => c.label

def details (c : Cause) : List String :=
  match c with
  | closed => [Text.quoted "I/O operation on closed file."]
  | nullInLabel => [Text.quoted "embedded null character"]
  | unencodable u =>
    [Text.quoted u.codec, Text.quoted u.text, toString u.first, toString u.stop,
      Text.quoted u.reason]
  | undecodable (.malformed codec octets first stop reason) =>
    [Text.quoted codec, Text.quotedOctets octets, toString first, toString stop,
      Text.quoted reason]
  | undecodable (.refused reason) => [Text.quoted reason]
  | option f => [Text.quoted f.message]
  | c =>
    match c.system? with
    | some (n, words) => [toString n, Text.quoted words]
    | none => []

def shown (c : Cause) : String := c.label ++ "(" ++ String.intercalate ", " c.details ++ ")"

end Cause

end EventMarkup
