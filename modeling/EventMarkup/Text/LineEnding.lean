/-!
# Line endings

Text arrives with any mixture of LF, CR LF and CR and is written with one of them. CR LF is a single
line ending: its CR contributes nothing, so that the pair is replaced once.
-/
namespace EventMarkup.Text

inductive LineEnding where
  | lf
  | crlf
  | cr
  deriving DecidableEq, Repr

namespace LineEnding

def chars : LineEnding → List Char
  | lf => ['\n']
  | crlf => ['\r', '\n']
  | cr => ['\r']

def text (e : LineEnding) : String := String.ofList e.chars

def ofText? (s : String) : Option LineEnding :=
  if s = "\n" then some lf
  else if s = "\r\n" then some crlf
  else if s = "\r" then some cr
  else none

end LineEnding

/-- What one character contributes when line endings become `sep`, given the character after it. -/
def lineUnit (sep : List Char) (c : Char) (next : Option Char) : List Char :=
  if c = '\n' then sep
  else if c = '\r' then (if next = some '\n' then [] else sep)
  else [c]

/-- The characters with every line ending replaced by `sep`. -/
def replaceLineEndings (sep : List Char) : List Char → List Char
  | [] => []
  | c :: rest => lineUnit sep c rest.head? ++ replaceLineEndings sep rest

/-- Text with every line ending replaced by `e`. -/
def normalize (e : LineEnding) (s : String) : String :=
  String.ofList (replaceLineEndings e.chars s.toList)

end EventMarkup.Text
