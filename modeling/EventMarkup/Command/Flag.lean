import EventMarkup.Text.Digit

/-!
# Flags

The flags of the command line and how an argument is recognised as one. A flag may be given by its
exact spelling, by a long spelling cut short where no other flag starts alike, and with its value in
the same argument: after `=`, or directly after a short spelling.
-/
namespace EventMarkup.Command

inductive Flag where
  | help
  | output
  | strict
  | lineEnding
  | rowClasses
  | encoding
  | sectionClass
  | tableClass
  | figureClass
  | externalLinkClass
  | sourceClass
  | qualifier
  | logLevel
  | logFile
  | trace
  | version
  deriving DecidableEq, Repr

def spellings : List (String × Flag) :=
  [("-h", .help), ("--help", .help), ("-o", .output), ("--output", .output),
    ("--strict", .strict), ("--line-separator", .lineEnding), ("--row-classes", .rowClasses),
    ("--encoding", .encoding), ("--section-class", .sectionClass),
    ("--table-class", .tableClass), ("--figure-class", .figureClass),
    ("--external-link-class", .externalLinkClass), ("--source-class", .sourceClass),
    ("--namespace", .qualifier), ("--log-level", .logLevel), ("--log-file", .logFile),
    ("--trace", .trace), ("--version", .version)]

/-- What an argument is taken for. -/
inductive Argument where
  | plain (s : String)
  | separator
  | flag (f : Flag) (value : Option String)
  | unknown
  deriving DecidableEq, Repr

/-- The characters before the first equals sign and, if there is one, those after it. -/
def splitEquals (cs : List Char) : List Char × Option String :=
  (cs.takeWhile (· ≠ '='),
    match cs.dropWhile (· ≠ '=') with
    | [] => none
    | _ :: value => some (String.ofList value))

/-- Whether digits of any script stand up to the end or a line feed there. -/
def isDigits (cs : List Char) : Bool :=
  let digits := if cs.getLast? = some '\n' then cs.dropLast else cs
  digits ≠ [] && digits.all Text.isDecimalDigit

/-- Whether the characters are a negative number: a minus and digits, one point among or before
them. -/
def isNegativeNumber : List Char → Bool
  | '-' :: rest =>
    match rest.dropWhile Text.isDecimalDigit with
    | '.' :: fraction => isDigits fraction
    | _ => isDigits rest
  | _ => false

/-- The readings of an argument that is no exact spelling: as a long one cut short, or as a short
one with its value. -/
def readings (cs : List Char) : List (Flag × Option String) :=
  match cs with
  | '-' :: '-' :: _ =>
    let (stem, value) := splitEquals cs
    spellings.filterMap fun e =>
      if stem.isPrefixOf e.1.toList then some (e.2, value) else none
  | '-' :: c :: value =>
    spellings.filterMap fun e =>
      if e.1.toList = ['-', c] then some (e.2, some (String.ofList value)) else none
  | _ => []

/-- What an argument without any reading as a flag is taken for. -/
def unread (cs : List Char) : Argument :=
  if isNegativeNumber cs || cs.contains ' ' then .plain (String.ofList cs) else .unknown

/-- What an argument before the separator is taken for; nothing if it could be several flags. -/
def classify (s : String) : Option Argument :=
  let cs := s.toList
  if cs.head? ≠ some '-' ∨ cs.length = 1 then some (.plain s)
  else match spellings.lookup s with
    | some f => some (.flag f none)
    | none =>
      let (stem, value) := splitEquals cs
      match spellings.lookup (String.ofList stem), value with
      | some f, some v => some (.flag f (some v))
      | _, _ =>
        match readings cs with
        | [] => some (unread cs)
        | [(f, value)] => some (.flag f value)
        | _ => none

/-- What the arguments are taken for; nothing if one of them could be several flags. -/
def arguments : List String → Option (List Argument)
  | [] => some []
  | s :: rest =>
    if s = "--" then some (.separator :: rest.map .plain)
    else match classify s, arguments rest with
      | some a, some l => some (a :: l)
      | _, _ => none

end EventMarkup.Command
