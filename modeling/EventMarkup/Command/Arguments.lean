import EventMarkup.Command.Flag
import EventMarkup.Fault
import EventMarkup.Host
import EventMarkup.Notice

/-!
# Arguments

The arguments of the command line, read from left to right: one input, and flags in any order. Help
and version take effect where they stand. Everything else that is wrong with the arguments has them
refused.

Some hosts drop the separator from the argument of a flag. The flag is taken as given all the same,
with no word at all, whatever words it has a choice of; elsewhere the separator is its word.
-/
namespace EventMarkup.Command

open Text (LineEnding)

/-- What the arguments ask for. -/
structure Settings where
  input : Option String := none
  output : Option Word := none
  strict : Bool := false
  /-- The line ending, if the flag for it is given; nothing if it gets no word. -/
  lineEnding : Option (Option LineEnding) := none
  changes : OptionChanges := {}
  /-- The level of the log; nothing if the flag for it gets no word. -/
  logLevel : Option Level := some .warning
  logFile : Option Word := none
  trace : Bool := false

/-- What arguments amount to. -/
inductive Reading where
  | refused
  | help
  | version
  | run (input : String) (s : Settings)

def lineEndingNamed? (s : String) : Option LineEnding :=
  if s = "lf" then some .lf else if s = "crlf" then some .crlf
  else if s = "cr" then some .cr else none

/-- The word that a flag gets from the rest of its argument. -/
def attachedWord (host : Host) (s : String) : Word :=
  if s = "--" ∧ host.dropsSeparator then .nothing else .text s

def levelNamed? (s : String) : Option Level :=
  [Level.debug, .info, .warning, .error, .critical].find? fun l => l.name = s

namespace Settings

def amend (s : Settings) (f : OptionChanges → OptionChanges) : Settings :=
  { s with changes := f s.changes }

/-- The settings after a flag with its words, unless they do not suit it. -/
def apply (s : Settings) (f : Flag) (words : List Word) : Option Settings :=
  match f, words with
  | .strict, [] => some { s with strict := true }
  | .trace, [] => some { s with trace := true }
  | .output, [w] => some { s with output := some w }
  | .lineEnding, [.text t] =>
    (lineEndingNamed? t).map fun e => { s with lineEnding := some (some e) }
  | .lineEnding, [.nothing] => some { s with lineEnding := some none }
  | .rowClasses, [.text a, .text b] => some (s.amend fun c => { c with rowClasses := some [a, b] })
  | .encoding, [.text t] => some (s.amend fun c => { c with encoding := some t })
  | .encoding, [.nothing] => some (s.amend fun c => { c with encoding := some "" })
  | .sectionClass, [w] => some (s.amend fun c => { c with sectionClass := some w })
  | .tableClass, [w] => some (s.amend fun c => { c with tableClass := some w })
  | .figureClass, [w] => some (s.amend fun c => { c with figureClass := some w })
  | .externalLinkClass, [w] => some (s.amend fun c => { c with externalLinkClass := some w })
  | .sourceClass, [w] => some (s.amend fun c => { c with sourceClass := some w })
  | .qualifier, [w] => some (s.amend fun c => { c with qualifier := some (some w) })
  | .logLevel, [.text t] => (levelNamed? t).map fun l => { s with logLevel := some l }
  | .logLevel, [.nothing] => some { s with logLevel := none }
  | .logFile, [w] => some { s with logFile := some w }
  | _, _ => none

def optionChanges (s : Settings) : Except Fault OptionChanges :=
  match s.lineEnding with
  | none => .ok s.changes
  | some none => .error .unnamedLineEnding
  | some (some e) => .ok { s.changes with lineEnding := some e.text }

def options (s : Settings) : Except Fault Options := do
  let changes ← s.optionChanges
  (Options.usual.update changes).mapError .arguments

def outputPath (s : Settings) : Option String := s.output.bind Word.path?

def logPath (s : Settings) : Option String := s.logFile.bind Word.path?

end Settings

/-- What the arguments amount to at their end. -/
def finish (s : Settings) (spare : Bool) : Reading :=
  match s.input, spare with
  | some input, false => .run input s
  | _, _ => .refused

/-- Reads classified arguments. `spare` tells that there was one for which there is no use. -/
def walk (host : Host) (s : Settings) (spare : Bool) : List Argument → Reading
  | [] => finish s spare
  | .unknown :: rest => walk host s true rest
  | .plain v :: rest =>
    if s.input.isSome then walk host s true rest
    -- A separator directly behind the input is of no consequence.
    else if rest = [.separator] then finish { s with input := some v } spare
    else walk host { s with input := some v } spare rest
  | .separator :: rest =>
    match s.input, rest with
    | none, [.plain v] => finish { s with input := some v } spare
    | _, _ => .refused
  | .flag f (some v) :: rest =>
    match s.apply f [attachedWord host v] with
    | some s => walk host s spare rest
    | none => .refused
  | .flag .help none :: _ => .help
  | .flag .version none :: _ => .version
  | .flag .rowClasses none :: .plain a :: .plain b :: rest =>
    match s.apply .rowClasses [.text a, .text b] with
    | some s => walk host s spare rest
    | none => .refused
  | .flag f none :: rest =>
    match s.apply f [] with
    | some s => walk host s spare rest
    | none =>
      match rest with
      | .plain v :: rest =>
        match s.apply f [.text v] with
        | some s => walk host s spare rest
        | none => .refused
      | _ => .refused

/-- Reads arguments. The input is a path and loses its idle components. -/
def read (given : List String) (host : Host := {}) : Reading :=
  match arguments given with
  | none => .refused
  | some l =>
    match walk host {} false l with
    | .run input s => .run (Path.normal input) s
    | other => other

end EventMarkup.Command
