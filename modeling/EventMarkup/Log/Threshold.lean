import EventMarkup.Fault

/-!
# Thresholds

The least rank of notices that a log shows, given by number or by name. Case does not matter to
names; unknown ones stand for warnings. Two names stand for settings of the log that are no levels,
and are refused.
-/
namespace EventMarkup.Log

inductive Threshold where
  | rank (n : Int)
  | named (name : String)
  deriving DecidableEq, Repr

/-- What a name of the log's settings stands for. -/
inductive Setting where
  | rank (n : Int)
  | layout (text : String)
  | table (shown : String)
  deriving DecidableEq, Repr

/-- The usual layout of a line, which is a setting of its own. -/
def usualLayout : String := "%(levelname)s:%(name)s:%(message)s"

/-- The table of layouts as it is shown: a marker with its kind and its usual layout each. -/
def layoutTable : String :=
  let entry := fun marker kind layout =>
    Text.quoted marker ++ ": (<class 'logging." ++ kind ++ "'>, " ++ Text.quoted layout ++ ")"
  "\x7b" ++ String.intercalate ", "
    [entry "%" "PercentStyle" usualLayout,
      entry "\x7b" "StrFormatStyle" "\x7blevelname\x7d:\x7bname\x7d:\x7bmessage\x7d",
      entry "$" "StringTemplateStyle" "$\x7blevelname\x7d:$\x7bname\x7d:$\x7bmessage\x7d"] ++ "\x7d"

def settings : List (String × Setting) :=
  [("CRITICAL", .rank 50), ("FATAL", .rank 50), ("ERROR", .rank 40), ("WARNING", .rank 30),
    ("WARN", .rank 30), ("INFO", .rank 20), ("DEBUG", .rank 10), ("NOTSET", .rank 0),
    ("BASIC_FORMAT", .layout usualLayout), ("_STYLES", .table layoutTable)]

/-- The upper case of a character, as far as names of settings have it: besides the ASCII letters
the dotless i, the long s and the ligatures of s and t matter. -/
def upperChar (c : Char) : List Char :=
  if c = 'ı' then ['I']
  else if c = 'ſ' then ['S']
  else if c = 'ﬅ' ∨ c = 'ﬆ' then ['S', 'T']
  else [c.toUpper]

/-- The rank that a threshold stands for. -/
def Threshold.resolve : Threshold → Except Fault Int
  | rank n => .ok n
  | named name =>
    match settings.lookup (String.ofList (name.toList.flatMap upperChar)) with
    | none => .ok 30
    | some (.rank n) => .ok n
    | some (.layout text) => .error (.unknownLevel text)
    | some (.table shown) => .error (.notALevel shown)

end EventMarkup.Log
