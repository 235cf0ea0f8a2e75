import EventMarkup.Cause
import EventMarkup.Disk.Path

/-!
# Disks

The part of a file system that a run can see: a working directory, other directories, and files.
Finding a path fails if it is too long, or if a component on the way is missing, is a file or has
too long a name.
-/
namespace EventMarkup

/-- Directories and files by place. The working directory `home` and those above it are always
there. -/
structure Disk where
  home : Place := []
  directories : List Place := []
  files : List (Place × List UInt8) := []
  deriving Repr

namespace Disk

def isDirectory (d : Disk) (place : Place) : Bool :=
  place.isPrefixOf d.home || d.directories.contains place

def octets? (d : Disk) (place : Place) : Option (List UInt8) := d.files.lookup place

def isTooLong (name : String) : Bool := name.utf8ByteSize > 255

/-- The place that components lead to from another; all on the way must be directories. -/
def follow (d : Disk) (here : Place) : List String → Except Cause Place
  | [] => .ok here
  | name :: rest =>
    if d.isDirectory here then
      if isTooLong name then .error .nameTooLong
      else d.follow (if name = ".." then here.dropLast else here ++ [name]) rest
    else .error (if (d.octets? here).isSome then .notDirectory else .missing)

/-- The place of a file, present or not, that components lead to from another place. -/
def reach (d : Disk) (here : Place) (components : List String) : Except Cause Place := do
  let place ← d.follow here components
  if d.isDirectory place then throw .isDirectory
  return place

/-- Whether a path without idle components is longer than can be looked up. -/
def isTooLongPath (path : String) : Bool := (Path.normal path).utf8ByteSize ≥ 4096

/-- The place of a file, present or not, at a path. -/
def find (d : Disk) (path : String) : Except Cause Place :=
  if isTooLongPath path then .error .nameTooLong
  else d.reach (if Path.isAbsolute path then [] else d.home) (Path.components path)

/-- The octets of the file at a path. -/
def read (d : Disk) (path : String) : Except Cause (List UInt8) := do
  let place ← d.find path
  match d.octets? place with
  | some bytes => return bytes
  | none => throw .missing

/-- Files with one of them set to other octets. -/
def replace (place : Place) (bytes : List UInt8) :
    List (Place × List UInt8) → List (Place × List UInt8)
  | [] => [(place, bytes)]
  | (p, old) :: rest =>
    if p = place then (place, bytes) :: rest else (p, old) :: replace place bytes rest

def put (d : Disk) (place : Place) (bytes : List UInt8) : Disk :=
  { d with files := replace place bytes d.files }

def addDirectory (d : Disk) (place : Place) : Disk :=
  { d with directories := place :: d.directories }

def append (d : Disk) (place : Place) (bytes : List UInt8) : Disk :=
  d.put place ((d.octets? place).getD [] ++ bytes)

def overwrite (d : Disk) (place : Place) (bytes : List UInt8) : Disk :=
  d.put place (bytes ++ ((d.octets? place).getD []).drop bytes.length)

end Disk

end EventMarkup
