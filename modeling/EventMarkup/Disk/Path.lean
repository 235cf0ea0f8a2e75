/-!
# Paths

A path is written with slashes between its components. Empty components and `.` mean nothing;
`..` leads back to the directory above, which a reader of the path alone takes to be the component
before it.
-/
namespace EventMarkup

/-- The components that lead from the root to a place. -/
abbrev Place := List String

namespace Path

/-- The characters cut at every slash. -/
def cut : List Char → List (List Char)
  | [] => [[]]
  | c :: rest =>
    if c = '/' then [] :: cut rest
    else match cut rest with
      | [] => [[c]]
      | part :: parts => (c :: part) :: parts

def components (p : String) : List String :=
  ((cut p.toList).map String.ofList).filter fun c => c ≠ "" ∧ c ≠ "."

/-- The slashes that make a path absolute; exactly two of them are kept apart from one. -/
def root (p : String) : String :=
  match p.toList with
  | '/' :: '/' :: '/' :: _ => "/"
  | '/' :: '/' :: _ => "//"
  | '/' :: _ => "/"
  | _ => ""

/-- A path without empty components and dots; the working directory is a dot. -/
def normal (p : String) : String :=
  let t := root p ++ String.intercalate "/" (components p)
  if t = "" then "." else t

def isAbsolute (p : String) : Bool := p.toList.head? = some '/'

/-- The components with every `..` taken back; none leads above the root. -/
def settle (done : Place) : List String → Place
  | [] => done
  | c :: rest => settle (if c = ".." then done.dropLast else done ++ [c]) rest

/-- The place that a path names if every `..` is taken back lexically. -/
def place (home : Place) (p : String) : Place :=
  settle (if isAbsolute p then [] else home) (components p)

/-- Whether a path holds the null character, which ends every path. -/
def hasNull (p : String) : Bool := p.toList.contains '\x00'

/-- A path from the root on, with every `..` taken back lexically. -/
def absolute (home : Place) (p : String) : String :=
  (if root p = "//" then "//" else "/") ++ String.intercalate "/" (place home p)

/-- A place as an absolute path. -/
def ofPlace (p : Place) : String := "/" ++ String.intercalate "/" p

end Path

end EventMarkup
