/-!
# Attribute scopes

Which attribute names a construct lets through is settled by its scope. Every scope but `basic`
adds names to the five of `basic`.
-/
namespace EventMarkup

inductive Scope where
  | basic
  | heading
  | verbatim
  | rule
  | link
  | table
  | row
  | cell
  | image
  | lineBreak
  deriving DecidableEq, Repr

namespace Scope

def all : List Scope :=
  [basic, heading, verbatim, rule, link, table, row, cell, image, lineBreak]

def key : Scope → String
  | basic => "base"
  | heading => "section"
  | verbatim => "verbatim"
  | rule => "hr"
  | link => "link"
  | table => "table"
  | row => "tr"
  | cell => "td"
  | image => "img"
  | lineBreak => "br"

def ofKey? (k : String) : Option Scope := all.find? fun s => s.key = k

/-- Names allowed everywhere. -/
def basicNames : List String := ["class", "id", "lang", "style", "title"]

/-- The names that a scope allows unless options say otherwise. -/
def defaultNames : Scope → List String
  | basic => basicNames
  | heading => basicNames ++ ["align"]
  | verbatim => basicNames ++ ["decoration", "align", "width"]
  | rule => basicNames ++ ["align", "noshade", "size", "width"]
  | link =>
    basicNames ++ ["charset", "coords", "hreflang", "name", "rel", "rev", "shape", "target", "type"]
  | table =>
    basicNames ++
      ["align", "bgcolor", "border", "cellpadding", "cellspacing", "frame", "rules", "summary",
        "width"]
  | row => basicNames ++ ["align", "bgcolor", "valign"]
  | cell =>
    basicNames ++
      ["abbr", "align", "axis", "bgcolor", "colspan", "headers", "height", "nowrap", "rowspan",
        "scope", "valign", "width"]
  | image =>
    basicNames ++
      ["align", "alt", "border", "height", "hspace", "ismap", "usemap", "vspace", "width"]
  | lineBreak => basicNames ++ ["clear"]

end Scope

end EventMarkup
