import EventMarkup.Notice
import EventMarkup.State

/-!
# Reactions

What an event makes a sink do. The state changes before anything is written (`early`), then the
pieces are written one after the other, then the state changes again (`late`). If a piece cannot be
written, the pieces after it and the late change do not happen.
-/
namespace EventMarkup

structure Reaction where
  pieces : List String
  early : RenderState
  late : RenderState
  notices : List Notice
  deriving DecidableEq, Repr

namespace Reaction

/-- Changes the state, writes nothing. -/
def become (s : RenderState) : Reaction := ⟨[], s, s, []⟩

def write (s : RenderState) (pieces : List String) : Reaction := ⟨pieces, s, s, []⟩

/-- Changes nothing, tells the log. -/
def tell (s : RenderState) (n : Notice) : Reaction := ⟨[], s, s, [n]⟩

/-- The reaction, after which the state is another one. -/
def andThen (r : Reaction) (late : RenderState) : Reaction := { r with late }

/-- The reaction, with a notice in front. -/
def noting (r : Reaction) (ns : List Notice) : Reaction := { r with notices := ns ++ r.notices }

/-- Nothing at all in head mode, else the reaction. -/
def outsideHead (s : RenderState) (r : Reaction) : Reaction := if s.headMode then become s else r

end Reaction

end EventMarkup
