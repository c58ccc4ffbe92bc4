/-
This file holds positions and ranges of source text.
-/

namespace Lowering

/-- Lines and columns of a source file count from one, and zero stands for an unknown place. -/
structure Position where
  file : String
  line : UInt32
  column : UInt32
deriving DecidableEq, Repr, Inhabited

def Position.unknown : Position := ⟨"<unknown>", 0, 0⟩

def Position.text (position : Position) : String :=
  s!"{position.file}:{position.line}:{position.column}"

/-- A span runs between two positions, in one file or in two. -/
structure Span where
  start : Position
  stop : Position
deriving DecidableEq, Repr, Inhabited

namespace Span

/-- The empty span at a position. -/
def point (position : Position) : Span := ⟨position, position⟩

def unknown : Span := point Position.unknown

/-- The empty span right after a span. -/
def endPoint (span : Span) : Span := point span.stop

def isEmpty (span : Span) : Bool := span.start = span.stop

/-- What the end of a span shares with its start is left out. -/
def text (span : Span) : String :=
  if span.start.file ≠ span.stop.file then s!"{span.start.text} to {span.stop.text}"
  else if span.start.line ≠ span.stop.line then
    s!"{span.start.text}-{span.stop.line}:{span.stop.column}"
  else if span.start.column ≠ span.stop.column then s!"{span.start.text}-{span.stop.column}"
  else span.start.text

end Span

end Lowering
