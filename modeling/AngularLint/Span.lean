import AngularLint.Number.Binary

/-! Half-open ranges of characters in a source text. -/

namespace AngularLint

structure Span where
  start : Nat
  stop : Nat
  ordered : start ≤ stop := by omega
deriving DecidableEq, Repr

structure InvalidSpan where
  start : Int
  stop : Int
deriving DecidableEq, Repr

def InvalidSpan.message (invalid : InvalidSpan) : String :=
  s!"Invalid span: [{invalid.start}, {invalid.stop})"

structure Uncountable where
  span : Span
deriving DecidableEq, Repr

def Uncountable.message (_ : Uncountable) : String :=
  Number.wordMessage

namespace Span

/-- The range between two numbers, if they are not negative and in order. -/
def between (start stop : Int) : Except InvalidSpan Span :=
  if h : 0 ≤ start ∧ start ≤ stop then .ok ⟨start.toNat, stop.toNat, by omega⟩
  else .error ⟨start, stop⟩

def point (offset : Nat) : Span :=
  ⟨offset, offset, Nat.le_refl offset⟩

def length (span : Span) : Nat :=
  span.stop - span.start

/-- Counts the characters of the range. The count has to fit in a word. -/
def count (span : Span) : Except Uncountable Nat :=
  if span.length < Number.wordBound then .ok span.length else .error ⟨span⟩

def isEmpty (span : Span) : Bool :=
  span.start == span.stop

def contains (span other : Span) : Bool :=
  span.start ≤ other.start && other.stop ≤ span.stop

/-- Do the ranges share a character, or are they one and the same insertion point? -/
def overlaps (span other : Span) : Bool :=
  (span.isEmpty && span == other) || (span.start < other.stop && other.start < span.stop)

/-- Ranges are ordered by their start, and with one start by their end. -/
def before (span other : Span) : Bool :=
  span.start < other.start || (span.start == other.start && span.stop < other.stop)

def text (span : Span) : String :=
  s!"Span(start={span.start}, end={span.stop})"

end Span

end AngularLint
