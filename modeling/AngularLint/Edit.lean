import AngularLint.Node

/-! Text edits and fixes. A fix is a list of edits of one source text, in order and apart from each
other, so they can be carried out together. -/

namespace AngularLint

/-- Puts a text in the place of a range of the source. -/
structure Edit where
  span : Span
  text : String
deriving DecidableEq, Repr

namespace Edit

def insertBefore (span : Span) (text : String) : Edit :=
  ⟨.point span.start, text⟩

def insertAfter (span : Span) (text : String) : Edit :=
  ⟨.point span.stop, text⟩

def replace (span : Span) (text : String) : Edit :=
  ⟨span, text⟩

def remove (span : Span) : Edit :=
  ⟨span, ""⟩

def apply (edit : Edit) (source : String) : String :=
  Text.splice source edit.span.start edit.span.stop edit.text

/-- The order of edits: by the start of their range, then by its end. -/
def notAfter (first second : Edit) : Bool :=
  !second.span.before first.span

/-- Edits in order; edits of one range stay as they were. -/
def sort (edits : List Edit) : List Edit :=
  edits.mergeSort notAfter

/-- Carries out edits, the last one first. -/
def applyAll (edits : List Edit) (source : String) : String :=
  edits.foldr apply source

end Edit

structure Fix where
  edits : List Edit
deriving DecidableEq, Repr

inductive FixFault where
  | noEdits
  | outside (span : Span) (sourceLength : Int)
  | overlapping (first second : Span)
deriving DecidableEq, Repr

def FixFault.message : FixFault → String
  | .noEdits => "A fix needs at least one edit"
  | .outside span sourceLength => s!"Edit {span.text} exceeds source length {sourceLength}"
  | .overlapping first second => s!"Overlapping edits {first.text} and {second.text}"

namespace Fix

def overlapping? : List Edit → Option (Edit × Edit)
  | first :: second :: rest =>
    if first.span.overlaps second.span then some (first, second) else overlapping? (second :: rest)
  | _ => none

/-- The fix of some edits of a source text. There has to be an edit, all edits end within the source
length that is given, and no two overlap. -/
def ofEdits (edits : List Edit) (sourceLength : Int) : Except FixFault Fix :=
  let ordered := Edit.sort edits
  if ordered.isEmpty then .error .noEdits
  else
    match ordered.find? fun edit => sourceLength < edit.span.stop with
    | some edit => .error (.outside edit.span sourceLength)
    | none =>
      match overlapping? ordered with
      | some (first, second) => .error (.overlapping first.span second.span)
      | none => .ok ⟨ordered⟩

def lastStop (fix : Fix) : Nat :=
  (fix.edits.map fun edit => edit.span.stop).foldl max 0

/-- The smallest range that holds every edit. -/
def span? (fix : Fix) : Option Span :=
  fix.edits.head?.bind fun edit => (Span.between edit.span.start fix.lastStop).toOption

def conflicts (fix other : Fix) : Bool :=
  fix.edits.any fun edit => other.edits.any fun foreign => edit.span.overlaps foreign.span

def apply (fix : Fix) (source : String) : String :=
  Edit.applyAll fix.edits source

def acceptFrom (accepted : List Fix) : List Fix → List Fix
  | [] => accepted
  | fix :: rest =>
    if accepted.any fix.conflicts then acceptFrom accepted rest
    else acceptFrom (accepted ++ [fix]) rest

/-- Goes through the fixes and accepts each one that conflicts with none accepted before. -/
def accept (fixes : List Fix) : List Fix :=
  acceptFrom [] fixes

def applyAccepted (fixes : List Fix) (source : String) : String × Nat :=
  let accepted := accept fixes
  (Edit.applyAll (Edit.sort (accepted.flatMap Fix.edits)) source, accepted.length)

end Fix

end AngularLint
