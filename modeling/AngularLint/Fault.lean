import AngularLint.Edit
import AngularLint.Selector.Reader

/-! Why a rule fails in the middle of its work. A fault has a kind and a message, and both show in
the report on the file. -/

namespace AngularLint

inductive Fault where
  | invalidSpan (invalid : InvalidSpan)
  | path (fault : Number.NumeralFault)
  | selector (fault : SelectorFault)
  | fix (fault : FixFault)
  | unknownMessage (id : String)
  /-- A class is left although none is open. -/
  | noOpenClass
  /-- A field that occurs more than once is taken for a single node. -/
  | repeatedField
  /-- Something is asked of a node where no node is visited. -/
  | noNode (member : String)
  /-- The root is asked for in a file that has not been parsed. -/
  | noProgram
  /-- Any other failure, under a name of the rule's choice. -/
  | other (kind message : String)
deriving DecidableEq, Repr

namespace Fault

def kind : Fault → String
  | .invalidSpan _ => "ValueError"
  | .path _ => "ValueError"
  | .selector (.position _) => "ValueError"
  | .selector _ => "SelectorError"
  | .fix _ => "FixError"
  | .unknownMessage _ => "KeyError"
  | .noOpenClass => "IndexError"
  | .repeatedField => "AttributeError"
  | .noNode _ => "AttributeError"
  | .noProgram => "AssertionError"
  | .other kind _ => kind

def message : Fault → String
  | .invalidSpan invalid => invalid.message
  | .path fault => fault.message
  | .selector fault => fault.message
  | .fix fault => fault.message
  | .unknownMessage id => Text.quoted id
  | .noOpenClass => "pop from empty list"
  | .repeatedField => "'tuple' object has no attribute 'kind'"
  | .noNode member => s!"'NoneType' object has no attribute {Text.quoted member}"
  | .noProgram => ""
  | .other _ message => message

/-- What is there; `member` cannot be asked of nothing. -/
def demand {α : Type} (member : String) : Option α → Except Fault α
  | some found => .ok found
  | none => .error (.noNode member)

def shown (fault : Fault) : String :=
  s!"{fault.kind}: {fault.message}"

end Fault

end AngularLint
