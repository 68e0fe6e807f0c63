import AngularLint.Json.Reader
import AngularLint.Text.Parts

/-! Options of a rule as one text, `RULE=JSON`. -/

namespace AngularLint

open AngularLint.Text

inductive RuleOptionFault where
  | shape (spec : String)
  | json (rule : String) (fault : Json.Fault)
  | notAnObject (rule : String)
  /-- A number in the options that is too long. -/
  | number (fault : Number.NumeralFault)
  /-- A list or an object in the options that stands too deep in others. -/
  | nesting (isObject : Bool)
  /-- There is no text at all. -/
  | missing
deriving DecidableEq, Repr

def RuleOptionFault.message : RuleOptionFault → String
  | .shape spec => s!"Expected RULE=JSON, got {quoted spec}"
  | .json rule fault => s!"Invalid JSON for rule {quoted rule}: {fault.message}"
  | .notAnObject rule => s!"Options for rule {quoted rule} must be a JSON object"
  | .number fault => fault.message
  | .nesting isObject => (Json.Fault.tooDeep isObject).message
  | .missing => "'list' object has no attribute 'partition'"

/-- Does the fault break off the whole run, without a word about the options? -/
def RuleOptionFault.breaksOff : RuleOptionFault → Bool
  | .nesting _ => true
  | .missing => true
  | _ => false

def readRuleOption (spec : String) : Except RuleOptionFault (String × JsonObject) :=
  match splitAtFirst? ['='] spec.toList with
  | none => .error (.shape spec)
  | some (before, after) =>
    let rule := strip (String.ofList before)
    if rule.isEmpty then .error (.shape spec)
    else
      match Json.read (String.ofList after) with
      | .error (.number fault) => .error (.number fault)
      | .error (.tooDeep isObject) => .error (.nesting isObject)
      | .error fault => .error (.json rule fault)
      | .ok (.object members) => .ok (rule, ⟨members⟩)
      | .ok _ => .error (.notAnObject rule)

def readGivenOption : Option String → Except RuleOptionFault (String × JsonObject)
  | some spec => readRuleOption spec
  | none => .error .missing

end AngularLint
