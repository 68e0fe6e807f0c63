import AngularLint.Engine
import AngularLint.Rules.ConstructorInjection
import AngularLint.Rules.DataFetch
import AngularLint.Rules.FeatureIsolation
import AngularLint.Rules.PromiseInObservable
import AngularLint.Rules.ProvidedInRoot
import AngularLint.Rules.ServiceInjection
import AngularLint.Rules.SignalInputs
import AngularLint.Rules.Standalone

/-! All rules, in the order in which they run, and the presets of their severities. -/

namespace AngularLint

def registry : List Rule :=
  [Rules.ProvidedInRoot.rule, Rules.ConstructorInjection.rule, Rules.Standalone.rule,
   Rules.PromiseInObservable.rule, Rules.FeatureIsolation.rule, Rules.SignalInputs.rule,
   Rules.ServiceInjection.rule, Rules.DataFetch.rule]

structure Preset where
  name : String
  severities : OrderedMap String Severity
deriving DecidableEq, Repr

/-- The severities of a preset: one for most rules, one for data fetching, and one for the rule that
overlaps another and has to be asked for. -/
def presetSeverities (most dataFetch overlapping : Severity) : OrderedMap String Severity :=
  .ofList
    [("enforce-injectable-provided-in-root", most), ("use-inject-function", most),
     ("enforce-standalone-components", most), ("no-promise-in-observable", most),
     ("enforce-feature-isolation", most), ("enforce-signal-inputs", most),
     ("no-component-data-fetch", dataFetch), ("enforce-inject-function", overlapping)]

def presets : List Preset :=
  [⟨"recommended", presetSeverities .error .warn .off⟩,
   ⟨"strict", presetSeverities .error .error .error⟩,
   ⟨"warnings", presetSeverities .warn .warn .off⟩]

structure UnknownPreset where
  name : String
deriving DecidableEq, Repr

def UnknownPreset.message (unknown : UnknownPreset) : String :=
  s!"Unknown preset: {Text.quoted unknown.name}. Valid presets: " ++
    Text.quotedList (presets.map Preset.name)

/-- The preset that is asked for: by name, else by the environment, else the recommended one. An
empty name asks for nothing, but an empty setting of the environment does. -/
def loadPreset (name environment : Option String) : Except UnknownPreset Preset :=
  let wanted := (name.filter fun name => !name.isEmpty).getD (environment.getD "recommended")
  match presets.find? fun preset => preset.name == wanted with
  | some preset => .ok preset
  | none => .error ⟨wanted⟩

end AngularLint
