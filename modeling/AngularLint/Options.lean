import AngularLint.Json.Value
import AngularLint.Number.Binary
import AngularLint.Text.Parts

/-! Options of rules. Every option has two spellings, of which the first counts if both are given;
the other key is then one key too many. All mistakes are collected: those of the options in the
order of the schema, then the unknown keys in the order given. -/

namespace AngularLint

structure OptionProblem where
  location : String
  code : String
deriving DecidableEq, Repr

/-- The two spellings of an option. -/
structure OptionField where
  name : String
  aliasName : String
deriving DecidableEq, Repr

inductive OptionValue where
  | text (value : String)
  | texts (values : List String)
  | flag (value : Bool)
deriving DecidableEq, Repr

namespace OptionField

def keyIn? (field : OptionField) (raw : JsonObject) : Option String :=
  if raw.contains field.aliasName then some field.aliasName
  else if raw.contains field.name then some field.name
  else none

/-- Reads one option: its value and the mistakes in it, or the default if it is not given. -/
def read {α : Type} (field : OptionField) (raw : JsonObject) (default : α)
    (value : String → Json → α × List OptionProblem) : α × List OptionProblem :=
  match field.keyIn? raw with
  | none => (default, [])
  | some key => value key ((raw.get? key).getD .null)

end OptionField

def textOption (key : String) : Json → String × List OptionProblem
  | .string value => (value, [])
  | _ => ("", [⟨key, "string_type"⟩])

/-- The texts of a list, and a mistake for each item that is none; `index` is the position of the
first item. -/
def textItems (key : String) : Nat → List Json → List String × List OptionProblem
  | _, [] => ([], [])
  | index, item :: rest =>
    let (text, problems) := textOption s!"{key}.{index}" item
    let (texts, others) := textItems key (index + 1) rest
    (text :: texts, problems ++ others)

def textsOption (key : String) : Json → List String × List OptionProblem
  | .list items => textItems key 0 items
  | _ => ([], [⟨key, "tuple_type"⟩])

/-- The words for yes and no, in small or capital letters. -/
def flagOfWord? (word : String) : Option Bool :=
  let word := word.map Char.toLower
  if ["0", "off", "f", "false", "n", "no"].contains word then some false
  else if ["1", "on", "t", "true", "y", "yes"].contains word then some true
  else none

/-- The whole number of a double that is one and lies in the range of 64-bit words. -/
def wholeOfFloat? (x : Float) : Option Int :=
  match Number.Binary.ofFloat x with
  | .finite negative mantissa exponent =>
    let num := mantissa * Number.twoTo exponent
    let den := Number.twoTo (-exponent)
    let magnitude := Int.ofNat (num / den)
    if num % den != 0 || Number.wordBound ≤ num / den then none
    else some (if negative then -magnitude else magnitude)
  | _ => none

/-- An option that is a flag. Words, and the numbers 0 and 1, stand for flags. -/
def flagOption (key : String) (json : Json) : Bool × List OptionProblem :=
  let ofWhole (number : Int) : Bool × List OptionProblem :=
    if number == 0 then (false, [])
    else if number == 1 then (true, [])
    else (false, [⟨key, "bool_parsing"⟩])
  match json with
  | .bool value => (value, [])
  | .string word =>
    match flagOfWord? word with
    | some value => (value, [])
    | none => (false, [⟨key, "bool_parsing"⟩])
  | .int number =>
    if -Int.ofNat Number.wordBound ≤ number && number < Int.ofNat Number.wordBound then
      ofWhole number
    else (false, [⟨key, "bool_type"⟩])
  | .float x =>
    match wholeOfFloat? x with
    | some number => ofWhole number
    | none => (false, [⟨key, "bool_type"⟩])
  | _ => (false, [⟨key, "bool_type"⟩])

/-- The options that a rule takes: their spellings, how they are read, and their values. -/
structure OptionSchema (Settings : Type) where
  fields : List OptionField
  read : JsonObject → Settings × List OptionProblem
  entries : Settings → List (String × OptionValue)

namespace OptionSchema

def unknownKeys {Settings : Type} (schema : OptionSchema Settings) (raw : JsonObject) :
    List String :=
  let used := schema.fields.filterMap (·.keyIn? raw)
  raw.keys.filter fun key => !used.contains key

def resolve {Settings : Type} (schema : OptionSchema Settings) (raw : JsonObject) :
    Except (List OptionProblem) Settings :=
  let (settings, problems) := schema.read raw
  let unknown := (schema.unknownKeys raw).map fun key => ⟨key, "extra_forbidden"⟩
  if (problems ++ unknown).isEmpty then .ok settings else .error (problems ++ unknown)

end OptionSchema

def noOptions : OptionSchema Unit where
  fields := []
  read := fun _ => ((), [])
  entries := fun _ => []

end AngularLint
