import AngularLint.Selector

/-! The text form of selectors, `kind[path][path=literal]`. Blanks may stand just inside the
brackets and around the equals sign. A literal is a text in quotes, a number, or one of `true`,
`false` and `null`. -/

namespace AngularLint

open AngularLint.Text AngularLint.Number

inductive SelectorFault where
  | noKind (text : String)
  | malformed (offset : Nat) (text : String)
  | invalidKind (kind : String)
  | invalidPath (path text : String)
  | unrecognizedLiteral (literal text : String)
  /-- A position of a path that cannot be read as a number. -/
  | position (fault : NumeralFault)
deriving DecidableEq, Repr

def SelectorFault.message : SelectorFault → String
  | .noKind text => s!"Selector must start with a node kind: {quoted text}"
  | .malformed offset text =>
    s!"Malformed constraint at offset {offset} in selector {quoted text}"
  | .invalidKind kind => s!"Invalid node kind in selector: {quoted kind}"
  | .invalidPath path text => s!"Invalid attribute path {quoted path} in selector {quoted text}"
  | .unrecognizedLiteral literal text =>
    s!"Unrecognized literal {quoted literal} in selector {quoted text}"
  | .position fault => fault.message

def isIdentifierStart (c : Char) : Bool :=
  c.isAlpha || c == '_'

def isIdentifierChar (c : Char) : Bool :=
  c.isAlphanum || c == '_'

def isIdentifier : List Char → Bool
  | c :: rest => isIdentifierStart c && rest.all isIdentifierChar
  | [] => false

def isPathPart (part : String) : Bool :=
  isIdentifier part.toList || (!part.isEmpty && part.toList.all isDecimal)

def readPath (path text : String) : Except SelectorFault AttributePath :=
  if (splitOn path '.').all isPathPart then (AttributePath.read path).mapError .position
  else .error (.invalidPath path text)

/-- A backslash stands for the character after it, unless that is a line feed. -/
def unescape : List Char → List Char
  | '\\' :: c :: rest =>
    if c == '\n' then '\\' :: '\n' :: unescape rest else c :: unescape rest
  | c :: rest => c :: unescape rest
  | [] => []

/-- Reads a literal of the selector `text`. What starts with a quote is a text, and loses its first
and its last character. -/
def readLiteral (raw : List Char) (text : String) : Except SelectorFault Literal :=
  let literal := String.ofList raw
  if raw.head? == some '"' || raw.head? == some '\'' then
    .ok (.text (String.ofList (unescape (raw.drop 1).dropLast)))
  else if literal == "true" then .ok (.flag true)
  else if literal == "false" then .ok (.flag false)
  else if literal == "null" then .ok .null
  else
    match readInteger literal with
    | .ok value => .ok (.int value)
    | .error _ =>
      match readFloat? literal with
      | some value => .ok (.float value)
      | none => .error (.unrecognizedLiteral literal text)

/-- The characters up to a closing quote, the quote included, and the rest. After a backslash any
character but a line feed is taken. -/
def takeQuoted? (quote : Char) : List Char → Option (List Char × List Char)
  | [] => none
  | [c] => if c == quote then some ([c], []) else none
  | c :: next :: rest =>
    if c == quote then some ([c], next :: rest)
    else if c == '\\' then
      if next == '\n' then none
      else (takeQuoted? quote rest).map fun (taken, left) => (c :: next :: taken, left)
    else (takeQuoted? quote (next :: rest)).map fun (taken, left) => (c :: taken, left)

/-- What follows a closing bracket that comes next but for blanks. -/
def afterBracket? (text : List Char) : Option (List Char) :=
  match text.dropWhile isBlank with
  | ']' :: rest => some rest
  | _ => none

/-- A complete text in quotes up to the bracket that closes the constraint. -/
def quotedValue? (text : List Char) : Option (List Char × List Char) :=
  match text with
  | quote :: rest =>
    if quote == '"' || quote == '\'' then
      (takeQuoted? quote rest).bind fun (taken, left) =>
        (afterBracket? left).map fun after => (quote :: taken, after)
    else none
  | [] => none

/-- Characters without blanks up to the bracket that closes the constraint. -/
def bareValue? (text : List Char) : Option (List Char × List Char) :=
  let isBare (c : Char) := c != ']' && !isBlank c
  let taken := text.takeWhile isBare
  if taken.isEmpty then none
  else (afterBracket? (text.dropWhile isBare)).map fun after => (taken, after)

/-- Reads one constraint as it is written: its path, its literal if it has one, and the rest. -/
def takeConstraint? (text : List Char) : Option (List Char × Option (List Char) × List Char) :=
  match text with
  | '[' :: rest =>
    let isPathChar (c : Char) := c != ']' && c != '=' && !isBlank c
    let inside := rest.dropWhile isBlank
    let path := inside.takeWhile isPathChar
    if path.isEmpty then none
    else
      match (inside.dropWhile isPathChar).dropWhile isBlank with
      | ']' :: after => some (path, none, after)
      | '=' :: value =>
        let value := value.dropWhile isBlank
        ((quotedValue? value).or (bareValue? value)).map fun (raw, after) => (path, some raw, after)
      | _ => none
  | _ => none

theorem takeQuoted?_shorter {quote : Char} {text taken left : List Char}
    (found : takeQuoted? quote text = some (taken, left)) : left.length < text.length := by
  fun_induction takeQuoted? quote text generalizing taken left with
  | case1 => simp at found
  | case2 =>
    simp only [Option.some.injEq, Prod.mk.injEq] at found
    simp [← found.2]
  | case3 => simp at found
  | case4 =>
    simp only [Option.some.injEq, Prod.mk.injEq] at found
    simp [← found.2]
  | case5 => simp at found
  | case6 c next rest _ _ _ ih =>
    obtain ⟨⟨first, second⟩, h, eq⟩ := Option.map_eq_some_iff.1 found
    have shorter := ih h
    simp only [Prod.mk.injEq] at eq
    simp only [List.length_cons, ← eq.2]
    omega
  | case7 c next rest _ _ ih =>
    obtain ⟨⟨first, second⟩, h, eq⟩ := Option.map_eq_some_iff.1 found
    have shorter := ih h
    simp only [Prod.mk.injEq] at eq
    simp only [List.length_cons, ← eq.2] at shorter ⊢
    omega

theorem afterBracket?_shorter {text after : List Char} (found : afterBracket? text = some after) :
    after.length < text.length := by
  unfold afterBracket? at found
  have dropped := (List.dropWhile_suffix isBlank (l := text)).length_le
  split at found
  · rename_i rest h
    simp only [Option.some.injEq] at found
    rw [h, List.length_cons, found] at dropped
    omega
  · simp at found

theorem quotedValue?_shorter {text raw after : List Char}
    (found : quotedValue? text = some (raw, after)) : after.length < text.length := by
  unfold quotedValue? at found
  split at found
  · split at found
    · obtain ⟨⟨taken, left⟩, h, rest⟩ := Option.bind_eq_some_iff.1 found
      obtain ⟨closed, h', eq⟩ := Option.map_eq_some_iff.1 rest
      have first := takeQuoted?_shorter h
      have second := afterBracket?_shorter h'
      simp only [Prod.mk.injEq] at eq
      simp only [List.length_cons, ← eq.2]
      omega
    · simp at found
  · simp at found

theorem bareValue?_shorter {text raw after : List Char}
    (found : bareValue? text = some (raw, after)) : after.length < text.length := by
  unfold bareValue? at found
  dsimp only at found
  split at found
  · simp at found
  · obtain ⟨closed, h, eq⟩ := Option.map_eq_some_iff.1 found
    have first := afterBracket?_shorter h
    have second := (List.dropWhile_suffix (fun c => c != ']' && !isBlank c) (l := text)).length_le
    simp only [Prod.mk.injEq] at eq
    simp only [← eq.2]
    omega

theorem takeConstraint?_shorter {text path after : List Char} {value : Option (List Char)}
    (found : takeConstraint? text = some (path, value, after)) : after.length < text.length := by
  unfold takeConstraint? at found
  split at found
  · rename_i rest
    dsimp only at found
    split at found
    · simp at found
    · have first := (List.dropWhile_suffix isBlank (l := rest)).length_le
      have second := (List.dropWhile_suffix (fun c => c != ']' && c != '=' && !isBlank c)
        (l := rest.dropWhile isBlank)).length_le
      have third := (List.dropWhile_suffix isBlank (l := (rest.dropWhile isBlank).dropWhile
        (fun c => c != ']' && c != '=' && !isBlank c))).length_le
      split at found
      · rename_i closed h
        simp only [Option.some.injEq, Prod.mk.injEq] at found
        rw [h, List.length_cons] at third
        simp only [List.length_cons, ← found.2.2]
        omega
      · rename_i written h
        rw [h, List.length_cons] at third
        have fourth := (List.dropWhile_suffix isBlank (l := written)).length_le
        obtain ⟨⟨raw, left⟩, some_value, eq⟩ := Option.map_eq_some_iff.1 found
        have fifth : left.length < (written.dropWhile isBlank).length := by
          rcases Option.or_eq_some_iff.1 some_value with h' | ⟨_, h'⟩
          · exact quotedValue?_shorter h'
          · exact bareValue?_shorter h'
        simp only [Prod.mk.injEq] at eq
        simp only [List.length_cons, ← eq.2.2]
        omega
      · simp at found
  · simp at found

/-- Reads the constraints that are left of a selector; `size` is the length of the whole selector
without outer blanks. -/
def readConstraints (text : String) (size : Nat) (rest : List Char) (done : List Constraint) :
    Except SelectorFault (List Constraint) :=
  if rest.isEmpty then .ok done.reverse
  else
    match _found : takeConstraint? rest with
    | none => .error (.malformed (size - rest.length) text)
    | some (path, value, after) =>
      match readPath (String.ofList path) text with
      | .error fault => .error fault
      | .ok path =>
        match value with
        | none => readConstraints text size after (⟨path, none⟩ :: done)
        | some raw =>
          match readLiteral raw text with
          | .error fault => .error fault
          | .ok literal => readConstraints text size after (⟨path, some literal⟩ :: done)
termination_by rest.length
decreasing_by all_goals exact takeConstraint?_shorter _found

namespace Selector

def read (text : String) : Except SelectorFault Selector :=
  let stripped := (strip text).toList
  if (stripped.head?.any isIdentifierStart) then
    let kind := stripped.takeWhile isIdentifierChar
    (readConstraints text stripped.length (stripped.dropWhile isIdentifierChar) []).map
      fun constraints => ⟨String.ofList kind, constraints⟩
  else .error (.noKind text)

def ofParts (kind : String) (constraints : List Constraint) : Except SelectorFault Selector :=
  if isIdentifier kind.toList then .ok ⟨kind, constraints⟩ else .error (.invalidKind kind)

end Selector

def Constraint.ofPath (path : String) (expected : Option Literal) :
    Except SelectorFault Constraint :=
  (readPath path path).map fun segments => ⟨segments, expected⟩

end AngularLint
