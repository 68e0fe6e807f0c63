/-! Parts of texts: cutting them out, and finding them. Offsets count characters; an offset past the
end stands for the end. -/

namespace AngularLint.Text

/-- The characters from `start` up to `stop`. -/
def slice (text : String) (start stop : Nat) : String :=
  String.ofList ((text.toList.take stop).drop start)

def splice (text : String) (start stop : Nat) (replacement : String) : String :=
  String.ofList (text.toList.take start ++ replacement.toList ++ text.toList.drop stop)

/-- What stands before and after the first occurrence of `part`. -/
def splitAtFirst? (part : List Char) : List Char → Option (List Char × List Char)
  | [] => if part.isEmpty then some ([], []) else none
  | c :: rest =>
    if part.isPrefixOf (c :: rest) then some ([], (c :: rest).drop part.length)
    else (splitAtFirst? part rest).map fun (before, after) => (c :: before, after)

def contains (text part : String) : Bool :=
  (splitAtFirst? part.toList text.toList).isSome

def startsWith (text start : String) : Bool :=
  start.toList.isPrefixOf text.toList

def endsWith (text finish : String) : Bool :=
  finish.toList.isSuffixOf text.toList

/-- The parts between the occurrences of `separator`; a text without one is its only part. -/
def splitOn (text : String) (separator : Char) : List String :=
  (text.toList.splitOn separator).map String.ofList

def join (separator : String) (parts : List String) : String :=
  separator.intercalate parts

/-- The first result of `f` on the text, on the text without its first character, and so on down
to the empty text. -/
def firstTail? {α : Type} (f : List Char → Option α) : List Char → Option α
  | [] => f []
  | c :: rest => (f (c :: rest)).or (firstTail? f rest)

end AngularLint.Text
