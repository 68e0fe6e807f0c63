import AngularLint.Text.Parts

/-! Paths of files: parts between slashes. Empty parts and `.` are left out, `..` is kept. -/

namespace AngularLint

open AngularLint.Text

/-- A path. The slashes at the start of an absolute path are one, or exactly two. -/
structure FilePath where
  slashes : Nat
  parts : List String
deriving DecidableEq, Repr

namespace FilePath

def ofText (text : String) : FilePath :=
  let count := (text.toList.takeWhile (· == '/')).length
  ⟨if count > 2 then 1 else count,
    (splitOn text '/').filter fun part => !part.isEmpty && part != "."⟩

def text (path : FilePath) : String :=
  let whole := String.ofList (List.replicate path.slashes '/') ++ join "/" path.parts
  if whole.isEmpty then "." else whole

def below (path : FilePath) (parts : List String) : FilePath :=
  ⟨path.slashes, path.parts ++ parts⟩

/-- The part of a name from its last point on, if that point is neither the first nor the last
character. -/
def suffix (name : String) : String :=
  let reversed := name.toList.reverse
  let after := reversed.takeWhile (· != '.')
  let before := (reversed.dropWhile (· != '.')).drop 1
  if after.isEmpty || before.isEmpty then "" else String.ofList ('.' :: after.reverse)

end FilePath

end AngularLint
