import AngularLint.Text.Parts

/-! Paths of files and modules as texts, their parts separated by slashes. -/

namespace AngularLint.ModulePath

open AngularLint.Text

def trimEnd (path : List Char) : List Char :=
  (path.reverse.dropWhile (· == '/')).reverse

/-- The path up to its last slash, without slashes at its end unless there is nothing else. -/
def directory (path : String) : String :=
  let head := (path.toList.reverse.dropWhile (· != '/')).reverse
  String.ofList (if head.all (· == '/') then head else trimEnd head)

/-- A path below a directory; an absolute path stands for itself. -/
def append (directory path : String) : String :=
  if startsWith path "/" then path
  else if directory.isEmpty || endsWith directory "/" then directory ++ path
  else directory ++ "/" ++ path

/-- Takes in one part of a path. A part `..` takes the part before it back, if there is one that is
not `..` itself; above the root it changes nothing. The parts are held with the last one first. -/
def addPart (rooted : Bool) (parts : List String) (part : String) : List String :=
  if part.isEmpty || part == "." then parts
  else if part != ".." then part :: parts
  else
    match parts with
    | [] => if rooted then [] else [part]
    | last :: outer => if last == ".." then part :: parts else outer

/-- How many slashes a normal path starts with: two stay two, more than two count as one. -/
def leadingSlashes (path : List Char) : Nat :=
  let count := (path.takeWhile (· == '/')).length
  if count > 2 then 1 else count

/-- The path without empty parts, `.` and parts that `..` takes back. -/
def normalize (path : String) : String :=
  let slashes := leadingSlashes path.toList
  let parts := ((splitOn path '/').foldl (addPart (slashes > 0)) []).reverse
  let normal := String.ofList (List.replicate slashes '/') ++ join "/" parts
  if normal.isEmpty then "." else normal

end AngularLint.ModulePath
