import AngularLint.Files.Store

/-! The source files under some paths. A path that is no directory stands for itself; a directory
stands for the TypeScript files below it, without declaration files and without the folders of
packages and build results. -/

namespace AngularLint

def skippedFolders : List String := ["node_modules", ".angular", "dist", ".git"]

/-- Is this the name of a TypeScript file with code in it? -/
def isSourceName (name : String) : Bool :=
  [".ts", ".tsx"].contains (FilePath.suffix name) && !Text.endsWith name ".d.ts"

def isSourcePlace (parts : List String) : Bool :=
  !parts.any skippedFolders.contains && parts.getLast?.any isSourceName

def sourcesAt (store : FileStore) (path : FilePath) : Except FileFault (List FilePath) :=
  match store.isDirectory path with
  | .error fault => .error fault
  | .ok false => .ok [path]
  | .ok true =>
    match store.locate path with
    | .error fault => .error fault
    | .ok (place, _) => .ok (((store.filesBelow place).filter isSourcePlace).map path.below)

end AngularLint
