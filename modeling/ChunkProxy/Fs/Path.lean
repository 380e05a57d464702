/-!
# Virtual paths

Virtual paths are slash-separated.  The leaf of a path is its last segment
after trailing slashes are dropped; it names the registered object, whatever
shard directories stand before it.  A directory path is cleaned of empty and
`.` segments; the root is the empty path.  The file name of a path is its
last component other than `.`, and its extension the text after the last dot
of the file name when the name has a dot that is not its first character.
-/

namespace ChunkProxy.Fs

set_option autoImplicit false

/-- The last segment of a path, trailing slashes ignored. -/
def leafName (path : String) : String :=
  let trimmed := (path.toList.reverse.dropWhile (· == '/')).reverse
  String.ofList (trimmed.reverse.takeWhile (· ≠ '/')).reverse

/-- A directory path without empty or `.` segments. -/
def cleanDir (dir : String) : String :=
  "/".intercalate (((dir.toList.splitOn '/').map String.ofList).filter fun s => !s.isEmpty && s != ".")

/-- The path of a name in a directory; at the root, the name alone. -/
def joinDir (dir name : String) : String := if dir.isEmpty then name else dir ++ "/" ++ name

/-- What follows a directory and a slash in a path; at the root, the whole path. -/
def relativeTo (dir path : String) : Option String :=
  if dir.isEmpty then some path
  else ((path.dropPrefix? dir).bind fun rest => rest.toString.dropPrefix? "/").map (·.toString)

/-- The parent of a clean directory path: the text before its last slash, or the root. -/
def parentDir (dir : String) : String :=
  let cs := dir.toList
  if cs.contains '/' then
    String.ofList (cs.reverse.dropWhile (· ≠ '/')).reverse.dropLast
  else ""

/-- The file name of a path: its last component, trailing slashes ignored. -/
def fileName (path : String) : Option String :=
  let comps := (path.splitOn "/").filter fun c => !c.isEmpty && c != "."
  match comps.getLast? with
  | some ".." => none
  | some c => some c
  | none => none

/-- The extension of a path: the text after the last dot of its file name, when the
name has a dot that is not its first character. -/
def extension (path : String) : Option String :=
  match fileName path with
  | none => none
  | some name =>
    let cs := name.toList
    if !cs.contains '.' then none
    else
      let after := cs.reverse.takeWhile (· ≠ '.') |>.reverse
      let before := (cs.reverse.dropWhile (· ≠ '.')).drop 1
      if before.isEmpty then none else some (String.ofList after)

end ChunkProxy.Fs
