/-!
# Names of files

A path is a text in which slashes separate names.  A trailing slash, repeated
slashes and single dots do not count as names.
-/

namespace Pipewright

namespace FileName

/-- The parts of a path between its slashes. -/
def parts (path : String) : List String :=
  (path.toList.splitOn '/').map String.ofList

/-- A path followed by a name.  A name that begins with a slash stands alone. -/
def join (path name : String) : String :=
  if path.isEmpty || name.startsWith "/" then name
  else if path.endsWith "/" then path ++ name
  else path ++ "/" ++ name

/-- The last name of a path, unless it is that of a parent directory. -/
def last? (path : String) : Option String :=
  match ((parts path).filter fun part => part != "" && part != ".").getLast? with
  | some ".." => none
  | name => name

/-- A name cut before its last dot: the stem and the extension.  A dot at the
beginning does not count. -/
def split (name : String) : String × Option String :=
  let characters := name.toList.reverse
  match characters.dropWhile (· != '.') with
  | _ :: stem =>
      if stem.isEmpty then (name, none)
      else
        (String.ofList stem.reverse,
          some (String.ofList (characters.takeWhile (· != '.')).reverse))
  | [] => (name, none)

/-- The last name of a path without its extension. -/
def stem? (path : String) : Option String :=
  (last? path).map fun name => (split name).1

/-- The extension of the last name of a path. -/
def extension? (path : String) : Option String :=
  (last? path).bind fun name => (split name).2

end FileName

end Pipewright
