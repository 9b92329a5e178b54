import ChatOps.Text.Split

/-!
# File names

The last component of a slash-separated path, and that component without its
extension.  Empty components and the component `.` count for nothing, and a path
that ends in `..` or has no component names no file.
-/

set_option autoImplicit false

namespace ChatOps.Text

/-- The components of a path that name something. -/
def pathComponents (path : List Char) : List (List Char) :=
  (splitOn (· == '/') path).filter fun component =>
    !(component == [] || component == ['.'])

/-- The name of the file that a path leads to. -/
def fileName? (path : List Char) : Option (List Char) :=
  match (pathComponents path).getLast? with
  | some name => if name = ['.', '.'] then none else some name
  | none => none

/-- The text before the last separator. -/
def beforeLast? (separator : Char) (text : List Char) : Option (List Char) :=
  (cut? separator text.reverse).map fun halves => halves.2.reverse

/-- A file name without its extension; a leading dot starts no extension. -/
def stem (name : List Char) : List Char :=
  match beforeLast? '.' name with
  | none => name
  | some [] => name
  | some front => front

/-- The name of the file that a path leads to, without its extension. -/
def fileStem? (path : List Char) : Option (List Char) :=
  (fileName? path).map stem

end ChatOps.Text
