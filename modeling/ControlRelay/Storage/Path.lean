/-!
# Paths

A path names a file from the root or from the working directory by the names on the way to it.
Names that are empty or a single point say nothing and are left out, so two texts that name the
same file by the same way give the same `Path`.
-/

namespace ControlRelay.Storage

/-- The way to a file. -/
structure Path where
  rooted : Bool
  names : List String
  deriving DecidableEq, Repr

namespace Path

/-- The names between the slashes of a text. -/
def splitNames : List Char → List Char → List String
  | acc, [] => [String.ofList acc.reverse]
  | acc, c :: cs =>
    if c = '/' then String.ofList acc.reverse :: splitNames [] cs else splitNames (c :: acc) cs

/-- The path a text stands for.  Left out are the empty text, which stands for no file, and a text
that ends in a slash, which stands for a directory only: they are taken for the working directory
and for the text without the slash. -/
def ofText (text : String) : Path where
  rooted := text.toList.head? = some '/'
  names := (splitNames [] text.toList).filter fun n => n != "" && n != "."

/-- The directory that holds the file, if the path has a name. -/
def parent? (p : Path) : Option Path :=
  match p.names.getLast? with
  | none => none
  | some _ => some { p with names := p.names.dropLast }

/-- The part of a file name before its last point; a point at the very beginning does not
count. -/
def stem (name : String) : String :=
  match (name.toList.reverse.dropWhile (· != '.')).drop 1 with
  | [] => name
  | reversed => String.ofList reversed.reverse

/-- The path with another extension after the last name.  A path that ends in no proper name
stays as it is. -/
def withExtension (p : Path) (extension : String) : Path :=
  match p.names.getLast? with
  | none => p
  | some name =>
    if name = ".." then p
    else { p with names := p.names.dropLast ++ [stem name ++ "." ++ extension] }

end Path

end ControlRelay.Storage
