/-!
# Paths

A path is a text whose pieces are separated by slashes. It is absolute if a slash comes first.
Empty pieces and pieces that are a single dot say nothing; only a dot at the very front of a
relative path counts, as the directory the path starts from.

`Path.join` gives the path of something relative to a directory, and `Path.parent?` the path
without its last piece that counts.
-/

namespace PipelineProfile.Path

/-- The pieces of a path. -/
def pieces (p : String) : List (List Char) := p.toList.splitOn '/'

/-- Whether a path begins at the root. -/
def isAbsolute (p : String) : Bool := p.toList.head? = some '/'

/-- The path of `name` as seen from `dir`. -/
def join (dir name : String) : String :=
  if isAbsolute name then name
  else if dir.isEmpty || dir.toList.getLast? = some '/' then dir ++ name
  else dir ++ "/" ++ name

/-! ## The directory above -/

/-- Whether a piece says nothing. -/
def isIdle (piece : List Char) : Bool := piece = [] || piece = ['.']

/-- Pieces without those at the end that say nothing. -/
def dropIdle (ps : List (List Char)) : List (List Char) := (ps.reverse.dropWhile isIdle).reverse

/-- The pieces of a relative path without those at the end that say nothing. -/
def dropIdleRelative : List (List Char) → List (List Char)
  | ['.'] :: ps => ['.'] :: dropIdle ps
  | ps => dropIdle ps

/-- The path without its last piece that counts, unless it has none. -/
def parent? (p : String) : Option String :=
  match p.toList with
  | '/' :: body =>
    match dropIdle (body.splitOn '/') with
    | [] => none
    | ps => some (String.ofList ('/' :: ['/'].intercalate (dropIdle ps.dropLast)))
  | body =>
    match dropIdleRelative (body.splitOn '/') with
    | [] => none
    | ps => some (String.ofList (['/'].intercalate (dropIdleRelative ps.dropLast)))

end PipelineProfile.Path
