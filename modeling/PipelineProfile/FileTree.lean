import PipelineProfile.Path

/-!
# File trees

A file system as far as a profile sees it: what stands at each address, and how a path leads to
one. An address is the list of names from the root of the tree down. An absolute path is followed
from the root and any other one from the working directory, piece by piece. Every piece, idle ones
too, needs a directory to start from, so a slash behind the name of a file leads nowhere. The
directory above the root is the root itself. There are no links.

A file can be written wherever a path leads to a file, or to a free place in a directory.
-/

namespace PipelineProfile

/-- What stands at an address. -/
inductive FileNode where
  | directory
  | file (bytes : List UInt8)
  deriving DecidableEq, Repr

/-- Directories and files by their addresses, and the address of the working directory. -/
structure FileTree where
  node? : List String → Option FileNode
  workDir : List String

namespace FileTree

/-- The tree with nothing but its root and an empty working directory there. -/
def empty : FileTree where
  node? address := if address = [] || address = ["work"] then some .directory else none
  workDir := ["work"]

/-- The tree with a node put at an address. -/
def putAt (t : FileTree) (address : List String) (node : FileNode) : FileTree :=
  { t with node? a := if a = address then some node else t.node? a }

/-- The tree with a node put in the working directory, at an address that is counted from there. -/
def put (t : FileTree) (address : List String) (node : FileNode) : FileTree :=
  t.putAt (t.workDir ++ address) node

/-! ## Following paths -/

/-- Where one piece of a path leads from an address. -/
def step (t : FileTree) (here : List String) (piece : String) : Option (List String) :=
  match t.node? here with
  | some .directory =>
    if piece = "" || piece = "." then some here
    else if piece = ".." then some here.dropLast
    else some (here ++ [piece])
  | _ => none

/-- The address from which a path is followed. -/
def start (t : FileTree) (path : String) : List String :=
  if Path.isAbsolute path then [] else t.workDir

/-- Where a path leads. -/
def locate? (t : FileTree) (path : String) : Option (List String) :=
  if path = "" then none
  else ((Path.pieces path).map String.ofList).foldlM t.step (t.start path)

/-! ## Reading and writing -/

/-- The bytes of the file that a path leads to. -/
def read? (t : FileTree) (path : String) : Option (List UInt8) :=
  match (t.locate? path).bind t.node? with
  | some (.file bytes) => some bytes
  | _ => none

/-- Whether a path leads to a file. -/
def isFile (t : FileTree) (path : String) : Bool := (t.read? path).isSome

/-- The tree with a file written, if the path allows it. -/
def write? (t : FileTree) (path : String) (bytes : List UInt8) : Option FileTree :=
  match t.locate? path with
  | none => none
  | some address =>
    match t.node? address with
    | some .directory => none
    | _ => some (t.putAt address (.file bytes))

/-- The tree with a directory at every prefix of an address in the working directory. -/
def putDirectories (t : FileTree) (address : List String) : FileTree :=
  (List.range (address.length + 1)).foldl (fun t n => t.put (address.take n) .directory) t

end FileTree

end PipelineProfile
