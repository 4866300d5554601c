import GrammarSets.Source

/-!
# Files by path

A folder knows its files by their paths from the folder, and the few places that
stand at the root of every system by their paths from the root. A path is
followed from component to component, as a file system does: `.` stays, `..` goes
up, only a directory has anything below it, and a slash at the end asks for a
directory. Nothing is known of the directories between the folder and the root
but that they are there.
-/
namespace GrammarSets

/-- What stands at a path. -/
inductive Content where
  | file (bytes : List UInt8)
  | directory
deriving DecidableEq

/-- The lines of what was found; a directory can be opened, but its first line cannot be
read. -/
def Content.lines : Content → List Line
  | .file bytes => Line.ofBytes bytes
  | .directory => [.error .directory]

/-- Contents by path components. -/
abbrev Tree := List (List String × Content)

/-- A folder that lies `depth` levels below the root, what is in it, and what is known from
the root on. -/
structure Folder where
  depth : Nat
  inner : Tree
  outer : Tree

/-- A place that a path has led to. Paths here have their innermost component first. -/
inductive Place where
  /-- A place in the folder. -/
  | inside (path : List String) (content : Content)
  /-- The directory so many levels above the folder, short of the root. -/
  | above (levels : Nat)
  /-- A place that is known from the root on. -/
  | outside (path : List String) (content : Content)

namespace Place

/-- What stands at a place. -/
def content : Place → Content
  | inside _ content => content
  | above _ => .directory
  | outside _ content => content

end Place

namespace Folder

/-- The longest path and the longest component that can be looked up, in bytes. -/
def longestPath : Nat := 4095

def longestName : Nat := 255

/-- The components of a path; `""` stands between two slashes side by side. -/
def components (path : String) : List String :=
  (path.toList.splitOn '/').map String.ofList

/-- Whether a component leads nowhere else. -/
def stays (component : String) : Bool := component = "" || component = "."

/-- What has to be made for a content to stand at some components below a directory: every
directory on the way, and the content last. -/
def made (content : Content) : List String → List String → Tree
  | path, [] => [(path.reverse, content)]
  | path, component :: rest =>
      let next :=
        if stays component then path
        else if component = ".." then path.tail
        else component :: path
      if rest.isEmpty then [(next.reverse, content)]
      else (next.reverse, .directory) :: made content next rest

/-- What contents by name amount to; a later one takes the place of an earlier one. -/
def tree (named : List (String × Content)) : Tree :=
  (named.flatMap fun e => made e.2 [] (components e.1)).reverse

/-- The directories at the root of a system, and the empty device. -/
def system : Tree :=
  (["dev", "null"], .file []) ::
    ["bin", "boot", "dev", "etc", "home", "lib", "media", "mnt", "opt", "proc", "root", "run",
      "sbin", "srv", "sys", "tmp", "usr", "var"].map fun name => ([name], .directory)

/-- A folder with named contents, so many levels below the root. -/
def ofList (depth : Nat) (named : List (String × Content)) : Folder :=
  ⟨depth, tree named, system⟩

/-- A folder in which the device for the input holds some bytes. -/
def withInput (folder : Folder) (input : List UInt8) : Folder :=
  { folder with outer := (["dev", "stdin"], .file input) :: folder.outer }

/-- The directory so many levels above the folder. -/
def ancestor (folder : Folder) (levels : Nat) : Place :=
  if folder.depth ≤ levels then .outside [] .directory else .above levels

/-- The directory above a directory; above the root there is the root. -/
def parent (folder : Folder) : Place → Place
  | .inside [] _ => folder.ancestor 1
  | .inside (_ :: path) _ => .inside path .directory
  | .above levels => folder.ancestor (levels + 1)
  | .outside path _ => .outside path.tail .directory

/-- What is known under a name in a directory. -/
def child? (folder : Folder) (place : Place) (name : String) : Option Place :=
  match place with
  | .inside path _ => (folder.inner.lookup (name :: path).reverse).map (.inside (name :: path))
  | .above _ => none
  | .outside path _ => (folder.outer.lookup (name :: path).reverse).map (.outside (name :: path))

/-- Goes on from a place by one component. -/
def walk (folder : Folder) (place : Place) (component : String) : Except ReadFault Place :=
  if place.content ≠ .directory then .error .notDirectory
  else if stays component then .ok place
  else if component = ".." then .ok (folder.parent place)
  else if longestName < component.utf8ByteSize then .error .nameTooLong
  else
    match folder.child? place component with
    | some next => .ok next
    | none => .error .missing

/-- What a path leads to. -/
def find (folder : Folder) (path : String) : Except ReadFault Content := do
  if path.contains '\x00' then throw .invalidPath
  if path = "" then throw .missing
  if longestPath < path.utf8ByteSize then throw .nameTooLong
  let start := if path.startsWith "/" then .outside [] .directory else .inside [] .directory
  let place ← (components path).foldlM folder.walk start
  return place.content

end Folder
end GrammarSets
