/-
**A tree of files.**

Files, directories and symbolic links under one root, each known by the names on the way to it:

* `FileTree.resolve` follows a path: links are followed, and two dots lead to the directory above;
* `read`, `write`, `create`, `makeDirectory`, `copy`, `rename`, `remove` and their like are the
  operations that programs use;
* `FileTree.listing` lists what is below a directory.
-/

import Std.Data.ExtTreeMap
import Provision.Files.Error
import Provision.Files.Path
import Provision.Instant.Basic
import Provision.Text.Utf8

namespace Provision

/-- What a name in a directory stands for. -/
inductive Entry where
  | file (bytes : Bytes) (modified : Instant)
  | directory
  /-- A symbolic link to a path. -/
  | link (target : String)
  deriving DecidableEq, Repr

/-- How an entry is marked behind its name. -/
def Entry.mark : Entry → String
  | file _ _ => ""
  | directory => "/"
  | link _ => "@"

/-- The names on the way from the root. -/
abbrev Route := List String

/-- What an operation on a file answers. -/
abbrev FileAnswer := Except FileError

/-- Files, directories and links by their routes. The root itself is always a directory. -/
abbrev FileTree := Std.ExtTreeMap Route Entry

namespace FileTree

/-- What is at a route. -/
def entry? (tree : FileTree) : Route → Option Entry
  | [] => some .directory
  | route => tree[route]?

/-! ## Following paths -/

/-- Where a path leads. -/
inductive Place where
  | existing (route : Route) (entry : Entry)
  /-- Nothing is there, but the directory that it would be in exists. A path that ends in a slash
  can only become a directory. -/
  | vacant (route : Route) (slash : Bool)

/-- How the end of a path is treated. -/
structure Ending where
  /-- Whether a link there is followed. -/
  follow : Bool
  /-- Whether a file may be made there. A slash behind its name is then refused, whatever there is. -/
  make : Bool := false

/-- What a path leads to. -/
def Ending.target : Ending := { follow := true }

/-- What stands at the end of a path, even if it is a link. -/
def Ending.entry : Ending := { follow := false }

/-- A file that is written, and made if need be. -/
def Ending.written : Ending := { follow := true, make := true }

/-- A file that is made. -/
def Ending.made : Ending := { follow := false, make := true }

/-- Whether segments behind a name are nothing but slashes. -/
def areSlashes (segments : List String) : Bool := !segments.isEmpty && segments.all (· == "")

/-- How far a path can be followed without following a link. -/
inductive Reach where
  | place (place : Place)
  | stuck (error : FileError)
  /-- A link in a directory, and the rest of the path behind it. -/
  | link (directory : Route) (target : String) (rest : List String)

/-- The longest name that a directory can hold, in bytes. -/
def maximumName : Nat := 255

/-- The longest path that can be followed, in bytes. -/
def maximumPath : Nat := 4095

/-- How many links are followed on the way. -/
def maximumLinks : Nat := 40

/-- Follows segments from a directory up to the first link. -/
def reach (tree : FileTree) (ending : Ending) (directory : Route) : List String → Reach
  | [] => .place (.existing directory .directory)
  | segment :: rest =>
    if segment = "" ∨ segment = "." then reach tree ending directory rest
    else if segment = ".." then reach tree ending directory.dropLast rest
    else if ending.make && areSlashes rest then .stuck .isDirectory
    else if maximumName < segment.utf8ByteSize then .stuck .nameTooLong
    else
      let route := directory ++ [segment]
      match tree.entry? route with
      | none =>
        if rest.isEmpty || areSlashes rest then .place (.vacant route !rest.isEmpty)
        else .stuck .notFound
      | some .directory => reach tree ending route rest
      | some (.file bytes modified) =>
        if rest.isEmpty then .place (.existing route (.file bytes modified))
        else .stuck .notDirectory
      | some (.link target) =>
        if rest.isEmpty && !ending.follow then .place (.existing route (.link target))
        else .link directory target rest

/-- The directory in which a path starts. -/
def start (directory : Route) (path : String) : Route :=
  if Path.isAbsolute path then [] else directory

/-- Follows segments, through a number of links at most. -/
def resolveSegments (tree : FileTree) (ending : Ending) :
    Nat → Route → List String → FileAnswer Place
  | links, directory, segments =>
    match tree.reach ending directory segments with
    | .place place => .ok place
    | .stuck error => .error error
    | .link directory target rest =>
      match links with
      | 0 => .error .linkLoop
      | links + 1 =>
        if target.isEmpty then .error .notFound
        else
          resolveSegments tree ending links (start directory target)
            (Path.segments target ++ rest)

/-- Follows segments of a path from a directory. -/
def resolvePart (tree : FileTree) (ending : Ending) (directory : Route) (path : String)
    (segments : List String) : FileAnswer Place :=
  if path.toList.contains '\x00' then .error .badPath
  else if path.isEmpty then .error .notFound
  else if maximumPath < path.utf8ByteSize then .error .nameTooLong
  else resolveSegments tree ending maximumLinks (start directory path) segments

/-- Follows a path from a directory. -/
def resolve (tree : FileTree) (ending : Ending) (directory : Route) (path : String) :
    FileAnswer Place :=
  tree.resolvePart ending directory path (Path.segments path)

/-- Follows a path up to the directory that its last segment is in. -/
def resolveAbove (tree : FileTree) (directory : Route) (path : String) (above : List String) :
    FileAnswer Route := do
  match ← tree.resolvePart .target directory path (above ++ [""]) with
  | .existing route .directory => .ok route
  | .existing _ _ => .error .notDirectory
  | .vacant _ _ => .error .notFound

/-! ## Operations -/

/-- Reads a file. -/
def read (tree : FileTree) (directory : Route) (path : String) : FileAnswer Bytes := do
  match ← tree.resolve .target directory path with
  | .existing _ (.file bytes _) => .ok bytes
  | .existing _ _ => .error .isDirectory
  | .vacant _ _ => .error .notFound

/-- When a file was last written. -/
def modified (tree : FileTree) (directory : Route) (path : String) : FileAnswer Instant := do
  match ← tree.resolve .target directory path with
  | .existing _ (.file _ modified) => .ok modified
  | .existing _ _ => .error .isDirectory
  | .vacant _ _ => .error .notFound

/-- Writes a file, which is created if it does not exist. -/
def write (tree : FileTree) (directory : Route) (path : String) (bytes : Bytes) (now : Instant) :
    FileAnswer FileTree := do
  match ← tree.resolve .written directory path with
  | .existing route (.file _ _) => .ok (tree.insert route (.file bytes now))
  | .existing _ _ => .error .isDirectory
  | .vacant route false => .ok (tree.insert route (.file bytes now))
  | .vacant _ true => .error .isDirectory

/-- Writes a file that does not exist yet. -/
def create (tree : FileTree) (directory : Route) (path : String) (bytes : Bytes) (now : Instant) :
    FileAnswer FileTree := do
  match ← tree.resolve .made directory path with
  | .existing _ _ => .error .alreadyExists
  | .vacant route false => .ok (tree.insert route (.file bytes now))
  | .vacant _ true => .error .isDirectory

/-- Whether there is anything at the end of a path. -/
def exists? (tree : FileTree) (directory : Route) (path : String) : FileAnswer Bool :=
  match tree.resolve .target directory path with
  | .ok (.existing _ _) => .ok true
  | .ok (.vacant _ _) | .error .notFound => .ok false
  | .error error => .error error

/-- Whether a path leads to a directory. -/
def isDirectory (tree : FileTree) (directory : Route) (path : String) : Bool :=
  match tree.resolve .target directory path with
  | .ok (.existing _ .directory) => true
  | _ => false

/-- Makes a directory. Slashes behind its name do not count, and a link of that name is not
followed. -/
def makeDirectory (tree : FileTree) (directory : Route) (path : String) :
    FileAnswer FileTree := do
  match (Path.segments path).reverse.dropWhile (· == "") with
  | [] => if path.isEmpty then .error .notFound else .error .alreadyExists
  | name :: above =>
    let route := (← tree.resolveAbove directory path above.reverse) ++ [name]
    if name = "." ∨ name = ".." then .error .alreadyExists
    else if maximumName < name.utf8ByteSize then .error .nameTooLong
    else if (tree.entry? route).isSome then .error .alreadyExists
    else .ok (tree.insert route .directory)

/-- Whether a path leads to a route. -/
def leadsTo (tree : FileTree) (directory : Route) (path : String) (route : Route) : Bool :=
  match tree.resolve .target directory path with
  | .ok (.existing other _) => other == route
  | _ => false

/-- Copies a file. The target is emptied before anything is read, so that a file that is copied onto
itself is lost. -/
def copy (tree : FileTree) (directory : Route) (source target : String) (now : Instant) :
    FileAnswer FileTree := do
  match ← tree.resolve .target directory source with
  | .existing route (.file bytes _) =>
    tree.write directory target (if tree.leadsTo directory target route then [] else bytes) now
  | .existing _ _ => .error .notRegular
  | .vacant _ _ => .error .notFound

/-- Gives a file or a link another name, under which nothing but a file or a link may stand. -/
def rename (tree : FileTree) (directory : Route) (source target : String) :
    FileAnswer FileTree := do
  match ← tree.resolve .entry directory source, ← tree.resolve .entry directory target with
  | .vacant _ _, _ => .error .notFound
  | .existing _ .directory, _ => .error .isDirectory
  | _, .existing _ .directory => .error .isDirectory
  | _, .vacant _ true => .error .notDirectory
  | .existing route entry, .existing other _ | .existing route entry, .vacant other false =>
    .ok ((tree.erase route).insert other entry)

/-- Removes a file or a link. -/
def remove (tree : FileTree) (directory : Route) (path : String) : FileAnswer FileTree := do
  match ← tree.resolve .entry directory path with
  | .existing _ .directory => .error .isDirectory
  | .existing route _ => .ok (tree.erase route)
  | .vacant _ _ => .error .notFound

/-- Makes a symbolic link to a path. -/
def makeLink (tree : FileTree) (directory : Route) (path target : String) :
    FileAnswer FileTree := do
  match ← tree.resolve .entry directory path with
  | .existing _ _ => .error .alreadyExists
  | .vacant route _ => .ok (tree.insert route (.link target))

/-- Sets the time at which a file was last written. -/
def touch (tree : FileTree) (directory : Route) (path : String) (modified : Instant) :
    FileAnswer FileTree := do
  match ← tree.resolve .target directory path with
  | .existing route (.file bytes _) => .ok (tree.insert route (.file bytes modified))
  | .existing _ _ => .ok tree
  | .vacant _ _ => .error .notFound

/-- Removes whatever is at the end of a path, with all that is below. -/
def removeAll (tree : FileTree) (directory : Route) (path : String) :
    FileAnswer FileTree := do
  match ← tree.resolve .entry directory path with
  | .existing route _ => .ok (tree.filter fun other _ => !route.isPrefixOf other)
  | .vacant _ _ => .error .notFound

/-! ## Listing -/

/-- The paths of all that is below a directory, in the order of their texts. -/
def listing (tree : FileTree) (directory : Route) : List String :=
  let below := tree.toList.filterMap fun (route, entry) =>
    if directory.isPrefixOf route && directory.length < route.length then
      some (String.intercalate "/" (route.drop directory.length) ++ Entry.mark entry)
    else none
  below.mergeSort fun first second => first ≤ second

end FileTree

end Provision
