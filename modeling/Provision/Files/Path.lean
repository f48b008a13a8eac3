/-
**Paths.**

A path is a text whose segments stand between slashes. Paths are joined and shortened as texts, so
that what is shown is what was written; nothing is resolved:

* `Path.join` puts one path behind another, unless it is absolute;
* `Path.parents` lists the paths of the directories above, the nearest first;
* `Path.parent?` is the nearest of them.
-/

namespace Provision.Path

/-- Whether a path starts at the root. -/
def isAbsolute (path : String) : Bool := path.toList.head? == some '/'

/-- A path behind another; an absolute path stands for itself. -/
def join (base path : String) : String :=
  if isAbsolute path || base.isEmpty then path
  else if base.toList.getLast? == some '/' then base ++ path
  else base ++ "/" ++ path

/-- The segments of a path, of which there is always one more than slashes. -/
def split : List Char → List (List Char)
  | [] => [[]]
  | first :: rest =>
    if first = '/' then [] :: split rest
    else
      match split rest with
      | [] => [[first]]
      | segment :: others => (first :: segment) :: others

/-- The segments of a path as texts. -/
def segments (path : String) : List String := (split path.toList).map String.ofList

/-- Whether a segment leads nowhere. -/
def isIdle (segment : List Char) : Bool := segment.isEmpty || segment == ['.']

/-- What a path starts with before its segments: a slash at the root, or a dot that stands for the
current directory; and the rest. -/
def lead : List Char → List Char × List Char
  | '/' :: rest => (['/'], rest)
  | ['.'] => (['.'], [])
  | '.' :: '/' :: rest => (['.'], '/' :: rest)
  | path => ([], path)

/-- The paths of the directories above the one with given segments, in reverse order. -/
def parentsOf (start : List Char) : List (List Char) → List (List Char)
  | [] => if start = ['.'] then [[]] else []
  | segment :: rest =>
    if isIdle segment then parentsOf start rest
    else
      (start ++ List.intercalate ['/'] (rest.dropWhile isIdle).reverse) :: parentsOf start rest

/-- The paths of the directories above a path, the nearest first. -/
def parents (path : String) : List String :=
  let (start, rest) := lead path.toList
  (parentsOf start (split rest).reverse).map String.ofList

/-- The path of the directory that a path is in. -/
def parent? (path : String) : Option String := (parents path).head?

end Provision.Path
