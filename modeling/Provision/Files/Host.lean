/-
**The machine that a program runs on.**

Programs reach files and the clock through a host, so that the same code runs on real files and on a
tree of files in memory:

* `Disk` has the operations on files, `Host` adds the clock and the name of the running program;
* `Machine` is a host in memory, and `Machine.host` makes its operations available.
-/

import Provision.Files.Tree

namespace Provision

/-- The operations on files. -/
structure Disk (m : Type → Type) where
  /-- Makes a directory in one that exists. -/
  makeDirectory : String → m (FileAnswer Unit)
  /-- Whether a path is known to lead to a directory. -/
  isDirectory : String → m Bool
  read : String → m (FileAnswer Bytes)
  /-- Writes a file, which is created if it does not exist. -/
  write : String → Bytes → m (FileAnswer Unit)
  /-- Writes a file that does not exist yet. -/
  create : String → Bytes → m (FileAnswer Unit)
  exists? : String → m (FileAnswer Bool)
  copy : String → String → m (FileAnswer Unit)
  /-- Gives a file another name in one step. -/
  rename : String → String → m (FileAnswer Unit)
  remove : String → m (FileAnswer Unit)
  /-- When a file was last written. -/
  modified : String → m (FileAnswer Instant)

namespace Disk

variable {m : Type → Type} [Monad m]

/-- What is made of an attempt to make a directory: it does not matter that it failed if the directory
is there. -/
def settleDirectory (disk : Disk m) (path : String) : FileAnswer Unit → m (FileAnswer Unit)
  | .ok () => pure (.ok ())
  | .error error => do
    if ← disk.isDirectory path then pure (.ok ()) else pure (.error error)

/-- Makes the first of some directories, each of which is in the next, after those that it needs. -/
def makeDirectoriesFrom (disk : Disk m) : List String → m (FileAnswer Unit)
  | [] => pure (.error (.other "failed to create whole tree"))
  | path :: parents =>
    if path.isEmpty then pure (.ok ())
    else do
      match ← disk.makeDirectory path with
      | .error .notFound => do
        match ← makeDirectoriesFrom disk parents with
        | .error error => pure (.error error)
        | .ok () => do
          let answer ← disk.makeDirectory path
          disk.settleDirectory path answer
      | answer => disk.settleDirectory path answer

/-- Makes a directory and those above it that are missing. Those that were made before a failure
stay. -/
def makeDirectories (disk : Disk m) (path : String) : m (FileAnswer Unit) :=
  disk.makeDirectoriesFrom (path :: Path.parents path)

end Disk

/-- The machine that a program runs on. -/
structure Host (m : Type → Type) where
  disk : Disk m
  now : m Instant
  /-- The name of the running program, unique among those that run. -/
  holder : String

/-- The same operations, called from elsewhere. -/
def Disk.map {m n : Type → Type} (lift : {α : Type} → m α → n α) (disk : Disk m) : Disk n where
  makeDirectory := fun path => lift (disk.makeDirectory path)
  isDirectory := fun path => lift (disk.isDirectory path)
  read := fun path => lift (disk.read path)
  write := fun path bytes => lift (disk.write path bytes)
  create := fun path bytes => lift (disk.create path bytes)
  exists? := fun path => lift (disk.exists? path)
  copy := fun source target => lift (disk.copy source target)
  rename := fun source target => lift (disk.rename source target)
  remove := fun path => lift (disk.remove path)
  modified := fun path => lift (disk.modified path)

/-- The same machine, reached from elsewhere. -/
def Host.map {m n : Type → Type} (lift : {α : Type} → m α → n α) (host : Host m) : Host n where
  disk := host.disk.map lift
  now := lift host.now
  holder := host.holder

/-! ## In memory -/

/-- A machine in memory. -/
structure Machine where
  tree : FileTree := ∅
  /-- The current directory. -/
  directory : Route := []
  /-- The time, which only others move on. -/
  now : Instant

namespace Machine

/-- The answer of an operation that only looks at the tree of files. -/
def look {α : Type} (operation : FileTree → Route → FileAnswer α) : StateM Machine (FileAnswer α) :=
  fun machine => (operation machine.tree machine.directory, machine)

/-- An operation that changes the tree of files, unless it fails. -/
def change (operation : FileTree → Route → FileAnswer FileTree) :
    StateM Machine (FileAnswer Unit) := fun machine =>
  match operation machine.tree machine.directory with
  | .ok tree => (.ok (), { machine with tree := tree })
  | .error error => (.error error, machine)

/-- An operation that changes the tree of files at the current time. -/
def changeNow (operation : FileTree → Route → Instant → FileAnswer FileTree) :
    StateM Machine (FileAnswer Unit) := fun machine =>
  change (fun tree directory => operation tree directory machine.now) machine

/-- The operations on the files of a machine in memory. -/
def disk : Disk (StateM Machine) where
  makeDirectory := fun path => change (·.makeDirectory · path)
  isDirectory := fun path machine =>
    (machine.tree.isDirectory machine.directory path, machine)
  read := fun path => look (·.read · path)
  write := fun path bytes => changeNow (·.write · path bytes ·)
  create := fun path bytes => changeNow (·.create · path bytes ·)
  exists? := fun path => look (·.exists? · path)
  copy := fun source target => changeNow (·.copy · source target ·)
  rename := fun source target => change (·.rename · source target)
  remove := fun path => change (·.remove · path)
  modified := fun path => look (·.modified · path)

/-- A machine in memory on which a program runs. -/
def host (holder : String) : Host (StateM Machine) where
  disk := disk
  now := fun machine => (machine.now, machine)
  holder := holder

end Machine

end Provision
