/-!
# Files

The program reads and writes whole files by path. Here is also a working directory with its files
as a value, in which the program can be run without touching anything else.

A path is followed part by part, from the working directory or from the root. Every part but the
last has to be a directory, and a path that ends in a slash has to lead to one. Outside the working
directory there are the directories above it, the root, and what every system has below the root;
any other name there is free.

## Main definitions

* `FileError` — why a file cannot be read or written.
* `FileTree` — files and directories below a working directory.
* `FileTree.read`, `FileTree.write` — reading and writing by path.
-/

namespace IndexedMesh.Command

/-- Why a file cannot be read or written. -/
inductive FileError
  | notFound
  | notDirectory
  | isDirectory
  | nameTooLong
  | noSpace
  /-- another reason, in the words of the system -/
  | other (reason : String)
deriving DecidableEq

/-- The reason in words, with its number. -/
def FileError.message : FileError → String
  | notFound => "No such file or directory (os error 2)"
  | notDirectory => "Not a directory (os error 20)"
  | isDirectory => "Is a directory (os error 21)"
  | nameTooLong => "File name too long (os error 36)"
  | noSpace => "No space left on device (os error 28)"
  | other reason => reason

/-! ## Paths -/

/-- The parts of a path from the working directory on. The first parts are two dots each where it
leads above that directory. A path from the root on has a slash as its first part. -/
abbrev Path := List String

/-- The directory above a directory. The root is above itself. -/
def above (path : Path) : Path :=
  if path.all (· = "..") then path ++ [".."]
  else if path = ["/"] then path
  else path.dropLast

/-- Whether a path leads out of the working directory. -/
def leadsOut (path : Path) : Bool :=
  match path with
  | part :: _ => part = ".." || part = "/"
  | [] => false

/-! ## What every system has -/

/-- The directories below the root. -/
def systemDirectories : List String := [
  "bin", "boot", "dev", "etc", "home", "lib", "media", "mnt", "opt", "proc", "root", "run", "sbin",
  "srv", "sys", "tmp", "usr", "var"]

/-- A file that holds nothing, whatever is written to it. -/
inductive Device
  /-- it takes everything -/
  | silent
  /-- it never has space -/
  | full
  /-- what is written to it is printed -/
  | output
deriving DecidableEq

/-- The devices. Nothing is ever typed in. -/
def devices : List (Path × Device) := [
  (["/", "dev", "null"], .silent),
  (["/", "dev", "stdin"], .silent),
  (["/", "dev", "full"], .full),
  (["/", "dev", "stdout"], .output)]

/-- Files of the system, with texts of the kind that they hold. -/
def systemFiles : List (Path × String) := [
  (["/", "etc", "passwd"], "root:x:0:0:root:/root:/bin/sh\n"),
  (["/", "etc", "group"], "root:x:0:\n"),
  (["/", "etc", "hosts"], "127.0.0.1\tlocalhost\n")]

/-! ## Directories of files -/

/-- Files with their texts, and directories. -/
structure FileTree where
  files : List (Path × String) := []
  directories : List Path := []
deriving DecidableEq

namespace FileTree

/-- What a path leads to. -/
inductive Place
  | directory
  | file (path : Path) (text : String)
  | device (device : Device)
  /-- nothing, in a directory that is there -/
  | vacant (path : Path)
deriving DecidableEq

/-- Whether a path is a directory: it is one itself, or something lies below it. -/
def isDirectory (tree : FileTree) (path : Path) : Bool :=
  path.all (· = "..") || path = ["/"] || systemDirectories.any (path = ["/", ·]) ||
    tree.directories.any path.isPrefixOf ||
    tree.files.any fun file => path.isPrefixOf file.1 && path ≠ file.1

/-- What is at a path whose parts have all been followed. -/
def place (tree : FileTree) (path : Path) : Place :=
  match (tree.files ++ systemFiles).find? (·.1 = path), devices.find? (·.1 = path) with
  | some (_, text), _ => .file path text
  | none, some (_, device) => .device device
  | none, none => if tree.isDirectory path then .directory else .vacant path

/-- Follows the parts of a path that are left, from a directory. Where a file is to be written, a
name with a slash behind it can only be the name of a directory, whether it is there or not. -/
def follow (tree : FileTree) (toWrite : Bool) (base : Path) : Path → Except FileError Place
  | [] => .ok .directory
  | part :: rest =>
    if part = "" || part = "." then tree.follow toWrite base rest
    else if part = ".." then tree.follow toWrite (above base) rest
    else if toWrite && !rest.isEmpty && rest.all (· = "") then .error .isDirectory
    else if 255 < part.utf8ByteSize then .error .nameTooLong
    else
      match tree.place (base ++ [part]), rest with
      | .directory, rest => tree.follow toWrite (base ++ [part]) rest
      | found, [] => .ok found
      | .vacant _, _ => .error .notFound
      | _, _ => .error .notDirectory

/-- What a path leads to. -/
def locate (tree : FileTree) (toWrite : Bool) (path : String) : Except FileError Place :=
  if path = "" then .error .notFound
  else if 4096 ≤ path.utf8ByteSize then .error .nameTooLong
  else tree.follow toWrite (if path.startsWith "/" then ["/"] else []) (path.splitOn "/")

/-- The text of a file. -/
def read (tree : FileTree) (path : String) : Except FileError String :=
  match tree.locate false path with
  | .error e => .error e
  | .ok .directory => .error .isDirectory
  | .ok (.vacant _) => .error .notFound
  | .ok (.device _) => .ok ""
  | .ok (.file _ text) => .ok text

/-- The tree with another text in a file, which is created if it is not there. -/
def write (tree : FileTree) (path text : String) : Except FileError FileTree :=
  match tree.locate true path with
  | .error e => .error e
  | .ok .directory => .error .isDirectory
  | .ok (.vacant path) => .ok { tree with files := tree.files ++ [(path, text)] }
  | .ok (.device .full) => .error .noSpace
  | .ok (.device _) => .ok tree
  | .ok (.file path _) =>
    .ok { tree with files := tree.files.filter (·.1 ≠ path) ++ [(path, text)] }

/-- What is printed when a text is written to a file: the text, if the file is the output. -/
def printed (tree : FileTree) (path text : String) : String :=
  match tree.locate true path with
  | .ok (.device .output) => text
  | _ => ""

/-- The files of the working directory that are not in another tree, or have another text there. -/
def changedSince (tree before : FileTree) : List (Path × String) :=
  tree.files.filter fun file => !leadsOut file.1 && !before.files.contains file

end FileTree

end IndexedMesh.Command
