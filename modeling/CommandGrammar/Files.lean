/-
# Files

The files below a working directory, each by its path, with its text.  A path is a list of names;
a `.` and empty names in it are left out, and `..` leads out of a directory that is there.

| path | normal form |
| --- | --- |
| `a//b`, `./a/b`, `a/b/` | `a/b` |
| empty, `.` | `.` |
| `//a` | `//a` |
| `///a` | `/a` |
-/

import CommandGrammar.Text.Parts

namespace CommandGrammar

open Text

namespace Path

/-- The names of a path. -/
def names (path : String) : List String :=
  (cutAt (· == '/') path.toList).filterMap fun part =>
    if part.isEmpty || part == ['.'] then none else some (String.ofList part)

/-- What a path from the root begins with; two slashes are a root of their own. -/
def root (path : String) : String :=
  match (path.toList.takeWhile (· == '/')).length with
  | 0 => ""
  | 2 => "//"
  | _ => "/"

/-- The normal form of a path. -/
def normal (path : String) : String :=
  match root path, names path with
  | "", [] => "."
  | start, parts => start ++ joined "/" parts

/-- The normal form of a path in a directory. -/
def inDirectory (directory name : String) : String :=
  if (root name).isEmpty then normal (directory ++ "/" ++ name) else normal name

/-- The name of what a path leads to. -/
def lastName (path : String) : String := (names path).getLast?.getD ""

/-- The end of a name from its last point on, if something stands before and after that. -/
def suffix (path : String) : String :=
  let reversed := (lastName path).toList.reverse
  let ending := reversed.takeWhile (· != '.')
  let before := (reversed.drop ending.length).drop 1
  if ending.isEmpty || before.isEmpty then "" else "." ++ String.ofList ending.reverse

/-- **A point at the beginning makes no suffix.** -/
theorem suffix_hidden : suffix ".yaml" = "" := by cbv

end Path

/-- Files by their paths from the working directory, each with its text. -/
structure Files where
  entries : List (String × String) := []

namespace Files

/-- Whether names lead to a directory. -/
def isDirectory (fs : Files) (path : List String) : Bool :=
  path.isEmpty || fs.entries.any fun e =>
    let own := Path.names e.1
    path.isPrefixOf own && path.length < own.length

/-- The names that remain of a path when its steps out of directories are taken; `left` are the
names so far, the last one first. -/
def resolve (fs : Files) (left : List String) : List String → Option (List String)
  | [] => some left.reverse
  | ".." :: rest =>
    match left with
    | [] => none
    | _ :: outer => if fs.isDirectory left.reverse then fs.resolve outer rest else none
  | n :: rest => fs.resolve (n :: left) rest

/-- The text of the file that a path leads to. -/
def text? (fs : Files) (path : String) : Option String :=
  match fs.entries.find? fun e => Path.normal e.1 == Path.normal path with
  | some e => some e.2
  | none => do
    if (Path.root path).isEmpty then
      let names ← fs.resolve [] (Path.names path)
      (fs.entries.find? fun e => (Path.root e.1).isEmpty && Path.names e.1 == names).map Prod.snd
    else none

/-- Whether a path leads to a file. -/
def has (fs : Files) (path : String) : Bool := (fs.text? path).isSome

/-- The files with one more, unless it is there. -/
def create (fs : Files) (path : String) : Files :=
  if fs.has path then fs else ⟨fs.entries ++ [(Path.normal path, "")]⟩

/-- The paths of the files, in order. -/
def paths (fs : Files) : List String :=
  (fs.entries.map fun e => Path.normal e.1).mergeSort fun a b => decide (a ≤ b)

end Files
end CommandGrammar
