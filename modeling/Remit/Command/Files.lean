import Remit.Bytes.Utf8
import Remit.Text.Search

/-
  This file defines the files that a command can read: why a
  file cannot be read, and what the paths to the files of one
  folder lead to.

  Key definitions include:
    * `Command.FileError`
    * `Command.Files`
    * `Command.Place`
    * `Command.Place.step`
    * `Command.Files.ofList`
    * `Command.extension`
-/

namespace Remit.Command

------------------------------------------------------------
-- Failures
------------------------------------------------------------

/- Why a file cannot be read. -/
inductive FileError where
| absent
| notFolder
| isFolder
| nameTooLong
| nulCharacter
| other (detail : String)
deriving DecidableEq, Repr

/- The wording of a failure to read a file. -/
def FileError.message : FileError → String
| absent => "No such file or directory (os error 2)"
| notFolder => "Not a directory (os error 20)"
| isFolder => "Is a directory (os error 21)"
| nameTooLong => "File name too long (os error 36)"
| nulCharacter => "file name contained an unexpected NUL byte"
| other detail => detail

/- The contents of files by their paths, or why one cannot be read. -/
abbrev Files : Type :=
  String → Except FileError Bytes

------------------------------------------------------------
-- Paths
------------------------------------------------------------

/- The most bytes of a name between slashes. -/
def mostNameBytes : Nat :=
  255

/- The most bytes of a path. -/
def mostPathBytes : Nat :=
  4095

/- What a path leads to: the folder with the files, another, or a file. -/
inductive Place where
| here
| outside
| file (contents : Bytes)
deriving DecidableEq, Repr

namespace Place

/-
  Where a part of a path leads. Outside of the folder with the
  files nothing is known but the folders above.
-/
def step (entries : List (String × Bytes)) (part : String) :
    Place → Except FileError Place
| file _ => .error .notFolder
| place =>
    if part = "" ∨ part = "." then
      .ok place
    else if part = ".." then
      .ok outside
    else if mostNameBytes < part.utf8ByteSize then
      .error .nameTooLong
    else
      match place, entries.lookup part with
      | here, some contents => .ok (file contents)
      | _, _ => .error .absent

/- Where the parts of a path lead, one after the other. -/
def walk (entries : List (String × Bytes)) :
    List String → Place → Except FileError Place
| [], place => .ok place
| part :: parts, place => do
    walk entries parts (← place.step entries part)

/- The contents of a place, which must be a file. -/
def contents : Place → Except FileError Bytes
| file contents => .ok contents
| _ => .error .isFolder

end Place

/- The parts of a path, which are divided by slashes. -/
def pathParts (path : String) : List String :=
  (Text.split '/' path.toList).map String.ofList

/- Where a path starts: a slash in front leaves the folder. -/
def pathStart (path : String) : Place :=
  if path.toList.head? = some '/' then .outside else .here

/- The files of one folder; there are no others. -/
def Files.ofList (entries : List (String × Bytes)) : Files :=
  fun path =>
    if path = "" then
      .error .absent
    else if '\x00' ∈ path.toList then
      .error .nulCharacter
    else if mostPathBytes < path.utf8ByteSize then
      .error .nameTooLong
    else
      (Place.walk entries (pathParts path) (pathStart path)).bind
        Place.contents

------------------------------------------------------------
-- Kinds of Files
------------------------------------------------------------

/- The last part of a path, after the slashes at its end are cut. -/
def baseName (path : List Char) : List Char :=
  let cut := (path.reverse.dropWhile (· == '/'))
  (cut.takeWhile (· != '/')).reverse

/-
  What follows the last point of a file's name, in small letters.
  A point at the start of the name does not count.
-/
def extension (file : String) : String :=
  let reversed := (baseName file.toList).reverse
  let rest := reversed.dropWhile (· != '.')
  if rest.length ≤ 1 then
    ""
  else
    Text.lower (String.ofList (reversed.takeWhile (· != '.')).reverse)

end Remit.Command
