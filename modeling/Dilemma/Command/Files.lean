/-! # Files

What can come of reading a file, and files held in memory: a tree in which
paths are followed part by part. -/

namespace Dilemma.Command

/-- Why a file cannot be read. -/
inductive FileError where
  | missing
  | denied
  | notDirectory
  | isDirectory
  | nameTooLong
  | notText
  | other (message : String)
  deriving DecidableEq, Repr

namespace FileError

/-- The reason, and its number if it has one. -/
def reason : FileError → String × Option Nat
  | missing => ("No such file or directory", some 2)
  | denied => ("Permission denied", some 13)
  | notDirectory => ("Not a directory", some 20)
  | isDirectory => ("Is a directory", some 21)
  | nameTooLong => ("File name too long", some 36)
  | notText => ("stream did not contain valid UTF-8", none)
  | other message => (message, none)

def message (error : FileError) : String :=
  match error.reason with
  | (text, some number) => s!"{text} (os error {number})"
  | (text, none) => text

example : missing.message = "No such file or directory (os error 2)" := by decide +kernel

end FileError

/-- Reading gives the contents of a path. -/
abbrev ReadFile := String → Except FileError String

/-- The directory in which a path lies. Slashes at its end do not count. -/
def directoryOf (path : String) : String :=
  match (path.toList.reverse.dropWhile (· = '/')).dropWhile (· ≠ '/') with
  | [] => "."
  | ['/'] => "/"
  | _ :: rest => String.ofList rest.reverse

example : directoryOf "a/b/" = "a" := by decide +kernel
example : directoryOf "/a" = "/" := by decide +kernel

/-- Why a file cannot be written. One that does not exist is made where its
directory exists; the streams of a program are always there. -/
def writeFault? (readFile : ReadFile) (path : String) : Option FileError :=
  if path ∈ ["/dev/stdout", "/dev/stderr"] then none
  else if path = "" then some .missing
  else match readFile path with
    | .ok _ | .error .notText => none
    | .error .missing =>
        match readFile (directoryOf path) with
          | .error .isDirectory =>
              if path.toList.getLast? = some '/' then some .isDirectory else none
          | .ok _ | .error .notText => some .notDirectory
          | .error error => some error
    | .error error => some error

/-! ## A tree of files -/

inductive Entry where
  | text (contents : String)
  /-- A file that is not text. -/
  | binary
  | directory
  deriving DecidableEq, Repr

/-- The parts of a path from the root. -/
abbrev Location := List String

/-- Entries by their locations, and the directory in which paths begin that do
not begin at the root. -/
structure Files where
  here : Location
  entries : List (Location × Entry)

namespace Files

/-- Whatever has an entry below is a directory. -/
def entry? (files : Files) (location : Location) : Option Entry :=
  match files.entries.find? (·.1 = location) with
  | some (_, entry) => some entry
  | none =>
      if files.entries.any fun (other, _) => location.isPrefixOf other then some .directory
      else none

/-- The limits on a part of a path, and on a path, in bytes. -/
def nameLimit : Nat := 255
def pathLimit : Nat := 4095

/-- Every part but the last has to lead to a directory. An empty part or a dot
stays there, and two dots lead up. -/
def follow (files : Files) : (location : Location) → (parts : List String) →
    Except FileError Location
  | location, [] => .ok location
  | location, part :: rest =>
      match files.entry? location with
      | none => .error .missing
      | some (.text _) | some .binary => .error .notDirectory
      | some .directory =>
          if part = "" ∨ part = "." then follow files location rest
          else if part = ".." then follow files location.dropLast rest
          else if nameLimit < part.utf8ByteSize then .error .nameTooLong
          else if (files.entry? (location ++ [part])).isNone then .error .missing
          else follow files (location ++ [part]) rest

/-- The parts of a path between slashes. -/
def parts : List Char → List (List Char)
  | [] => [[]]
  | '/' :: rest => [] :: parts rest
  | char :: rest =>
      match parts rest with
      | [] => [[char]]
      | part :: others => (char :: part) :: others

def locate (files : Files) (path : String) : Except FileError Location :=
  if pathLimit < path.utf8ByteSize then .error .nameTooLong
  else
    match path.toList with
    | [] => .error .missing
    | '/' :: rest => files.follow [] ((parts rest).map String.ofList)
    | text => files.follow files.here ((parts text).map String.ofList)

def read (files : Files) : ReadFile := fun path => do
  match files.entry? (← files.locate path) with
  | some (.text contents) => return contents
  | some .binary => .error .notText
  | some .directory => .error .isDirectory
  | none => .error .missing

/-! ## A usual system -/

/-- The programs that every system has. -/
def programNames : List String :=
  ["sh", "bash", "dash", "cat", "cp", "ls", "echo", "env", "false", "true", "grep", "head", "ln",
   "mv", "pwd", "rm", "sed", "awk", "sleep", "sort", "tail", "test", "touch", "tr", "wc"]

def directoryNames : List String :=
  ["boot", "etc", "home", "lib", "media", "mnt", "opt", "proc", "root", "run", "sbin", "srv",
   "sys", "tmp", "var"]

/-- Usual directories and programs, an empty device, and the given files in
the directory where paths begin. -/
def usual (given : List (String × String)) : Files :=
  let here := ["tmp", "arena"]
  let programs := programNames.flatMap fun name =>
    [(["bin", name], Entry.binary), (["usr", "bin", name], Entry.binary)]
  let own := given.map fun (path, contents) =>
    (here ++ (parts path.toList).map String.ofList, Entry.text contents)
  let directories := directoryNames.map fun name => ([name], Entry.directory)
  ⟨here, own ++ [(here, .directory), (["dev", "null"], .text ""),
    (["etc", "passwd"], .text "root\n")] ++ programs ++ directories⟩

example : ((usual [("t", "x")]).read ".//t").toOption = some "x" := by decide +kernel
example : ((usual [("t", "x")]).read "no/../t").toOption = none := by decide +kernel

end Files

end Dilemma.Command
