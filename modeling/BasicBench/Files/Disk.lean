import BasicBench.Files.Access

/-!
Files held in memory. A disk knows its folders and the bytes of its files by their full names,
given as the list of their parts; the root folder has no parts and is always there. A path is
walked part by part, and every place that is passed has to be a folder.
-/

set_option autoImplicit false

namespace BasicBench.Files

open Text

structure Disk where
  /-- The working folder. -/
  home : List Text
  folders : List (List Text) := []
  files : List (List Text × List UInt8) := []

namespace Disk

inductive Content where
  | folder
  | file (bytes : List UInt8)

def contentAt? (disk : Disk) (place : List Text) : Option Content :=
  match disk.files.lookup place with
  | some bytes => some (.file bytes)
  | none => if place = [] || place ∈ disk.folders then some .folder else none

/-- Names have at most this many bytes. -/
def longestName : Nat := 255

/-- Paths have fewer bytes than this. -/
def longestPath : Nat := 4096

/-- Where a walk from a folder ends. The last place need not be there. -/
def walk (disk : Disk) (place : List Text) : List Text → Except Refusal (List Text)
  | [] => .ok place
  | part :: rest =>
      match disk.contentAt? place with
      | none => .error .notFound
      | some (.file _) => .error .notFolder
      | some .folder =>
          if part = [] || part = ['.'] then walk disk place rest
          else if part = stepUp then walk disk place.dropLast rest
          else if (String.ofList part).utf8ByteSize > longestName then .error .nameTooLong
          else walk disk (place ++ [part]) rest

/-- The place that a path names. -/
def locate (disk : Disk) (path : Text) : Except Refusal (List Text) :=
  if '\x00' ∈ path then .error .nullCharacter
  else if (String.ofList path).utf8ByteSize ≥ longestPath then .error .nameTooLong
  else match path with
    | [] => .error .notFound
    | '/' :: _ => disk.walk [] (splitAt '/' path)
    | _ => disk.walk disk.home (splitAt '/' path)

def content? (disk : Disk) (path : Text) : Option Content :=
  match disk.locate path with
  | .ok place => disk.contentAt? place
  | .error _ => none

def refuse {Value : Type} (path : Text) (refusal : Refusal) : Except FileFault Value :=
  .error ⟨refusal, path⟩

def read (disk : Disk) (path : Text) : Except FileFault (List UInt8) :=
  match disk.locate path with
  | .error refusal => refuse path refusal
  | .ok place =>
      match disk.contentAt? place with
      | some (.file bytes) => .ok bytes
      | some .folder => refuse path .isFolder
      | none => refuse path .notFound

/-- Sets the bytes of a file: in place when it is there, at the end when it is not. -/
def setFile (place : List Text) (bytes : List UInt8) :
    List (List Text × List UInt8) → List (List Text × List UInt8)
  | [] => [(place, bytes)]
  | (other, old) :: rest =>
      if other = place then (place, bytes) :: rest else (other, old) :: setFile place bytes rest

def writeBytes (disk : Disk) (path : Text) (bytes : List UInt8) :
    Except FileFault Unit × Disk :=
  match disk.locate path with
  | .error refusal => (refuse path refusal, disk)
  | .ok place =>
      match disk.contentAt? place with
      | some .folder => (refuse path .isFolder, disk)
      | _ => (.ok (), { disk with files := setFile place bytes disk.files })

def write (disk : Disk) (path text : Text) : Except FileFault Unit × Disk :=
  disk.writeBytes path (String.ofList text).toUTF8.toList

def makeFolder (disk : Disk) (path : Text) : Except FileFault Unit × Disk :=
  match disk.locate (withoutEndSlashes path) with
  | .error refusal => (refuse path refusal, disk)
  | .ok place =>
      match disk.contentAt? place with
      | some _ => (refuse path .alreadyThere, disk)
      | none => (.ok (), { disk with folders := disk.folders ++ [place] })

/-- Full names are written with a slash before each part. -/
def fullName (place : List Text) : Text := place.flatMap ('/' :: ·)

/-- Access to a disk that changes as it is written to. -/
def access (home : List Text) : Access (StateM Disk) where
  home := fullName home
  holds path := return ((← get).content? path).isSome
  holdsFolder path := return match (← get).content? path with
    | some .folder => true
    | _ => false
  read path := return (← get).read path
  write path text := modifyGet fun disk => disk.write path text
  makeFolder path := modifyGet fun disk => disk.makeFolder path

end Disk
end BasicBench.Files
