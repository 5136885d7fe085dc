import BasicBench.Text.Space

/-!
Path names as text. A path is split at its slashes into a folder and a name, and a name at its
last point into a stem and an extension. Two names for one place have the same normal form as
long as no link is on the way: the parts that lead nowhere are dropped, and a step up cancels the
part before it.
-/

set_option autoImplicit false

namespace BasicBench.Files

open Text

/-- What follows the last slash. -/
def nameOf (path : Text) : Text := (path.reverse.takeWhile (· != '/')).reverse

/-- The path up to its last slash, slash included. -/
def upToName (path : Text) : Text := (path.reverse.dropWhile (· != '/')).reverse

theorem upToName_append_nameOf (path : Text) : upToName path ++ nameOf path = path := by
  rw [upToName, nameOf, ← List.reverse_append, List.takeWhile_append_dropWhile,
    List.reverse_reverse]

/-- A folder without the slashes at its end; the root keeps its own. -/
def withoutEndSlashes (path : Text) : Text :=
  if path.all (· == '/') then path else dropEndWhile (· == '/') path

theorem length_dropEndWhile_le (drop : Char → Bool) (text : Text) :
    (dropEndWhile drop text).length ≤ text.length := by
  fun_induction dropEndWhile drop text <;> simp_all

theorem length_withoutEndSlashes_le (path : Text) :
    (withoutEndSlashes path).length ≤ path.length := by
  rw [withoutEndSlashes]
  split
  · exact Nat.le_refl _
  · exact length_dropEndWhile_le _ path

/-- The folder that holds the place that a path names; empty for a plain name. -/
def folderOf (path : Text) : Text := withoutEndSlashes (upToName path)

theorem length_folderOf_lt (path : Text) (named : nameOf path ≠ []) :
    (folderOf path).length < path.length := by
  have whole := congrArg List.length (upToName_append_nameOf path)
  have shorter := length_withoutEndSlashes_le (upToName path)
  have positive := List.length_pos_iff.mpr named
  rw [List.length_append] at whole
  rw [folderOf]
  omega

/-- A path and its extension with the point. Points at the start of a name belong to the stem. -/
def splitExtension (path : Text) : Text × Text :=
  let name := nameOf path
  let points := name.takeWhile (· == '.')
  let rest := name.dropWhile (· == '.')
  match lastOffsetOf? '.' rest with
  | some offset => (upToName path ++ points ++ rest.take offset, rest.drop offset)
  | none => (path, [])

/-- A path seen from a folder. -/
def join (folder path : Text) : Text :=
  match path with
  | '/' :: _ => path
  | _ =>
      if folder.isEmpty || folder.getLast? == some '/' then folder ++ path
      else folder ++ '/' :: path

/-- The slashes that a path starts with, as far as they matter: two stand for themselves, more
than two for one. -/
def rootOf : Text → Text
  | '/' :: '/' :: '/' :: _ => ['/']
  | '/' :: '/' :: _ => ['/', '/']
  | '/' :: _ => ['/']
  | _ => []

def stepUp : Text := ['.', '.']

/-- The parts that are left, last first, after one more part. Above the root is the root; a
relative path may start with steps up. -/
def addPart (isRooted : Bool) (kept : List Text) (part : Text) : List Text :=
  if part = [] || part = ['.'] then kept
  else if part = stepUp then
    match kept with
    | [] => if isRooted then [] else [stepUp]
    | last :: others => if last = stepUp then stepUp :: kept else others
  else part :: kept

/-- The normal form of a path. -/
def normalise (path : Text) : Text :=
  let root := rootOf path
  let parts := ((splitAt '/' path).foldl (addPart (!root.isEmpty)) []).reverse
  match root ++ ['/'].intercalate parts with
  | [] => ['.']
  | normal => normal

/-- The full name of a path that is seen from a folder with a full name. -/
def absolute (folder path : Text) : Text := normalise (join folder path)

end BasicBench.Files
