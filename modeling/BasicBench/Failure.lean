import BasicBench.Json.Display

/-!
Failures that a caller can cause. Each cause has a code and a wording with slots for what went
wrong; a failure may also say in which file and on which line. A wording whose slots are not all
given has no text.
-/

set_option autoImplicit false

namespace BasicBench

/-- A part of a wording: fixed words, or the place of a named detail. -/
inductive WordingPart where
  | words (text : String)
  | slot (name : String)
  deriving DecidableEq, Repr

namespace WordingPart

/-- The part as it appears in the wording itself: a slot by its name in braces. -/
def shown : WordingPart → String
  | words text => text
  | slot name => "\x7b" ++ name ++ "\x7d"

def fill? (details : List (String × String)) : WordingPart → Option String
  | words text => some text
  | slot name => details.lookup name

end WordingPart

inductive Cause where
  | unknownLevel | sourceNotText | catalogNotFound | catalogUnreadable
  | programNotFound | programUnreadable
  deriving DecidableEq, Repr

namespace Cause

def all : List Cause :=
  [.unknownLevel, .sourceNotText, .catalogNotFound, .catalogUnreadable, .programNotFound,
    .programUnreadable]

def code : Cause → String
  | unknownLevel => "INVALID_CHECK_LEVEL"
  | sourceNotText => "INVALID_SOURCE_TYPE"
  | catalogNotFound => "KEYWORD_DATABASE_NOT_FOUND"
  | catalogUnreadable => "KEYWORD_DATABASE_INVALID"
  | programNotFound => "INPUT_FILE_NOT_FOUND"
  | programUnreadable => "INPUT_NOT_READABLE"

def ofCode? (code : String) : Option Cause := all.find? (·.code == code)

def wording : Cause → List WordingPart
  | unknownLevel => [.words "Unknown check level '", .slot "level",
      .words "'. Expected one of: ", .slot "allowed", .words "."]
  | sourceNotText =>
      [.words "Source code must be a string, got '", .slot "type_name", .words "'."]
  | catalogNotFound => [.words "Keyword database file not found: '", .slot "path", .words "'"]
  | catalogUnreadable => [.words "Keyword database '", .slot "path",
      .words "' could not be read. Details: ", .slot "details"]
  | programNotFound => [.words "Source file not found: '", .slot "path", .words "'"]
  | programUnreadable => [.words "Source file '", .slot "path",
      .words "' could not be read. Details: ", .slot "details"]

/-- The wording before anything is filled in. -/
def template (cause : Cause) : String := String.join (cause.wording.map (·.shown))

/-- The wording with its slots filled; nothing when a detail is missing. -/
def describe? (cause : Cause) (details : List (String × String)) : Option String :=
  (cause.wording.mapM (WordingPart.fill? details)).map String.join

end Cause

structure Failure where
  cause : Cause
  line : Option Int := none
  file : Option String := none
  description : String
  deriving DecidableEq, Repr

namespace Failure

/-- A failure with its details; nothing when the wording needs a detail that is missing. -/
def make? (cause : Cause) (details : List (String × String)) (line : Option Int := none)
    (file : Option String := none) : Option Failure :=
  (cause.describe? details).map fun description => { cause, line, file, description }

/-- Where the failure is, most specific first. An empty file name and line zero say nothing. -/
def place (failure : Failure) : String :=
  let file := failure.file.filter (· != "")
  let line := failure.line.filter (· != 0)
  match file, line with
  | some file, some line => s!"Error in '{file}' (Line: {line}):\n"
  | some file, none => s!"Error in '{file}': "
  | none, some line => s!"Error (Line: {line}): "
  | none, none => ""

def message (failure : Failure) : String := failure.place ++ failure.description

/-- A failure whose details fill every slot of the wording. -/
def filled (cause : Cause) (details : List (String × String)) : Failure :=
  { cause, description := (cause.describe? details).getD "" }

def unknownLevel (level allowed : String) : Failure :=
  filled .unknownLevel [("level", level), ("allowed", allowed)]

def sourceNotText (kind : String) : Failure := filled .sourceNotText [("type_name", kind)]

def catalogNotFound (path : String) : Failure := filled .catalogNotFound [("path", path)]

def catalogUnreadable (path details : String) : Failure :=
  filled .catalogUnreadable [("path", path), ("details", details)]

def programNotFound (path : String) : Failure := filled .programNotFound [("path", path)]

def programUnreadable (path details : String) : Failure :=
  filled .programUnreadable [("path", path), ("details", details)]

end Failure
end BasicBench
