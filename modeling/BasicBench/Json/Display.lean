import BasicBench.Json.Printer
import BasicBench.Text.HiddenRanges
import BasicBench.Text.WordChar

/-!
Values as they appear inside messages: a text stands for itself, and inside a list or an object
it stands between quotes, which are the quotes that it does not itself contain.
-/

set_option autoImplicit false

namespace BasicBench.Json

namespace Display

/-- Whether a character shows nothing; the plain space counts as shown. -/
def isHidden (c : Char) : Bool :=
  let code := c.toNat
  if code < 128 then code < 32 || code == 127 else Text.inRanges Text.hiddenRanges code

/-- The last `count` hexadecimal digits of a number. -/
def hexDigits : Nat → Nat → List Char
  | 0, _ => []
  | count + 1, value => hexDigits count (value / 16) ++ [Printer.hexDigit (value % 16)]

def quotedChar (quote c : Char) : List Char :=
  if c = quote || c = '\\' then ['\\', c]
  else if c = '\n' then ['\\', 'n']
  else if c = '\r' then ['\\', 'r']
  else if c = '\t' then ['\\', 't']
  else if isHidden c then
    let code := c.toNat
    if code < 0x100 then '\\' :: 'x' :: hexDigits 2 code
    else if code < 0x10000 then '\\' :: 'u' :: hexDigits 4 code
    else '\\' :: 'U' :: hexDigits 8 code
  else [c]

/-- A text between single quotes, or between double quotes when it has only single ones. -/
def quoted (value : String) : List Char :=
  let text := value.toList
  let quote := if text.elem '\'' && !text.elem '"' then '"' else '\''
  quote :: text.flatMap (quotedChar quote) ++ [quote]

def scalar : Json → List Char
  | null => "None".toList
  | bool value => (if value then "True" else "False").toList
  | int value => (toString value).toList
  | float (.finite negative magnitude) =>
      (if negative then ['-'] else []) ++ Number.shortestText magnitude
  | float (.infinite negative) => (if negative then "-inf" else "inf").toList
  | float .notANumber => "nan".toList
  | text value => quoted value
  | _ => []

mutual

def nested : Json → List Char
  | list items => '[' :: ", ".toList.intercalate (nestedItems items) ++ [']']
  | object members => '\x7b' :: ", ".toList.intercalate (nestedMembers members) ++ ['\x7d']
  | other => scalar other

def nestedItems : List Json → List (List Char)
  | [] => []
  | item :: rest => nested item :: nestedItems rest

def nestedMembers : List (String × Json) → List (List Char)
  | [] => []
  | (name, content) :: rest =>
      (quoted name ++ ": ".toList ++ nested content) :: nestedMembers rest

end

end Display

/-- A value inside a message. -/
def display : Json → String
  | text value => value
  | other => String.ofList (Display.nested other)

/-- The name of the kind of a value, in messages. -/
def kindName : Json → String
  | null => "NoneType"
  | bool _ => "bool"
  | int _ => "int"
  | float _ => "float"
  | text _ => "str"
  | list _ => "list"
  | object _ => "dict"

end BasicBench.Json
