import BasicBench.Json.Value

/-!
Writing JSON text. Characters outside ASCII are written by their codes, so the text is the same
in every encoding. A value is written on one line or, for people, with one item on each line
and two more spaces at each level.
-/

set_option autoImplicit false

namespace BasicBench.Json

namespace Printer

def hexDigit (value : Nat) : Char :=
  if value < 10 then Char.ofNat (48 + value) else Char.ofNat (87 + value)

def code (value : Nat) : List Char :=
  ['\\', 'u', hexDigit (value / 4096 % 16), hexDigit (value / 256 % 16),
    hexDigit (value / 16 % 16), hexDigit (value % 16)]

def charText (c : Char) : List Char :=
  let n := c.toNat
  if c = '"' then ['\\', '"']
  else if c = '\\' then ['\\', '\\']
  else if c = '\n' then ['\\', 'n']
  else if c = '\r' then ['\\', 'r']
  else if c = '\t' then ['\\', 't']
  else if n = 8 then ['\\', 'b']
  else if n = 12 then ['\\', 'f']
  else if 32 ≤ n && n < 127 then [c]
  else if n < 0x10000 then code n
  else code (0xD800 + (n - 0x10000) / 1024) ++ code (0xDC00 + (n - 0x10000) % 1024)

def stringText (text : String) : List Char := '"' :: text.toList.flatMap charText ++ ['"']

def floatText : JsonFloat → List Char
  | .finite negative magnitude =>
      (if negative then ['-'] else []) ++ Number.shortestText magnitude
  | .infinite negative => if negative then "-Infinity".toList else "Infinity".toList
  | .notANumber => "NaN".toList

def scalarText : Json → List Char
  | null => "null".toList
  | bool value => (if value then "true" else "false").toList
  | int value => (toString value).toList
  | float value => floatText value
  | text value => stringText value
  | _ => []

/-- How the items of a list or an object are set apart. -/
structure Layout where
  /-- What stands before an item at a level. -/
  lead : Nat → List Char
  colon : List Char

def oneLine : Layout := ⟨fun _ => [], [':']⟩

def indented : Layout := ⟨fun level => '\n' :: List.replicate (2 * level) ' ', [':', ' ']⟩

/-- Items between brackets; nothing at all stands between the brackets of an empty list. -/
def enclosed (layout : Layout) (level : Nat) (opening closing : Char)
    (items : List (List Char)) : List Char :=
  if items.isEmpty then [opening, closing]
  else opening :: [','].intercalate (items.map (layout.lead (level + 1) ++ ·)) ++
    layout.lead level ++ [closing]

mutual

def valueText (layout : Layout) (level : Nat) : Json → List Char
  | list items => enclosed layout level '[' ']' (itemTexts layout (level + 1) items)
  | object members => enclosed layout level '\x7b' '\x7d'
      (memberTexts layout (level + 1) members)
  | other => scalarText other

def itemTexts (layout : Layout) (level : Nat) : List Json → List (List Char)
  | [] => []
  | item :: rest => valueText layout level item :: itemTexts layout level rest

def memberTexts (layout : Layout) (level : Nat) : List (String × Json) → List (List Char)
  | [] => []
  | (name, content) :: rest =>
      (stringText name ++ layout.colon ++ valueText layout level content) ::
        memberTexts layout level rest

end

end Printer

def compact (value : Json) : String := String.ofList (Printer.valueText Printer.oneLine 0 value)

def pretty (value : Json) : String := String.ofList (Printer.valueText Printer.indented 0 value)

end BasicBench.Json
