import Daybook.Json.Basic
import Daybook.Binary64.Shortest

/-!
# Writing documents

`Json.render` writes a document on one line without blanks, `Json.renderPretty` one item per line
with two spaces for each level. Quotes, backslashes and control characters are escaped; every other
character is written as it is.
-/

namespace Daybook

namespace Json

/-- The lower-case hexadecimal digit of a number below sixteen. -/
def hexDigit (n : Nat) : Char := Nat.digitChar n

/-- A character inside a string. -/
def escapeChar (c : Char) : List Char :=
  if c = '"' then ['\\', '"']
  else if c = '\\' then ['\\', '\\']
  else if c = '\n' then ['\\', 'n']
  else if c = '\r' then ['\\', 'r']
  else if c = '\t' then ['\\', 't']
  else if c = '\x08' then ['\\', 'b']
  else if c = '\x0c' then ['\\', 'f']
  else if c.toNat < 0x20 then ['\\', 'u', '0', '0', hexDigit (c.toNat / 16), hexDigit (c.toNat % 16)]
  else [c]

def quote (s : String) : String :=
  String.ofList ('"' :: s.toList.flatMap escapeChar ++ ['"'])

/-- A double. It keeps a point, so that it is not read as a whole number. -/
def renderDouble (x : Binary64) : String :=
  let text := x.render
  if text.toList.contains '.' then text else text ++ ".0"

/-- The written form of null, a truth value, a number or a string. -/
def renderScalar : Json → String
  | .null       => "null"
  | .bool true  => "true"
  | .bool false => "false"
  | .int i      => toString i
  | .double x   => renderDouble x
  | .str s      => quote s
  | .arr _      => "[]"
  | .obj _      => String.ofList ['{', '}']

/-- A list of written items between brackets. -/
def bracketed (left right : Char) (items : List String) : String :=
  left.toString ++ String.intercalate "," items ++ right.toString

mutual

def render : Json → String
  | .arr items   => bracketed '[' ']' (renderItems items)
  | .obj members => bracketed '{' '}' (renderMembers members)
  | scalar       => renderScalar scalar

def renderItems : List Json → List String
  | []            => []
  | item :: items => render item :: renderItems items

def renderMembers : List (String × Json) → List String
  | []                       => []
  | (name, value) :: members => (quote name ++ ":" ++ render value) :: renderMembers members

end

/-- A new line at a level of nesting. -/
def lineAt (level : Nat) : String := "\n" ++ String.ofList (List.replicate (2 * level) ' ')

/-- Written items between brackets, each on a line of its own. -/
def bracketedLines (left right : Char) (level : Nat) (items : List String) : String :=
  left.toString ++ String.intercalate "," (items.map (lineAt (level + 1) ++ ·)) ++ lineAt level ++
    right.toString

mutual

/-- One item per line, two spaces for each level; empty arrays and objects stay on one line. -/
def renderPrettyAt (level : Nat) : Json → String
  | .arr (item :: items) =>
    bracketedLines '[' ']' level
      (renderPrettyAt (level + 1) item :: renderPrettyItems (level + 1) items)
  | .obj ((name, value) :: members) =>
    bracketedLines '{' '}' level
      ((quote name ++ ": " ++ renderPrettyAt (level + 1) value) ::
        renderPrettyMembers (level + 1) members)
  | other => renderScalar other

def renderPrettyItems (level : Nat) : List Json → List String
  | []            => []
  | item :: items => renderPrettyAt level item :: renderPrettyItems level items

def renderPrettyMembers (level : Nat) : List (String × Json) → List String
  | []                       => []
  | (name, value) :: members =>
    (quote name ++ ": " ++ renderPrettyAt level value) :: renderPrettyMembers level members

end

/-- One item per line, two spaces for each level. -/
def renderPretty (document : Json) : String := renderPrettyAt 0 document

end Json

end Daybook
