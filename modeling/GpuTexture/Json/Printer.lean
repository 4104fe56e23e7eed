import GpuTexture.Json.Basic

/-!
# Printing JSON

Values are laid out one item or member to a line, two spaces deeper than the line that opens them.
The members of an object are written in the order of their names. Empty arrays and objects stay on
one line.
-/

namespace GpuTexture.Json

def escapeChar (c : Char) : String :=
  if c = '"' then "\\\""
  else if c = '\\' then "\\\\"
  else if c = '\n' then "\\n"
  else if c = '\r' then "\\r"
  else if c = '\t' then "\\t"
  else if c = '\x08' then "\\b"
  else if c = '\x0C' then "\\f"
  else if c.toNat < 0x20 then
    let digits := Nat.toDigits 16 c.toNat
    "\\u" ++ String.ofList (List.replicate (4 - digits.length) '0' ++ digits)
  else c.toString

def quoted (text : String) : String :=
  "\"" ++ String.join (text.toList.map escapeChar) ++ "\""

def indent (depth : Nat) : String :=
  String.ofList (List.replicate (2 * depth) ' ')

/-- Lines between brackets; without lines the brackets close at once. -/
def bracketed (opening closing : String) (depth : Nat) (lines : List String) : String :=
  if lines.isEmpty then opening ++ closing
  else
    opening ++ "\n" ++ ",\n".intercalate (lines.map fun line => indent (depth + 1) ++ line) ++
      "\n" ++ indent depth ++ closing

def byName (members : List (String × String)) : List (String × String) :=
  members.mergeSort fun a b => !(b.1 < a.1)

mutual

/-- A value whose first line is already indented by `depth`. -/
def prettyAt (depth : Nat) : Json → String
  | .null => "null"
  | .bool value => if value then "true" else "false"
  | .integer value => toString value
  | .decimal text => text
  | .string text => quoted text
  | .array items => bracketed "[" "]" depth (prettyItems (depth + 1) items)
  | .object members =>
    bracketed "\x7b" "\x7d" depth <|
      (byName (prettyMembers (depth + 1) members)).map fun (name, text) =>
        quoted name ++ ": " ++ text

def prettyItems (depth : Nat) : List Json → List String
  | [] => []
  | item :: rest => prettyAt depth item :: prettyItems depth rest

def prettyMembers (depth : Nat) : List (String × Json) → List (String × String)
  | [] => []
  | (name, value) :: rest => (name, prettyAt depth value) :: prettyMembers depth rest

end

def pretty (json : Json) : String :=
  prettyAt 0 json

end GpuTexture.Json
