/-!
# JSON values

A JSON value keeps integers apart from all other numbers, of which only the text is kept. The
members of an object stand in the order in which they were given.
-/

namespace GpuTexture

inductive Json where
  | null
  | bool (value : Bool)
  | integer (value : Int)
  | decimal (text : String)
  | string (text : String)
  | array (items : List Json)
  | object (members : List (String × Json))
deriving Inhabited

/-- A printer of JSON values. Where it refuses one, it says why. -/
abbrev JsonPrinter := Json → Except String String

namespace Json

def member? (name : String) : Json → Option Json
  | .object members => members.lookup name
  | _ => none

/-- The parts of a record: the named members of an object, whatever else it holds, or the items of
an array with exactly one item for each name. -/
def parts? (names : List String) : Json → Option (List Json)
  | .object members => names.mapM fun name => members.lookup name
  | .array items => if items.length = names.length then some items else none
  | _ => none

/-- The name of a variant without data: a string, or the only member of an object, which is null. -/
def variant? : Json → Option String
  | .string name => some name
  | .object [(name, .null)] => some name
  | _ => none

def natBelow? (bound : Nat) : Json → Option Nat
  | .integer (.ofNat value) => if value < bound then some value else none
  | _ => none

end Json

end GpuTexture
