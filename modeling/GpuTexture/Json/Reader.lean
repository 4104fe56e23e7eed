import GpuTexture.Json.Basic

/-!
# Reading JSON

A text is cut into tokens, and a stack of the arrays and objects that are still open puts the tokens
together. A number with a fraction or an exponent is refused, and so is the code of a surrogate.
-/

namespace GpuTexture.Json

/-- A part of a text: a whole value, or a mark between values. -/
inductive Token where
  | value (json : Json)
  | openArray
  | closeArray
  | openObject
  | closeObject
  | comma
  | colon

def Token.ofMark? : Char → Option Token
  | '[' => some .openArray
  | ']' => some .closeArray
  | '\x7b' => some .openObject
  | '\x7d' => some .closeObject
  | ',' => some .comma
  | ':' => some .colon
  | _ => none

def Token.ofWord? (word : String) : Option Token :=
  if word = "null" then some (.value .null)
  else if word = "true" then some (.value (.bool true))
  else if word = "false" then some (.value (.bool false))
  else word.toInt?.map fun value => .value (.integer value)

def isBlank (c : Char) : Bool :=
  c = ' ' || c = '\n' || c = '\r' || c = '\t'

def isWordChar (c : Char) : Bool :=
  c.isAlphanum || c = '-'

def unescape? : Char → Option Char
  | '"' => some '"'
  | '\\' => some '\\'
  | '/' => some '/'
  | 'b' => some '\x08'
  | 'f' => some '\x0C'
  | 'n' => some '\n'
  | 'r' => some '\r'
  | 't' => some '\t'
  | _ => none

def hexDigit? (c : Char) : Option Nat :=
  if c.isDigit then some (c.toNat - '0'.toNat)
  else if 'a' ≤ c ∧ c ≤ 'f' then some (10 + (c.toNat - 'a'.toNat))
  else if 'A' ≤ c ∧ c ≤ 'F' then some (10 + (c.toNat - 'A'.toNat))
  else none

def ofHex? (digits : List Char) : Option Char := do
  let code ← digits.foldlM (fun code digit => (hexDigit? digit).map (16 * code + ·)) 0
  if code.isValidChar then some (Char.ofNat code) else none

/-- Reads behind an opening quote: the text up to the closing one, and what stands behind it. -/
def readQuoted : List Char → Option (List Char × List Char)
  | [] => none
  | '"' :: rest => some ([], rest)
  | '\\' :: 'u' :: a :: b :: c :: d :: rest =>
    (ofHex? [a, b, c, d]).bind fun char => (readQuoted rest).map (Prod.map (char :: ·) id)
  | '\\' :: letter :: rest =>
    (unescape? letter).bind fun char => (readQuoted rest).map (Prod.map (char :: ·) id)
  | char :: rest =>
    if char.toNat < 0x20 then none else (readQuoted rest).map (Prod.map (char :: ·) id)

private theorem exists_readQuoted_of_map {char : Char} {input text rest : List Char}
    (h : (readQuoted input).map (Prod.map (char :: ·) id) = some (text, rest)) :
    ∃ inner, readQuoted input = some (inner, rest) := by
  obtain ⟨read, hread, heq⟩ := Option.map_eq_some_iff.mp h
  cases heq
  exact ⟨read.1, hread⟩

private theorem length_of_readQuoted {input text rest : List Char}
    (h : readQuoted input = some (text, rest)) : rest.length < input.length := by
  fun_induction readQuoted input generalizing text with
  | case1 => cases h
  | case2 =>
    cases h
    exact Nat.lt_succ_self _
  | case3 a b c d tail ih =>
    obtain ⟨_, _, hmap⟩ := Option.bind_eq_some_iff.mp h
    obtain ⟨_, hread⟩ := exists_readQuoted_of_map hmap
    have := ih hread
    simp only [List.length_cons]
    omega
  | case4 letter tail _ ih =>
    obtain ⟨_, _, hmap⟩ := Option.bind_eq_some_iff.mp h
    obtain ⟨_, hread⟩ := exists_readQuoted_of_map hmap
    have := ih hread
    simp only [List.length_cons]
    omega
  | case5 => cases h
  | case6 char tail _ _ _ _ ih =>
    obtain ⟨_, hread⟩ := exists_readQuoted_of_map h
    exact Nat.lt_succ_of_lt (ih hread)

def lex : List Char → Option (List Token)
  | [] => some []
  | c :: rest =>
    if isBlank c then lex rest
    else
      match Token.ofMark? c with
      | some mark => (lex rest).map (mark :: ·)
      | none =>
        if c = '"' then
          match _found : readQuoted rest with
          | some (text, tail) => (lex tail).map (.value (.string (String.ofList text)) :: ·)
          | none => none
        else do
          let token ← Token.ofWord? (String.ofList ((c :: rest).takeWhile isWordChar))
          (lex (rest.dropWhile isWordChar)).map (token :: ·)
termination_by text => text.length
decreasing_by
  · exact Nat.lt_succ_self _
  · exact Nat.lt_succ_self _
  · have := length_of_readQuoted _found
    simp only [List.length_cons]
    omega
  · have hrest : (rest.dropWhile isWordChar).length ≤ rest.length :=
      (List.dropWhile_suffix isWordChar).length_le
    simp only [List.length_cons]
    omega

/-- The items of an array, from the tokens between its brackets. -/
def itemsOf? : List Token → Option (List Json)
  | [] => some []
  | [.value item] => some [item]
  | .value item :: .comma :: token :: rest => (itemsOf? (token :: rest)).map (item :: ·)
  | _ => none

def membersOf? : List Token → Option (List (String × Json))
  | [] => some []
  | [.value (.string name), .colon, .value value] => some [(name, value)]
  | .value (.string name) :: .colon :: .value value :: .comma :: token :: rest =>
    (membersOf? (token :: rest)).map ((name, value) :: ·)
  | _ => none

/-- An array or object that is still open, with the tokens inside it, the newest first. What was
opened and closed inside it is a value by now. -/
structure Frame where
  isObject : Bool
  inside : List Token

def Frame.push (token : Token) (frame : Frame) : Frame :=
  ⟨frame.isObject, token :: frame.inside⟩

/-- Takes one token. A closing one makes a value of the innermost frame. -/
def step (frames : List Frame) (token : Token) : Option (List Frame) :=
  match token, frames with
  | .openArray, frames => some (⟨false, []⟩ :: frames)
  | .openObject, frames => some (⟨true, []⟩ :: frames)
  | .closeArray, ⟨false, inside⟩ :: outer :: rest =>
    (itemsOf? inside.reverse).map fun items => outer.push (.value (.array items)) :: rest
  | .closeObject, ⟨true, inside⟩ :: outer :: rest =>
    (membersOf? inside.reverse).map fun members => outer.push (.value (.object members)) :: rest
  | .closeArray, _ => none
  | .closeObject, _ => none
  | token, frame :: rest => some (frame.push token :: rest)
  | _, [] => none

/-- The value that a text spells out, if it is one and nothing else. -/
def ofText? (text : String) : Option Json := do
  let tokens ← lex text.toList
  match ← tokens.foldlM step [⟨false, []⟩] with
  | [⟨_, [.value json]⟩] => some json
  | _ => none

end GpuTexture.Json
