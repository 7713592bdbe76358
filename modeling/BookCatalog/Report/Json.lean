import BookCatalog.Text.Quoted

/-!
# JSON

Values of JSON and their written form: every field and every item on a line of its own, indented by
two blanks a level, and every character as it is unless the notation needs an escape.
-/

namespace BookCatalog

/-- A value of JSON. The fields of an object have an order. -/
inductive Json where
  | null
  | bool (b : Bool)
  | integer (n : Int)
  | text (s : String)
  | array (items : List Json)
  | object (fields : List (String × Json))

namespace Json

/-- One character between quotes. -/
def escaped (c : Char) : List Char :=
  match c with
  | '"' => ['\\', '"']
  | '\\' => ['\\', '\\']
  | '\n' => ['\\', 'n']
  | '\r' => ['\\', 'r']
  | '\t' => ['\\', 't']
  | '\x08' => ['\\', 'b']
  | '\x0c' => ['\\', 'f']
  | c => if c.toNat < 0x20 then '\\' :: 'u' :: Text.hexDigits 4 c.toNat else [c]

/-- A text between quotes. -/
def quoted (s : String) : String :=
  String.ofList ('"' :: s.toList.flatMap escaped ++ ['"'])

/-- A line break and the indentation of a level. -/
def newline (level : Nat) : String :=
  String.ofList ('\n' :: List.replicate (2 * level) ' ')

/-- Written items between brackets, each on a line of its own. -/
def bracketed (level : Nat) (opening closing : String) (items : List String) : String :=
  if items.isEmpty then opening ++ closing
  else
    String.join
      [opening, newline (level + 1), String.intercalate ("," ++ newline (level + 1)) items,
        newline level, closing]

mutual

/-- The written form of a value at a level. -/
def render (level : Nat) : Json → String
  | .null => "null"
  | .bool b => if b then "true" else "false"
  | .integer n => toString n
  | .text s => quoted s
  | .array items => bracketed level "[" "]" (renderItems (level + 1) items)
  | .object fields => bracketed level "\x7b" "\x7d" (renderFields (level + 1) fields)

/-- The written forms of items. -/
def renderItems (level : Nat) : List Json → List String
  | [] => []
  | item :: rest => render level item :: renderItems level rest

/-- The written forms of fields. -/
def renderFields (level : Nat) : List (String × Json) → List String
  | [] => []
  | (name, value) :: rest =>
    (quoted name ++ ": " ++ render level value) :: renderFields level rest

end

/-- The written form of a value. -/
def pretty (j : Json) : String :=
  render 0 j

end Json

end BookCatalog
