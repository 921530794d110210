import Worksheet.Json.Token

/-!
JSON values, and their reading from tokens with a stack of the arrays and objects that are open.
-/

namespace Worksheet

/-- A JSON value, in which strings without characters and all other scalars are told apart only. -/
inductive Json
  | scalar
  | string (value : Option String)
  | array (items : List Json)
  | object (fields : List (Option String × Json))

namespace Json

/-- An array or object that is open, its latest part first. -/
inductive Container
  | array (items : List Json)
  | object (fields : List (Option String × Json)) (key : Option String)

/-- What may come next. -/
inductive Expected
  | value
  | valueOrClose
  | key
  | keyOrClose
  | colon
  | commaOrClose
deriving DecidableEq

/-- The reading of a value: the open containers, the innermost first, and the complete value. -/
structure Reader where
  containers : List Container
  expected : Expected
  complete : Option Json

namespace Reader

/-- Nothing has been read. -/
def start : Reader :=
  ⟨[], .value, none⟩

/-- Puts a complete value where it belongs. -/
def accept (value : Json) : List Container → Reader
  | [] => ⟨[], .commaOrClose, some value⟩
  | .array items :: outer => ⟨.array (value :: items) :: outer, .commaOrClose, none⟩
  | .object fields key :: outer =>
    ⟨.object ((key, value) :: fields) none :: outer, .commaOrClose, none⟩

/-- Takes a token that begins a value. -/
def begin (containers : List Container) : Token → Option Reader
  | .string value => some (accept (.string value) containers)
  | .scalar => some (accept .scalar containers)
  | .openBracket => some ⟨.array [] :: containers, .valueOrClose, none⟩
  | .openBrace => some ⟨.object [] none :: containers, .keyOrClose, none⟩
  | _ => none

/-- Takes a token that closes the innermost container. -/
def close : List Container → Token → Option Reader
  | .array items :: outer, .closeBracket => some (accept (.array items.reverse) outer)
  | .object fields _ :: outer, .closeBrace => some (accept (.object fields.reverse) outer)
  | _, _ => none

/-- Takes a string as the key of the innermost container. -/
def name : List Container → Token → Option Reader
  | .object fields _ :: outer, .string key => some ⟨.object fields key :: outer, .colon, none⟩
  | _, _ => none

/-- Takes one token. -/
def step (reader : Reader) (token : Token) : Option Reader :=
  match reader.expected with
  | .value => begin reader.containers token
  | .valueOrClose => begin reader.containers token <|> close reader.containers token
  | .key => name reader.containers token
  | .keyOrClose => name reader.containers token <|> close reader.containers token
  | .colon => if token = .colon then some { reader with expected := .value } else none
  | .commaOrClose =>
    match reader.containers, token with
    | .array _ :: _, .comma => some { reader with expected := .value }
    | .object _ _ :: _, .comma => some { reader with expected := .key }
    | containers, token => close containers token

end Reader

/-- The value that some tokens spell. -/
def ofTokens (tokens : List Token) : Option Json := do
  (← tokens.foldlM Reader.step .start).complete

/-- The value that a text spells. -/
def ofText (text : String) : Option Json := do
  ofTokens (← Token.ofText text)

/-- The characters of a value that is a string and has some. -/
def string? : Json → Option String
  | string value => value
  | _ => none

end Json

end Worksheet
