import Lamplighter.Json.Token

/-!
# Reading JSON values

Tokens are put together into a value one by one. A `Reader` holds the containers that have been
opened and not closed, innermost first, and what may come next. There is no bound on how many
containers may be open.
-/

namespace Lamplighter.Json

/-- A container of which a part has been read. Items and fields stand newest first; a field whose
value is being read has only its key. -/
inductive Container where
  | array (newestFirst : List Value)
  | object (newestFirst : List (Text × Value)) (key : Text)

/-- What has been read, and what may come next. -/
inductive Reader where
  /-- A value must come. -/
  | value (opened : List Container)
  /-- An array has been opened: an item or its end must come. -/
  | itemOrEnd (opened : List Container)
  /-- An object has been opened: a key or its end must come. -/
  | keyOrEnd (opened : List Container)
  /-- A comma has been read in an object: a key must come. -/
  | key (opened : List Container) (newestFirst : List (Text × Value))
  /-- A key has been read: a colon must come. -/
  | colon (opened : List Container) (newestFirst : List (Text × Value)) (key : Text)
  /-- A value is complete: the container around it goes on or ends. -/
  | complete (opened : List Container) (value : Value)

namespace Reader

/-- Read the first token of a value. -/
def begin? (opened : List Container) : Token → Option Reader
  | .openArray => some (itemOrEnd opened)
  | .openObject => some (keyOrEnd opened)
  | .scalar scalar => some (complete opened (.scalar scalar))
  | _ => none

/-- Read one token. -/
def step : Reader → Token → Option Reader
  | value opened, token => begin? opened token
  | itemOrEnd opened, .closeArray => some (complete opened (.array []))
  | itemOrEnd opened, token => begin? (.array [] :: opened) token
  | keyOrEnd opened, .closeObject => some (complete opened (.object []))
  | keyOrEnd opened, .scalar (.text text) => some (colon opened [] text)
  | key opened fields, .scalar (.text text) => some (colon opened fields text)
  | colon opened fields text, .colon => some (value (.object fields text :: opened))
  | complete (.array items :: opened) item, .comma =>
      some (value (.array (item :: items) :: opened))
  | complete (.array items :: opened) item, .closeArray =>
      some (complete opened (.array (item :: items).reverse))
  | complete (.object fields text :: opened) item, .comma =>
      some (key opened ((text, item) :: fields))
  | complete (.object fields text :: opened) item, .closeObject =>
      some (complete opened (.object ((text, item) :: fields).reverse))
  | _, _ => none

/-- Read tokens to their end. -/
def run : Reader → List Token → Option Value
  | complete [] whole, [] => some whole
  | _, [] => none
  | reader, token :: rest => (reader.step token).bind (·.run rest)

end Reader

/-- The value that a list of tokens spells. -/
def Value.ofTokens? (tokens : List Token) : Option Value := (Reader.value []).run tokens

/-- The value that a text spells. -/
def Value.read? (text : String) : Option Value :=
  (Token.ofText? text.toList).bind Value.ofTokens?

end Lamplighter.Json
