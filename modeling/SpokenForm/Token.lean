import SpokenForm.Text

/-! Semiotic tokens: ordered fields, each a quoted leaf, a flag or a nested token. -/
namespace SpokenForm

/-- A field names a text, a truth value or a nested token. -/
inductive Field where
  | leaf (key text : Text)
  | flag (key : Text) (value : Bool)
  | nested (key : Text) (fields : List Field)
deriving BEq, Repr

/-- A token is the list of its fields, in source order. -/
abbrev Token := List Field

def Field.key : Field → Text
  | leaf key _ => key
  | flag key _ => key
  | nested key _ => key

mutual

/-- A leaf is quoted verbatim, and a nested token stands in braces. -/
def Field.serialize : Field → Text
  | .leaf key text => key ++ ": \"".toList ++ text ++ ['"']
  | .flag key value => key ++ (if value then ": true" else ": false").toList
  | .nested key fields =>
    match Field.serializeEach fields with
    | [] => key ++ " \x7b \x7d".toList
    | pieces => key ++ " \x7b ".toList ++ Text.joinSpaced pieces ++ " \x7d".toList

/-- The fields of a token, one by one. -/
def Field.serializeEach : List Field → List Text
  | [] => []
  | field :: rest => field.serialize :: Field.serializeEach rest

end

theorem Field.serializeEach_eq (fields : List Field) :
    Field.serializeEach fields = fields.map Field.serialize := by
  induction fields with
  | nil => rfl
  | cons field rest ih => simp [Field.serializeEach, ih]

namespace Token

/-- The field that marks its token as ordered. -/
def preserveOrderKey : Text := "preserve_order".toList

/-- The field that lists the names of its token's fields in their order. -/
def fieldOrderKey : Text := "field_order".toList

def get? (token : Token) (name : Text) : Option Field :=
  token.find? fun field => field.key == name

def preservesOrder (token : Token) : Bool :=
  match get? token preserveOrderKey with
  | some (.flag _ value) => value
  | _ => false

def fieldOrder? (token : Token) : Option (List Text) :=
  match get? token fieldOrderKey with
  | some (.leaf _ order) => some order.words
  | _ => none

/-- Whether the order of the fields is settled. -/
def isOrderFixed (token : Token) : Bool := preservesOrder token || (fieldOrder? token).isSome

/-- The class of a top-level token: the name of the first field inside its block, or of its first
field when that is no block. -/
def semioticClass? : Token → Option Text
  | [] => none
  | .nested _ fields :: _ => fields.head?.map Field.key
  | field :: _ => some field.key

/-- Fields in source order, separated by single spaces. -/
def serialize (token : Token) : Text := Text.joinSpaced (token.map Field.serialize)

/-- Tokens in order, separated by single spaces. -/
def serializeAll (tokens : List Token) : Text := Text.joinSpaced (tokens.map serialize)

end Token

end SpokenForm
