import SelfUpdate.Json.Token

/-!
# JSON values

A value is read token by token. The arrays and objects that have been begun but not
ended are kept in a list, the innermost first, so that values may be nested to any
depth. A comma must be followed by another item or member.
-/

namespace SelfUpdate.Json

/-- A value. Of a number or word only its presence is kept. -/
inductive Value where
  | plain
  | text (pieces : List Piece)
  | array (items : List Value)
  | object (members : List (List Piece × Value))
  deriving Repr

/-- An array or object that has been begun, with what came before the value that is now
read, the latest first. -/
inductive Enclosure where
  | array (before : List Value)
  | object (before : List (List Piece × Value)) (key : List Piece)
  deriving Repr

/-- What may come next. In the place of a first item or key an array or object may also end. -/
inductive Expected where
  | value
  | firstItem
  | firstKey
  | key (before : List (List Piece × Value))
  | colon (before : List (List Piece × Value)) (key : List Piece)
  | after (value : Value)
  deriving Repr

structure Position where
  expected : Expected
  enclosures : List Enclosure
  deriving Repr

namespace Position

def start : Position := ⟨.value, []⟩

/-- Go on past a token with which a value begins. -/
def begin? (enclosures : List Enclosure) : Token → Option Position
  | .plain => some ⟨.after .plain, enclosures⟩
  | .text pieces => some ⟨.after (.text pieces), enclosures⟩
  | .openArray => some ⟨.firstItem, enclosures⟩
  | .openObject => some ⟨.firstKey, enclosures⟩
  | _ => none

/-- Go on past a token, if it may come here. -/
def step? (position : Position) (token : Token) : Option Position :=
  match position.expected, position.enclosures, token with
  | .value, outer, token => begin? outer token
  | .firstItem, outer, .closeArray => some ⟨.after (.array []), outer⟩
  | .firstItem, outer, token => begin? (.array [] :: outer) token
  | .firstKey, outer, .closeObject => some ⟨.after (.object []), outer⟩
  | .firstKey, outer, .text key => some ⟨.colon [] key, outer⟩
  | .key before, outer, .text key => some ⟨.colon before key, outer⟩
  | .colon before key, outer, .colon => some ⟨.value, .object before key :: outer⟩
  | .after item, .array before :: outer, .comma =>
      some ⟨.value, .array (item :: before) :: outer⟩
  | .after item, .array before :: outer, .closeArray =>
      some ⟨.after (.array (item :: before).reverse), outer⟩
  | .after value, .object before key :: outer, .comma =>
      some ⟨.key ((key, value) :: before), outer⟩
  | .after value, .object before key :: outer, .closeObject =>
      some ⟨.after (.object ((key, value) :: before).reverse), outer⟩
  | _, _, _ => none

/-- The value that has been read, if the document may end here. -/
def end? (position : Position) : Option Value :=
  match position.expected, position.enclosures with
  | .after value, [] => some value
  | _, _ => none

end Position

def Value.ofBytes? (bytes : Bytes) : Option Value := do
  (← (← scan bytes).foldlM Position.step? .start).end?

end SelfUpdate.Json
