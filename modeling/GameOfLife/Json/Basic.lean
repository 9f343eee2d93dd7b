/-!
JSON values: whole numbers are the only numbers here, and the members of an object keep their order.
-/

set_option autoImplicit false
set_option relaxedAutoImplicit false

namespace GameOfLife.Json

inductive Value where
  | null
  | bool (value : Bool)
  | number (value : Nat)
  | string (text : String)
  | array (elements : List Value)
  | object (members : List (String × Value))

namespace Value

def ofOption {α : Type} (encode : α → Value) : Option α → Value
  | none => null
  | some value => encode value

def ofList {α : Type} (encode : α → Value) (values : List α) : Value :=
  array (values.map encode)

end Value

end GameOfLife.Json
