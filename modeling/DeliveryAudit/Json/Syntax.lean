import DeliveryAudit.Text.CodePoint
/-!
# JSON values

A JSON value as it is written. The members of an object stand in writing
order and a name may occur more than once; `latest` gives every name its
last value, at the place where the name first occurred.
-/

namespace DeliveryAudit

/-- A JSON value, as written. -/
inductive Json where
  | null
  | bool (b : Bool)
  | int (n : Int)
  | real (x : Float)
  | text (t : Text)
  | array (items : List Json)
  | object (members : List (Text × Json))

namespace Json

instance : Inhabited Json := ⟨null⟩

/-- What a value is called in a message. -/
def kindName : Json → String
  | null => "NoneType"
  | bool _ => "bool"
  | int _ => "int"
  | real _ => "float"
  | text _ => "str"
  | array _ => "list"
  | object _ => "dict"

/-- Members with the value of the member `name` set: in its place if the
name is there, at the end otherwise. -/
def setMember (name : Text) (v : Json) : List (Text × Json) → List (Text × Json)
  | [] => [(name, v)]
  | (k, w) :: rest => if k = name then (k, v) :: rest else (k, w) :: setMember name v rest

/-- Members as written, each name once: the last value wins, the first
place stays. -/
def latest (members : List (Text × Json)) : List (Text × Json) :=
  members.foldl (fun kept m => setMember m.1 m.2 kept) []

/-- The value of the first member of this name. -/
def member? (name : Text) : List (Text × Json) → Option Json
  | [] => none
  | (k, v) :: rest => if k = name then some v else member? name rest

end Json

end DeliveryAudit
