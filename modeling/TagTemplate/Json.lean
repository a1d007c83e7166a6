import TagTemplate.Number.Binary64

/-! JSON values. -/

namespace TagTemplate

/-- A JSON value. Members of objects that were read or built have ascending, distinct names. -/
inductive Json where
  | null
  | bool (value : Bool)
  /-- An integer of a signed or unsigned machine word. -/
  | int (value : Int)
  | float (value : Binary64)
  | string (value : String)
  | array (items : List Json)
  | object (members : List (String × Json))
  deriving Inhabited

namespace Json

/-- The members with one more; a member of the same name is replaced. -/
def insertMember (name : String) (value : Json) : List (String × Json) → List (String × Json)
  | [] => [(name, value)]
  | (other, held) :: rest =>
    if name = other then (name, value) :: rest
    -- The first greater name marks the place of a new one.
    else if name < other then (name, value) :: (other, held) :: rest
    else (other, held) :: insertMember name value rest

/-- The object of some members; of members with the same name the last one counts. -/
def ofMembers (members : List (String × Json)) : Json :=
  object (members.foldl (fun held (name, value) => insertMember name value held) [])

/-- The value of a member of an object. -/
def member? (json : Json) (name : String) : Option Json :=
  match json with
  | object members => members.lookup name
  | _ => none

end Json

end TagTemplate
