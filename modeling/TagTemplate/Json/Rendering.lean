import TagTemplate.Error
import TagTemplate.Json
import TagTemplate.Template

/-! Rendering to JSON: contexts made of JSON objects, and tags that show themselves. -/

namespace TagTemplate

namespace Json

/-- What a value is, in words. -/
def describe : Json → String
  | null => "null"
  | bool _ => "a boolean"
  | int _ => "a number"
  | float _ => "a number"
  | string _ => "a string"
  | array _ => "an array"
  | object _ => "an object"

/-- The context value of a JSON value. Integers beyond the signed machine word are rounded to double
precision. -/
def contextValue : Json → Value Json
  | string value => .text value
  | int value =>
    -- The range is that of a signed word; the unsigned one reaches twice as far.
    if Int64.minValue.toInt ≤ value ∧ value ≤ Int64.maxValue.toInt then
      .number (.int (.ofInt value))
    else .number (.float (.ofInt value))
  | float value => .number (.float value)
  | value => .ready value

/-- The context of a JSON object. -/
def context : Json → Except Failure (Context Json)
  | object members => .ok (.ofEntries (members.map fun (name, value) => (name, value.contextValue)))
  | value => .error (.context ("expected a JSON object, found " ++ value.describe))

/-- A tag as a JSON object. -/
def ofTag (name : String) (children : List Json) (index : Nat) : Json :=
  .ofMembers [("tag", .string name), ("children", .array children), ("key", .int index)]

/-- A run of text as a JSON value, with its index if asked for. -/
def ofTextRun (keyed : Bool) (text : String) (index : Nat) : Json :=
  if keyed then .ofMembers [("text", .string text), ("key", .int index)] else .string text

end Json

/-- The context with a renderer that shows the tag, for every tag of a tree that has no value. -/
def Context.withTags (context : Context Json) (tree : Tree) : Context Json :=
  tree.tagNames.foldl (fun context name =>
    -- What the context says about a name goes before the tag of that name.
    if context.contains name then context
    else context.insert name (.renderer (.element (Json.ofTag name)))) context

end TagTemplate
