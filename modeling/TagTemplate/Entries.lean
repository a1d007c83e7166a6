/-! Lists of values by name, each name at most once when built by `put`. -/

namespace TagTemplate.Entries

variable {α : Type}

/-- The entries with a value put under a name, in place of the one that was there. -/
def put (name : String) (value : α) : List (String × α) → List (String × α)
  | [] => [(name, value)]
  | (other, held) :: rest =>
    if name = other then (name, value) :: rest else (other, held) :: put name value rest

/-- After a value was put under a name, that name gives it and all others give what they gave. -/
theorem lookup_put (name other : String) (value : α) (entries : List (String × α)) :
    (put name value entries).lookup other =
      if other = name then some value else entries.lookup other := by
  induction entries with
  | nil => grind [put]
  | cons entry rest ih =>
    -- Either the first entry has the name and gives way, or the value is put further down.
    unfold put
    grind

/-- A value that is put under a name makes one entry more, unless the name had a value. -/
theorem length_put (name : String) (value : α) (entries : List (String × α)) :
    (put name value entries).length =
      if (entries.lookup name).isSome then entries.length else entries.length + 1 := by
  induction entries with
  | nil => rfl
  | cons entry rest ih =>
    obtain ⟨other, held⟩ := entry
    by_cases same : name = other
    · simp [put, same]
    · have apart : (name == other) = false := beq_false_of_ne same
      rw [put, if_neg same, List.length_cons, ih, List.lookup_cons, apart]
      -- The value goes to the entries behind, which hold the name or do not.
      split <;> rfl

/-- A name has the value that is made of the one it had. -/
theorem lookup_map {β : Type} (f : α → β) (name : String) (entries : List (String × α)) :
    (entries.map fun (name, value) => (name, f value)).lookup name =
      (entries.lookup name).map f := by
  -- Names are kept as they are, so the same entry is found.
  induction entries with
  | nil => rfl
  | cons entry rest ih =>
    obtain ⟨other, value⟩ := entry
    rw [List.map_cons, List.lookup_cons, List.lookup_cons, ih]
    cases name == other <;> rfl

end TagTemplate.Entries
