import TagTemplate.Json.Rendering

/-! What names give in contexts that are made of entries, of JSON objects and of the tags of a
tree. -/

namespace TagTemplate

namespace Context

variable {α : Type}

/-- Of entries that are put into a context the last one of a name counts, before what the context
had. -/
theorem get?_foldl_insert (context : Context α) (entries : List (String × Value α))
    (name : String) :
    (entries.foldl (fun context (name, value) => context.insert name value) context).get? name =
      (entries.reverse.lookup name).or (context.get? name) := by
  -- Each entry is put into the context that the entries before it left, so the context varies.
  induction entries generalizing context with
  | nil => rfl
  | cons entry rest ih =>
    obtain ⟨other, value⟩ := entry
    have single :
        List.lookup name [(other, value)] = if name = other then some value else none := by
      rw [List.lookup_cons, List.lookup_nil]
      split <;> simp_all
    rw [List.foldl_cons, ih, List.reverse_cons, List.lookup_append, Option.or_assoc, get?_insert,
      single]
    -- A later entry of the name goes before this one, and this one before the context.
    by_cases same : name = other <;> simp [same]

/-- A context of entries gives the last entry of a name. -/
theorem get?_ofEntries (entries : List (String × Value α)) (name : String) :
    (ofEntries entries).get? name = entries.reverse.lookup name := by
  -- The entries are put into the empty context, which has no names.
  have nothing : (empty : Context α).get? name = none := rfl
  rw [ofEntries, get?_foldl_insert, nothing, Option.or_none]

/-- A context completed by renderers for some names gives what it gave, or the renderer. -/
theorem get?_foldl_tag (context : Context Json) (names : List String) (name : String) :
    (names.foldl (fun context name =>
        if context.contains name then context
        else context.insert name (.renderer (.element (Json.ofTag name)))) context).get? name =
      (context.get? name).or
        (if name ∈ names then some (.renderer (.element (Json.ofTag name))) else none) := by
  -- The context varies, as each name may add a renderer before the next one is looked at.
  induction names generalizing context with
  | nil => simp
  | cons other rest ih =>
    rw [List.foldl_cons, ih]
    by_cases same : name = other
    · subst same
      -- The name has a value from here on, its own or the renderer.
      cases held : context.get? name <;> simp [contains, held]
    · -- Another name is no matter, whether its renderer is added or not.
      by_cases known : context.contains other <;> simp [known, same]

/-- A context completed by the tags of a tree gives what it gave, or the renderer of the tag. -/
theorem get?_withTags (context : Context Json) (tree : Tree) (name : String) :
    (context.withTags tree).get? name =
      (context.get? name).or
        (if name ∈ tree.tagNames then some (.renderer (.element (Json.ofTag name))) else none) :=
  get?_foldl_tag context tree.tagNames name

end Context

namespace Json

/-- The context of an object, in which the last member of a name counts. -/
theorem exists_context_object (members : List (String × Json)) :
    ∃ context : Context Json, (object members).context = .ok context ∧
      ∀ name, context.get? name = (members.reverse.lookup name).map contextValue := by
  refine ⟨_, rfl, fun name => ?_⟩
  -- The members become entries one by one, in the same order.
  rw [Context.get?_ofEntries, ← List.map_reverse]
  exact Entries.lookup_map contextValue name members.reverse

end Json

end TagTemplate
