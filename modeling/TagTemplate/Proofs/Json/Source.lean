import TagTemplate.Proofs.Json.Context
import TagTemplate.Proofs.Tree.Filled

/-! What a template is rendered to as JSON can be read back as its source, with the values of its
placeholders filled in. -/

namespace TagTemplate

namespace Json

mutual

/-- The source that a value shows, if it is text or a tag. -/
def source? : Json → Option String
  | string text => some text
  | object [("children", array children), ("key", int _), ("tag", string name)] =>
    (sources? children).map fun inner => "<" ++ name ++ ">" ++ inner ++ ("</" ++ name ++ ">")
  | _ => none

/-- The source that values show, one after another. -/
def sources? : List Json → Option String
  | [] => some ""
  | value :: rest => do return (← value.source?) ++ (← sources? rest)

end

/-- A tag shows its own source around that of its children. -/
theorem source?_ofTag (name : String) (children : List Json) (index : Nat) :
    (ofTag name children index).source? =
      (sources? children).map fun inner =>
        "<" ++ name ++ ">" ++ inner ++ ("</" ++ name ++ ">") := by
  -- A tag is written as an object whose members stand in the order of their names.
  have members : ofTag name children index =
      object [("children", array children), ("key", int index), ("tag", string name)] := rfl
  rw [members, source?]

/-- The source that values show grows with each value. -/
theorem sources?_concat (values : List Json) {value : Json} {text : String}
    (shown : value.source? = some text) :
    sources? (values ++ [value]) = (sources? values).map (· ++ text) := by
  -- The source is put together from the front, so the new value is passed to the end of the list.
  induction values with
  | nil => simp [sources?, shown]
  | cons first rest ih =>
    rw [List.cons_append, sources?, ih, sources?]
    cases first.source? <;> cases sources? rest <;> simp [String.append_assoc]

/-- Whether a value joins the text around its placeholder: strings and numbers do. -/
def IsInline : Json → Prop
  | string _ => True
  | int _ => True
  | float _ => True
  | _ => False

/-- The text that a value puts in place of its placeholder, a number in decimal form. -/
def inlineText (value : Json) : String :=
  match value.contextValue with
  | .text content => content
  | .number number => number.display
  | _ => ""

/-- The text that the members of an object put in place of a placeholder; of members with the same
name the last one counts, and a name without a member leaves nothing. -/
def fill (members : List (String × Json)) (name : String) : String :=
  match members.reverse.lookup name with
  | some value => value.inlineText
  | none => ""

end Json

/-- The usual markup, with output values in JSON and runs of text as strings. -/
def Config.json : Config Json :=
  .plain (Json.ofTextRun false)

/-- The text that a placeholder leaves where missing names are not handled, unless it leaves an
output value. -/
def Context.inline? (context : Context Json) (name : String) : Option String :=
  match context.get? name with
  | none => some ""
  | some (.text content) => some content
  | some (.number number) => some number.display
  | some (.renderer _) => some ""
  | some (.ready _) => none

/-- Whether a context shows the tags of nodes and puts the given texts in place of placeholders. -/
structure Context.Shows (context : Context Json) (fill : String → String) (nodes : List Node) :
    Prop where
  tags : ∀ name ∈ Node.allTags nodes,
    context.get? name = some (.renderer (.element (Json.ofTag name)))
  placeholders : ∀ name ∈ Node.allPlaceholders nodes, context.inline? name = some (fill name)

namespace Level

variable {context : Context Json} {fill : String → String}

/-- The source that a level shows so far, with the text that waits. -/
def source? (level : Level Json) : Option String :=
  (Json.sources? level.output.reverse).map (· ++ String.join level.waiting.reverse)

/-- Text shown behind text that is shown behind all else. -/
theorem map_append_append (shown : Option String) (first second : String) :
    (shown.map (· ++ first)).map (· ++ second) = shown.map (· ++ (first ++ second)) := by
  -- Nothing is shown only if something before shows nothing.
  cases shown <;> simp [String.append_assoc]

/-- Text that is queued is shown behind all else. -/
theorem source?_queue (level : Level Json) (content : String) :
    (level.queue content).source? = level.source?.map (· ++ content) := by
  -- The text waits behind the other waiting texts, which are shown last.
  rw [source?, source?, map_append_append]
  simp [queue]

/-- Ending a run of text shows nothing new. -/
theorem source?_flush (level : Level Json) : (level.flush .json).source? = level.source? := by
  obtain ⟨output, waiting⟩ := level
  cases waiting with
  | nil => rfl
  | cons last others =>
    -- The run becomes a string, which shows the joined text.
    have shown : (Config.json.wrapText (String.join (last :: others).reverse)
        (Level.mk output (last :: others)).index).source? =
          some (String.join (last :: others).reverse) := by
      simp [Config.json, Config.plain, Json.ofTextRun, Json.source?]
    simp only [source?, flush, List.reverse_cons] at shown ⊢
    rw [Json.sources?_concat _ shown, map_append_append]
    simp

/-- An output value is shown behind all else, if no text waits. -/
theorem source?_push {level : Level Json} (idle : level.waiting = []) {value : Json}
    {text : String} (shown : value.source? = some text) :
    (level.push value).source? = level.source?.map (· ++ text) := by
  -- No text waits, so the end of the output is the end of what is shown.
  simp only [source?, push, idle, List.reverse_cons, Json.sources?_concat _ shown,
    map_append_append]
  simp

/-- A placeholder is shown as the text that it leaves. -/
theorem source?_placeholder (level : Level Json) {name text : String}
    (inline : context.inline? name = some text) :
    (level.placeholder .json context name).source? = level.source?.map (· ++ text) := by
  unfold Context.inline? at inline
  unfold placeholder
  -- Both look the name up, and only an output value leaves no text.
  cases found : context.get? name with
  | none =>
    -- There is no handler, so the level stays as it is.
    obtain rfl : "" = text := by simpa [found] using inline
    simp [miss, Config.json, Config.plain]
  | some value =>
    cases value with
    | text content =>
      obtain rfl : content = text := by simpa [found] using inline
      exact level.source?_queue content
    | number number =>
      obtain rfl : number.display = text := by simpa [found] using inline
      exact level.source?_queue number.display
    | renderer renderer =>
      -- The run of text ends, which does not show.
      obtain rfl : "" = text := by simpa [found] using inline
      simp [source?_flush]
    | ready value => simp [found] at inline

/-- A tag without children is shown as a pair of tags. -/
theorem source?_leaf (level : Level Json) {name : String}
    (found : context.get? name = some (.renderer (.element (Json.ofTag name)))) :
    (level.leaf .json context name).source? =
      level.source?.map (· ++ ("<" ++ name ++ ">" ++ ("</" ++ name ++ ">"))) := by
  -- A leaf is rendered as a tag without children, so its own pair of tags is all it shows.
  have shown := Json.source?_ofTag name [] (level.flush .json).index
  rw [Json.sources?, Option.map_some] at shown
  simp only [leaf, found, Renderer.renderLeaf]
  -- The run of text that ends in front of it shows what it showed while it waited.
  rw [source?_push (level.waiting_flush .json) shown, source?_flush, String.append_empty]

/-- A tag with children is shown around what the children show. -/
theorem source?_element (level : Level Json) {name inner : String} {children : List Json}
    (found : context.get? name = some (.renderer (.element (Json.ofTag name))))
    (inside : Json.sources? children = some inner) :
    (level.element .json context name children).source? =
      level.source?.map (· ++ ("<" ++ name ++ ">" ++ inner ++ ("</" ++ name ++ ">"))) := by
  -- As for a leaf, with the source of the children between the tags.
  have shown := Json.source?_ofTag name children (level.flush .json).index
  rw [inside, Option.map_some] at shown
  simp only [element, found, Renderer.renderElement]
  rw [source?_push (level.waiting_flush .json) shown, source?_flush]

/-- A finished level shows what it showed before. -/
theorem sources?_finish (level : Level Json) :
    Json.sources? (level.finish .json) = level.source? := by
  -- The end of the last run shows nothing new, and afterwards no text waits.
  rw [← level.source?_flush]
  simp [finish, source?]

/-- Rendered nodes are shown as their source with the placeholders filled in. -/
theorem source?_renderAll {nodes : List Node} (shows : context.Shows fill nodes)
    (level : Level Json) :
    (Node.renderAll .json context level nodes).source? =
      level.source?.map (· ++ Node.allFilled fill nodes) := by
  -- The induction is over siblings and children; what a level shows grows with each node.
  induction nodes using Node.siblings_induction generalizing level with
  | nil => simp [Node.renderAll, Node.allFilled]
  | text content rest ih =>
    rw [Node.renderAll, ih ⟨shows.tags, shows.placeholders⟩, Node.render, source?_queue,
      map_append_append, Node.allFilled, Node.filled]
  | placeholder name rest ih =>
    obtain ⟨tags, placeholders⟩ := shows
    obtain ⟨first, later⟩ := List.forall_mem_cons.mp placeholders
    rw [Node.renderAll, ih ⟨tags, later⟩, Node.render, source?_placeholder level first,
      map_append_append, Node.allFilled, Node.filled]
  | leaf name rest ih =>
    obtain ⟨tags, placeholders⟩ := shows
    obtain ⟨first, later⟩ := List.forall_mem_cons.mp tags
    rw [Node.renderAll, ih ⟨later, placeholders⟩, Node.render, source?_leaf level first,
      map_append_append, Node.allFilled, Node.filled]
  | element name opening children rest inside after =>
    obtain ⟨tags, placeholders⟩ := shows
    simp only [Node.allTags, Node.tags, Node.allPlaceholders, Node.placeholders, List.cons_append,
      List.forall_mem_cons, List.forall_mem_append] at tags placeholders
    obtain ⟨found, innerTags, laterTags⟩ := tags
    obtain ⟨innerTexts, laterTexts⟩ := placeholders
    -- The children are shown by themselves, on a level that starts with nothing.
    have below : Json.sources? ((Node.renderAll .json context .start children).finish .json) =
        some (Node.allFilled fill children) := by
      rw [sources?_finish, inside ⟨innerTags, innerTexts⟩]
      simp [source?, start, Json.sources?]
    rw [Node.renderAll, after ⟨laterTags, laterTexts⟩, Node.render,
      source?_element level found below, map_append_append, Node.allFilled, Node.filled]

end Level

namespace Json

/-- Strings and numbers join the text around a placeholder as their text. -/
theorem IsInline.contextValue {value : Json} (inline : value.IsInline) :
    value.contextValue = .text value.inlineText ∨
      ∃ number, value.contextValue = .number number ∧ value.inlineText = number.display := by
  cases value with
  | string text => exact Or.inl rfl
  | int value =>
    -- An integer beyond a signed word is taken as a float, which is a number too.
    have kind : ∃ number, (int value).contextValue = .number number := by
      rw [Json.contextValue]
      split <;> exact ⟨_, rfl⟩
    obtain ⟨number, same⟩ := kind
    exact Or.inr ⟨number, same, by simp [inlineText, same]⟩
  | float value => exact Or.inr ⟨_, rfl, rfl⟩
  | _ => cases inline

/-- What a name gives among the members of an object is one of them. -/
theorem mem_of_lookup_reverse {members : List (String × Json)} {name : String} {value : Json}
    (found : members.reverse.lookup name = some value) : (name, value) ∈ members := by
  -- What is found in the reversed members stands somewhere among them.
  obtain ⟨front, back, split, _⟩ := List.lookup_eq_some_iff.mp found
  rw [← List.mem_reverse, split]
  simp

/-- The context of an object, completed by the tags of a tree, shows these tags and puts the texts
of the members in place of placeholders. -/
theorem shows_withTags {members : List (String × Json)} {context : Context Json} {tree : Tree}
    (held : ∀ name, context.get? name = (members.reverse.lookup name).map contextValue)
    (untagged : ∀ member ∈ members, member.1 ∉ tree.tagNames)
    (inline : ∀ member ∈ members, member.1 ∈ Node.allPlaceholders tree.children →
      member.2.IsInline) :
    (context.withTags tree).Shows (fill members) tree.children := by
  constructor
  · -- No member has the name of a tag, so the tag has its own renderer.
    intro name tag
    have listed : name ∈ tree.tagNames := Tree.mem_tagNames.mpr tag
    have absent : members.reverse.lookup name = none := by
      rw [Option.eq_none_iff_forall_ne_some]
      intro value found
      exact untagged _ (mem_of_lookup_reverse found) listed
    simp [Context.get?_withTags, held, absent, listed]
  · -- A placeholder finds its member if there is one, which joins the text.
    intro name placeholder
    unfold Context.inline? fill
    rw [Context.get?_withTags, held]
    cases found : members.reverse.lookup name with
    | none =>
      -- The name can still be that of a tag, whose renderer leaves nothing here.
      by_cases listed : name ∈ tree.tagNames <;> simp [listed]
    | some value =>
      have fits := inline _ (mem_of_lookup_reverse found) placeholder
      rcases fits.contextValue with same | ⟨_, same, text⟩
      · simp [same]
      · simp [same, text]

end Json

/-- Without a written markup the configuration is the usual one. -/
theorem Config.ofSource_empty : Config.ofSource {} (Json.ofTextRun false) = .ok .json :=
  rfl

namespace Template

/-- A compiled template holds the tree that was read and its configuration. -/
theorem tree_of_compile {α : Type} {source : String} {config : Config α} {template : Template α}
    (compiled : compile source config = .ok template) :
    ∃ tree, Tree.parse source config = .ok tree ∧ template = ⟨tree, config⟩ := by
  -- Compiling only adds the configuration to the tree.
  unfold compile at compiled
  cases read : Tree.parse source config with
  | error error => simp [read, Except.map] at compiled
  | ok tree => exact ⟨tree, rfl, by simpa [read, Except.map] using compiled.symm⟩

/-- What a template in the usual markup is rendered to with the members of an object, none of which
has the name of a tag, is read back as the template with each placeholder replaced by the text of
its member, or by nothing, and each tag of a whole element replaced by a pair of tags. The usual
markup is the one that the program takes if none is written. -/
theorem sources?_render (source : String) (template : Template Json)
    (members : List (String × Json))
    (compiled : Template.compile source Config.json = .ok template)
    (untagged : ∀ member ∈ members, member.1 ∉ template.tree.tagNames)
    (inline : ∀ member ∈ members, member.1 ∈ Node.allPlaceholders template.tree.children →
      member.2.IsInline) :
    Config.ofSource {} (Json.ofTextRun false) = .ok Config.json ∧
    ∃ context : Context Json, (Json.object members).context = .ok context ∧
      Json.sources? (template.render (context.withTags template.tree)) =
        some (String.join ((tokenize Markup.plain.categories source).map
          (Token.filled (Json.fill members)))) := by
  refine ⟨Config.ofSource_empty, ?_⟩
  -- The level of the whole tree starts with nothing and shows the filled tree at its end.
  obtain ⟨context, made, held⟩ := Json.exists_context_object members
  refine ⟨context, made, ?_⟩
  obtain ⟨tree, read, rfl⟩ := tree_of_compile compiled
  have shows := Json.shows_withTags held untagged inline
  rw [render, Tree.render, Level.sources?_finish, Level.source?_renderAll shows,
    ← Tree.allFilled_of_parse read]
  simp [Level.source?, Level.start, Json.sources?]

/-- A template with nested text, a placeholder that has the name of a tag, and a number. -/
theorem sources?_render_nested :
    let members := [("n", Json.int 5), ("x", .string "s")]
    ∃ (template : Template Json) (context : Context Json),
      compile "é<b>\x7bx\x7d\x7bb\x7d</b><c/>\x7bn\x7d" Config.json = .ok template ∧
      (∀ member ∈ members, member.1 ∉ template.tree.tagNames) ∧
      (∀ member ∈ members, member.1 ∈ Node.allPlaceholders template.tree.children →
        member.2.IsInline) ∧
      (Json.object members).context = .ok context ∧
      Json.sources? (template.render (context.withTags template.tree)) =
        some "é<b>s</b><c></c>5" := by
  intro members
  let tree : Tree :=
    ⟨[.text "é", .element "b" "<b>" [.placeholder "x", .placeholder "b"], .leaf "c",
      .placeholder "n"]⟩
  -- The template is read once; the rest is about its tree.
  have compiled : compile "é<b>\x7bx\x7d\x7bb\x7d</b><c/>\x7bn\x7d" Config.json =
      .ok ⟨tree, Config.json⟩ := rfl
  have untagged : ∀ member ∈ members, member.1 ∉ tree.tagNames := by decide
  have inline : ∀ member ∈ members, member.1 ∈ Node.allPlaceholders tree.children →
      member.2.IsInline := by simp [members, Json.IsInline]
  obtain ⟨_, context, made, shown⟩ :=
    sources?_render _ ⟨tree, Config.json⟩ members compiled untagged inline
  exact ⟨_, context, compiled, untagged, inline, made, shown⟩

end Template

end TagTemplate
