import TagTemplate.Inspect
import TagTemplate.Main
import TagTemplate.Proofs.Tree.Writable
import TagTemplate.Proofs.Render.Items
import TagTemplate.Proofs.Tree.Faults
import TagTemplate.Proofs.Render.Calls
import TagTemplate.Proofs.Json.Context
import TagTemplate.Proofs.Json.Source
import TagTemplate.Proofs.Pattern.Locality
import TagTemplate.Proofs.Pattern.Cut
import TagTemplate.Proofs.Token.Layers
import TagTemplate.Proofs.Token.Stable
import TagTemplate.Proofs.Tree.Leaves
import TagTemplate.Proofs.Tree.Nested
import TagTemplate.Proofs.Markup.Source
import TagTemplate.Proofs.Token.Captures
import TagTemplate.Proofs.Command.Agreement
import TagTemplate.Proofs.Json.Kept
import TagTemplate.Proofs.Render.Rewriting
import TagTemplate.Proofs.Render.Uses
import TagTemplate.Proofs.Tree.Canonical
import TagTemplate.Proofs.Tree.TagNames
import TagTemplate.Proofs.Json.Tags
import TagTemplate.Proofs.Tree.Depth
import TagTemplate.Proofs.Tree.FaultPlace
import TagTemplate.Proofs.Number.Equality
import TagTemplate.Proofs.Json.Integers
