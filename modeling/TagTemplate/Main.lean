import TagTemplate.Command

/-! The program: looks at the files that a request may read, and prints its outcome. -/

open TagTemplate

/-- What a path leads to on disk. -/
def lookAt (path : String) : IO (Option FileEntry) := do
  try
    return some (.file (← IO.FS.readBinFile path))
  catch
    | .noFileOrDirectory .. => return none
    | .inappropriateType .. => return some .directory
    | _ => return some .unreadable

/-- Runs the command line. -/
def main (arguments : List String) : IO UInt32 := do
  let request := Command.Request.ofArguments arguments
  let entries ← request.paths.mapM fun path => return (path, ← lookAt path)
  let color := (← IO.getEnv "NO_COLOR").isNone
  let outcome := request.outcome (fun path => (entries.lookup path).join) color
  IO.print outcome.output
  IO.eprint outcome.report
  return outcome.exit.toUInt32
