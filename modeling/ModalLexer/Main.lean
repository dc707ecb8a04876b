import ModalLexer.CommandLine.Report
/-!
# The program

Reads the file that the command line names and prints the report on it.
-/
open ModalLexer

def readContent (path : String) : IO FileContent := do
  try
    let bytes ← IO.FS.readBinFile path
    return .ofBytes bytes
  catch
    | .noFileOrDirectory .. => return .missing
    | .inappropriateType .. => return .unreadable "Is a directory (os error 21)"
    | e => return .unreadable (toString e)

def main (args : List String) : IO UInt32 := do
  let report ← match Command.ofArguments? args with
    | none => pure Report.usage
    | some c => match c.path? with
      | none => pure (c.report .missing)
      | some path => do
        let file ← readContent path
        pure (c.report file)
  for line in report.output do IO.println line
  for line in report.diagnostics do IO.eprintln line
  return report.code.toUInt32
