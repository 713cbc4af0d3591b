import WikiGateway.Inspect.Report

/-!
# The inspection tool

The command line around `Inspect.Invocation.report`: it reads the named file and brings a fresh request id.
-/

namespace WikiGateway.Inspect

/-- An id of a request from twelve bytes, in base sixteen. -/
def idOfBytes (bytes : ByteArray) : String :=
  String.ofList (bytes.toList.flatMap fun b => [Text.hexDigit (b.toNat / 16), Text.hexDigit (b.toNat % 16)])

/-- The bytes of a file, if it can be read. -/
def readFile? (name : String) : IO (Option (List UInt8)) := do
  try
    return some (← IO.FS.readBinFile name).toList
  catch _ =>
    return none

/-- The report of arguments. -/
def reportOf (args : List String) : IO Report := do
  match Invocation.parse? args with
  | none => return .wrongUsage
  | some invocation =>
    let file ← match invocation.configFile? with
      | some name => readFile? name
      | none => pure none
    return invocation.report file (idOfBytes (← IO.getRandomBytes 12))

end WikiGateway.Inspect

/-- Prints the report of the arguments. -/
def main (args : List String) : IO UInt32 := do
  let report ← WikiGateway.Inspect.reportOf args
  IO.print report.output
  return UInt32.ofNat report.exitCode
