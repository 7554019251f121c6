import Stepwise.CommandLine.Report

open Stepwise CommandLine

def contentOf (file : String) : IO (Except String (List UInt8)) := do
  try return .ok (← IO.FS.readBinFile file).toList
  catch e => return .error (toString e)

-- The program reads the files that it is given, and has no network.
def main (args : List String) : IO UInt32 := do
  let request := Request.read args
  let files := match request with
    | .ok r => r.files
    | .error _ => []
  let contents ← files.mapM fun file => do return (file, ← contentOf file)
  let surroundings : Surroundings Unit :=
    ⟨fun file => (contents.lookup file).getD (.error "not read"), .closed, (), fun _ => 0⟩
  let report := surroundings.report request
  IO.print report.output
  if let some complaint := report.complaint then IO.eprintln ("Error: " ++ complaint)
  return report.status.toUInt32
