import BatchScaler.Program.Run
import Std.Time

open BatchScaler

def documentAt (path : String) : IO (List (Place × Entry)) := do
  let place := startOf path ++ tidyParts path
  try
    let content ← IO.FS.readBinFile path
    return [(place, .document content)]
  catch
    | .inappropriateType .. => return [(place, .directory)]
    | _ => return []

def processEnvironment : IO Environment := do
  let level ← IO.getEnv "IMAGE_RESIZER_LOG_LEVEL"
  let categories ← IO.getEnv "IMAGE_RESIZER_LOG_CATS"
  let settings ← IO.getEnv "IMAGE_RESIZER_SETTINGS"
  let home ← IO.getEnv "HOME"
  return ⟨⟨level, categories⟩, settings.getD "", home.getD "/"⟩

def exitCode : Ending → UInt32
  | .exit status => UInt32.ofNat status.code
  | .misused => 2
  | .fault _ => 1

def main (args : List String) : IO UInt32 := do
  let environment ← processEnvironment
  let entries ← (environment.settingsPath :: args).mapM documentAt
  let clock ← Std.Time.PlainTime.now
  let machine : Machine := ⟨nearestEngine, {}, clock.toTime24Hour⟩
  let report := runProgram machine environment args ⟨entries.flatten⟩
  IO.print report.transcript.output
  IO.eprint report.transcript.errors
  return exitCode report.ending
