import Lamplighter.Headless

/-! The command line: read what the request needs, print what the report says. -/

open Lamplighter

/-- The number of a failure, which the system gives with either sign. -/
def failureNumber (code : UInt32) : Nat := code.toInt32.toInt.natAbs

/-- The reason that the system gives for a failure. -/
def readFailure : IO.Error → ReadFailure
  | .noFileOrDirectory .. => .notFound
  | .permissionDenied .. => .notPermitted
  | .inappropriateType _ code _ =>
      if failureNumber code = 20 then .notDirectory else .isDirectory
  | .invalidArgument _ code details =>
      if failureNumber code = 36 then .nameTooLong else .other details
  | failure => .other (toString failure)

/-- Read the program of a request. -/
def readSource (request : Headless.Request) : IO Headless.Source := do
  match request.path with
  | none => return .missing
  | some path =>
      try
        let bytes ← IO.FS.readBinFile path
        return .ofRead path (match String.fromUTF8? bytes with
          | some content => .ok content
          | none => .error .notText)
      catch failure =>
        return .ofRead path (.error (readFailure failure))

/-- Meet the request of the arguments. -/
def main (arguments : List String) : IO UInt32 := do
  let request := Headless.Request.ofArguments arguments
  let report := Headless.report request (← readSource request)
  for line in report.lines do
    IO.println line
  if let some failure := report.failure then
    IO.eprintln (Terminal.plain failure.message)
  return report.exitCode.toUInt32
