import HoldoutLine.Command.Run

/-! # The command

Reads what a run needs from the world, decides nothing, and prints the outcome. The standard input is
read only if the arguments name it.
-/

namespace HoldoutLine.Command

/-- The environment variable that overrides the verbosity. -/
def logVariable : String := "RUST_LOG"

/-- The system's words for an error, with its number. -/
def systemReason : IO.Error → String
  | .noFileOrDirectory _ code details => s!"{details} (os error {code})"
  | .permissionDenied _ code details => s!"{details} (os error {code})"
  | .inappropriateType _ code details => s!"{details} (os error {code})"
  | .invalidArgument _ code details => s!"{details} (os error {code})"
  | .resourceExhausted _ code details => s!"{details} (os error {code})"
  | .otherError code details => s!"{details} (os error {code})"
  | other => toString other

/-- What is left to read, as a feed: the reads as they were handed out, up to the end of the source or to the first one
that fails. The reads before a failure are kept; `done` holds them, last first. -/
partial def drain (read : IO ByteArray) (done : List (List UInt8)) : IO Table.Feed := do
  let outcome : Except IO.Error ByteArray ← try pure (.ok (← read)) catch failure => pure (.error failure)
  match outcome with
  | .error failure => return ⟨done.reverse, some (systemReason failure)⟩
  | .ok bytes =>
    if bytes.isEmpty then return ⟨done.reverse, none⟩ else drain read (bytes.data.toList :: done)

/-- Open a file and read it to its end. -/
def readFile (path : String) : IO (Except String Table.Feed) := do
  try
    let handle ← IO.FS.Handle.mk path .read
    return .ok (← drain (handle.read Table.Feed.readCapacity.toUSize) [])
  catch failure => return .error (systemReason failure)

/-- What the run of these arguments can see. -/
def surroundings (arguments : List String) : IO Surroundings := do
  let logSetting ← IO.getEnv logVariable
  let nothing : Surroundings := ⟨logSetting, .ofBytes [], fun _ => .ok (.ofBytes [])⟩
  match (parse arguments).toOption.map Invocation.source with
  | some .standardInput =>
    let input ← IO.getStdin
    return { nothing with standardInput := ← drain (input.read Table.Feed.readCapacity.toUSize) [] }
  | some (.file path) =>
    let contents ← readFile path
    return { nothing with openFile := fun _ => contents }
  | _ => return nothing

end HoldoutLine.Command

def main (arguments : List String) : IO UInt32 := do
  let outcome := HoldoutLine.Command.run arguments (← HoldoutLine.Command.surroundings arguments)
  (← IO.getStderr).putStr outcome.diagnostics
  (← IO.getStdout).putStr outcome.output
  return UInt32.ofNat outcome.exitCode
