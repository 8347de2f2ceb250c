import StreamWatch.Demo

/-! # The command line

Runs the demonstration and prints what it has to say. The environment variable
`SESSION_GUARD_LOG_LEVEL` sets the level of the log. -/

open StreamWatch

/-- Runs the demonstration and prints its transcript. -/
def main : IO UInt32 := do
  let level := (← IO.getEnv "SESSION_GUARD_LOG_LEVEL").getD Demo.standardLevel
  match Level.thresholdOf level with
  | .error fault =>
    IO.eprintln fault.message
    return 1
  | .ok threshold =>
    match Demo.transcript threshold Demo.standardStart with
    | .ok lines =>
      for line in lines do
        IO.println line.printed
      return 0
    | .error fault =>
      IO.eprintln fault.message
      return 1
