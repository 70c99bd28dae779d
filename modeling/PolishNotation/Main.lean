import PolishNotation.CommandLine

/-- An output that cannot be written ends the program with code one. -/
def main (arguments : List String) : IO UInt32 := do
  let reply := PolishNotation.CommandLine.reply arguments
  let diagnostics ← IO.getStderr
  try
    let output ← IO.getStdout
    output.putStr reply.output
    output.flush
    diagnostics.putStr reply.diagnostics
    return reply.code
  catch failure =>
    diagnostics.putStrLn ("écriture impossible : " ++ failure.toString)
    return 1
