import Reckon.Command.Run

/-!
The program: arguments and environment in, output and exit code out. A wrong usage exits with code
2. Notices go to the error stream, warnings always and the others when asked for.
-/

open Reckon

def main (args : List String) : IO UInt32 := do
  match Command.read args with
  | none =>
    IO.eprintln
      "Usage: [--version] [-v] (eval [-D NAME=EXPR] [--as KIND] | tree | tokens) EXPRESSION"
    return 2
  | some (request, verbose) =>
    let nesting ← IO.getEnv Setting.nesting.name
    let depth ← IO.getEnv Setting.depth.name
    let outcome := Command.run { Environment.initial with nesting, depth } request
    for notice in outcome.notices do
      if verbose || notice.warning then IO.eprintln (notice.level ++ ": " ++ notice.text)
    IO.print outcome.out
    IO.eprint outcome.err
    return outcome.code.toUInt32
