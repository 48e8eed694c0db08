import Reckon.Command.Arguments
import Reckon.Display.Outline
import Reckon.Display.Table
import Reckon.Session.Basic

/-!
Running a request of the command line: evaluating an expression under the given bindings, drawing
its tree, or listing its tokens. Every request has its own session. An error goes to the error
stream after the name of its class.
-/

namespace Reckon.Command

open Evaluate (lift)

def version : String := "0.1.0"

/-- What a run of the program writes, and how it ends. -/
structure Outcome where
  code : UInt8
  out : String
  err : String
  notices : Array Notice

/-- Lines of text, each ended. -/
def lines (ls : List (List Char)) : String :=
  String.ofList (ls.flatMap (· ++ ['\n']))

/-- The value unless it has another kind than the one asked for. -/
def narrow (v : Value) : Option Kind → Except Error Value
  | some k => if v.kind = k then .ok v else .error (v.mismatch (.kind k))
  | none => .ok v

def evaluate (expression : String) (bindings : List String) (as : Option Kind) : Act String := do
  for b in bindings do
    discard (Act.assign b)
  let v ← Act.evaluate none (← Act.readTree none expression)
  return lines (Display.shown "" (← lift (narrow v as)).text)

def act : Request → Act String
  | .version => return "evalex version " ++ version ++ "\n"
  | .eval e bindings as => evaluate e bindings as
  | .tree e => return lines (Display.draw [] [] (Display.grown (← Act.readTree none e)))
  | .tokens e => return lines (Display.table (← lift (Token.scan e)))

def run (environment : Environment) (r : Request) : Outcome :=
  match act r { Session.initial with environment } with
  | .ok out s => ⟨0, out, "", s.journal⟩
  | .error e s => ⟨1, "", lines (Display.shown (e.label ++ ": ") e.text), s.journal⟩

end Reckon.Command
