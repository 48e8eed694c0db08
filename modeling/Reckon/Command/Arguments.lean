import Reckon.Value.Basic

/-!
The arguments of the command line. Options of the program stand before the name of a command; the
options of a command stand before or after its expression, and `--` ends them. A short option takes
its value from the rest of its argument or from the next one, a long option from behind `=` or from
the next argument. Anything else that begins with a hyphen is an unknown option.
-/

namespace Reckon.Command

inductive Verb
  | eval
  | tree
  | tokens
  deriving DecidableEq, Repr

/-- What the program is asked to do. -/
inductive Request
  | version
  | eval (expression : String) (bindings : List String) (as : Option Kind)
  | tree (expression : String)
  | tokens (expression : String)
  deriving DecidableEq, Repr

/-- The options and the other arguments of a command, as far as they are read. -/
structure Given where
  bindings : List String
  as : Option String
  positional : List String
  deriving DecidableEq, Repr

def verb? : String → Option Verb
  | "eval" => some .eval
  | "tree" => some .tree
  | "tokens" => some .tokens
  | _ => none

/-- The kinds that a result can be narrowed to. -/
def kind? : String → Option Kind
  | "int" => some .int
  | "float" => some .float
  | "boolean" => some .boolean
  | "string" => some .string
  | "tuple" => some .tuple
  | _ => none

/-- An argument that is read as an option. -/
def optional (cs : List Char) : Bool :=
  cs.head? = some '-' && cs.length > 1

/-- The name of a long option and the value behind its `=`. -/
def split (cs : List Char) : String × Option String :=
  let name := cs.takeWhile (· ≠ '=')
  (String.ofList name,
    if name.length < cs.length then some (String.ofList (cs.drop (name.length + 1))) else none)

/-- The options of the program: whether the version is asked for, whether to be verbose,
and the rest. -/
def program : List String → Option (Bool × Bool × List String)
  | [] => some (false, false, [])
  | a :: rest =>
    let cs := a.toList
    if a = "--" then some (false, false, rest)
    else if !optional cs then some (false, false, a :: rest)
    else if a = "--version" then (program rest).map fun (_, verbose, rest) => (true, verbose, rest)
    else if a = "--verbose" || cs.tail.all (· = 'v') then
      (program rest).map fun (version, _, rest) => (version, true, rest)
    else none

/-- Adds the value of an option. -/
def Given.add (g : Given) (name value : String) : Option Given :=
  match name with
  | "--var" | "-D" => some { g with bindings := g.bindings ++ [value] }
  | "--as" => some { g with as := some value }
  | _ => none

/-- The arguments of a command; only `eval` has options. -/
def command (v : Verb) (g : Given) : List String → Option Given
  | [] => some g
  | a :: rest =>
    let cs := a.toList
    if a = "--" then some { g with positional := g.positional ++ rest }
    else if !optional cs then command v { g with positional := g.positional ++ [a] } rest
    else if v ≠ .eval then none
    else
      match cs with
      | '-' :: 'D' :: d :: value =>
        (g.add "-D" (String.ofList (d :: value))).bind fun g => command v g rest
      | _ =>
        match split cs, rest with
        | (name, some value), rest => (g.add name value).bind fun g => command v g rest
        | (name, none), value :: rest => (g.add name value).bind fun g => command v g rest
        | (_, none), [] => none

/-- The request of a command with its arguments: one expression, and a kind that exists. -/
def request (v : Verb) (g : Given) : Option Request :=
  match v, g.positional, g.as with
  | .eval, [e], none => some (.eval e g.bindings none)
  | .eval, [e], some k => (kind? k).map fun k => .eval e g.bindings (some k)
  | .tree, [e], _ => some (.tree e)
  | .tokens, [e], _ => some (.tokens e)
  | _, _, _ => none

/-- Reads all arguments: the request, and whether to be verbose. Without a value the
usage is wrong. -/
def read (args : List String) : Option (Request × Bool) := do
  if args.isEmpty then none
  let (version, verbose, rest) ← program args
  if version then return (.version, verbose)
  match rest with
  | [] => none
  | name :: rest =>
    let v ← verb? name
    return (← request v (← command v ⟨[], none, []⟩ rest), verbose)

end Reckon.Command
