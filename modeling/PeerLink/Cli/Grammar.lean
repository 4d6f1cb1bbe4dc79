import PeerLink.Cli.Options

/-! # The command line grammar

A command line is a list of words. Words that start with a dash are options; an option that takes a
value takes it from after an equals sign or from the next word. After a lone double dash every word
is an operand. What no word says may come from an environment variable.

* `OptionRule`, `Grammar`: what a command accepts.
* `Given`: what was given.
* `Grammar.read`: the words of one command, up to the name of a command inside it.
* `Grammar.complete`: the same with the environment, once everything required is there.
-/

namespace PeerLink

/-- What follows an option. -/
inductive OptionForm where
  | flag
  | value
  /-- A value, and the option may be given again. -/
  | list
  deriving DecidableEq, Repr

structure OptionRule where
  name : String
  form : OptionForm
  /-- The environment variable that stands in for it. -/
  envName : Option String := none
  accepts : String → Bool := fun _ => true

/-- What one command accepts. -/
structure Grammar where
  options : List OptionRule
  operands : Nat := 0
  commands : List String := []
  hasVersion : Bool := false
  /-- Options of which at most one may be given. -/
  exclusive : List String := []

/-- Why a command line is not carried out. -/
inductive Stop where
  | misuse
  | version
  | help
  deriving DecidableEq, Repr

structure GivenOption where
  name : String
  /-- Its values; a flag has the value `true` or `false`. -/
  values : List String
  /-- Whether they come from the environment. -/
  fromEnvironment : Bool
  deriving DecidableEq, Repr

structure Given where
  options : List GivenOption
  operands : List String
  deriving DecidableEq, Repr

namespace Given

def empty : Given := ⟨[], []⟩

def option? (g : Given) (name : String) : Option GivenOption := g.options.find? (·.name == name)

def values (g : Given) (name : String) : List String :=
  ((g.option? name).map (·.values)).getD []

def value? (g : Given) (name : String) : Option String := (g.values name).head?

def valueOr (default : String) (g : Given) (name : String) : String := (g.value? name).getD default

def isSet (g : Given) (name : String) : Bool := g.value? name == some "true"

/-- Adds a value of an option, unless it is not accepted or the option may stand only once. -/
def add (o : OptionRule) (value : String) (fromEnvironment : Bool) (g : Given) :
    Except Stop Given :=
  if !o.accepts value then .error .misuse
  else
    match g.option? o.name with
    | none => .ok { g with options := g.options ++ [⟨o.name, [value], fromEnvironment⟩] }
    | some _ =>
      if o.form = .list then
        .ok { g with
          options := g.options.map fun given =>
            if given.name == o.name then { given with values := given.values ++ [value] }
            else given }
      else .error .misuse

end Given

namespace Grammar

/-! ## Words -/

/-- What a word is by its form. -/
inductive Word where
  | separator
  /-- An option by name, perhaps with a value. -/
  | long (name : String) (value : Option String)
  | short (letter : Char)
  | plain
  deriving DecidableEq, Repr

/-- The form of a word. A lone dash is not an option. -/
def Word.of (w : String) : Word :=
  match w.toList with
  | ['-', '-'] => .separator
  | '-' :: '-' :: cs =>
    if cs.contains '=' then
      .long (String.ofList (cs.takeWhile (· != '=')))
        (some (String.ofList ((cs.dropWhile (· != '=')).drop 1)))
    else .long (String.ofList cs) none
  | '-' :: c :: _ => .short c
  | _ => .plain

def rule? (g : Grammar) (name : String) : Option OptionRule := g.options.find? (·.name == name)

/-- Adds operands, as long as there may be more. -/
def addOperands (g : Grammar) (given : Given) (words : List String) : Except Stop Given :=
  let operands := given.operands ++ words
  if g.operands < operands.length then .error .misuse else .ok { given with operands }

def byLetter (g : Grammar) (letter : Char) : Stop :=
  if letter = 'h' then .help else if letter = 'V' ∧ g.hasVersion then .version else .misuse

/-- An option given by name: what it leaves to be read, and the option whose value comes next. -/
def byName (g : Grammar) (given : Given) (name : String) (value : Option String) :
    Except Stop (Given × Option OptionRule) :=
  match g.rule? name, value with
  | some o, none =>
    if o.form = .flag then do return (← given.add o "true" false, none) else .ok (given, some o)
  | some o, some v =>
    if o.form = .flag then .error .misuse else do return (← given.add o v false, none)
  | none, none =>
    if name == "help" then .error .help
    else if name == "version" && g.hasVersion then .error .version
    else .error .misuse
  | none, some _ => .error .misuse

/-- Reads words up to the name of a command inside, if there is one; `pending` is the option whose
value the next word must be. -/
def scan (g : Grammar) (pending : Option OptionRule) (given : Given) :
    List String → Except Stop (Given × Option (String × List String))
  | [] => if pending.isSome then .error .misuse else .ok (given, none)
  | w :: rest =>
    match pending with
    | some o =>
      match Word.of w with
      | .plain =>
        match given.add o w false with
        | .ok given => scan g none given rest
        | .error stop => .error stop
      | _ => .error .misuse
    | none =>
      if g.commands.contains w then .ok (given, some (w, rest))
      else
        match Word.of w with
        | .separator =>
          match g.addOperands given rest with
          | .ok given => .ok (given, none)
          | .error stop => .error stop
        | .long name value =>
          match g.byName given name value with
          | .ok (given, pending) => scan g pending given rest
          | .error stop => .error stop
        | .short letter => .error (g.byLetter letter)
        | .plain =>
          match g.addOperands given [w] with
          | .ok given => scan g none given rest
          | .error stop => .error stop

/-- The words of one command, up to the name of a command inside it. -/
def read (g : Grammar) (words : List String) :
    Except Stop (Given × Option (String × List String)) :=
  g.scan none .empty words

/-! ## The environment -/

/-- Whether the environment may say this of a flag. -/
def acceptsFromEnvironment (o : OptionRule) (value : String) : Bool :=
  o.form != .flag || value == "true" || value == "false"

/-- Adds what the environment says about an option that was not given. -/
def addFromEnvironment (environment : String → Option String) (given : Given) (o : OptionRule) :
    Except Stop Given :=
  if (given.option? o.name).isSome then .ok given
  else
    match o.envName.bind environment with
    | none => .ok given
    | some value =>
      if acceptsFromEnvironment o value then given.add o value true else .error .misuse

/-- What was given with what the environment says. All operands must be there, and no two options
that exclude each other. -/
def complete (g : Grammar) (environment : String → Option String) (given : Given) :
    Except Stop Given := do
  let given ← g.options.foldlM (addFromEnvironment environment) given
  if given.operands.length < g.operands then .error .misuse
  else if 1 < (g.exclusive.filter fun name => (given.option? name).isSome).length then
    .error .misuse
  else .ok given

end Grammar

end PeerLink
