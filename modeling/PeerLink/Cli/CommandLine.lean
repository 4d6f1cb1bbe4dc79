import PeerLink.Cli.Grammar

/-! # The command line of the program

* `CommandLine.globalOptions`, `CommandLine.grammarOf`: the options that stand with any command, and
  the grammar of each command.
* `CommandLine.parse`: a command line as a command, its options and the format of output.
-/

namespace PeerLink

/-- A command line that was understood. -/
structure CommandLine where
  invocation : Invocation
  format : Option OutputFormat
  deriving DecidableEq, Repr

namespace CommandLine

/-! ## Options -/

def oneOf (names : List String) (value : String) : Bool := names.contains value

/-- Whether a value is a count of attempts. -/
def attempts? (value : String) : Option UInt32 :=
  match Numeral.integer? value.toList with
  | some n =>
    if 0 ≤ n.toInt ∧ n.toInt < UInt32.size then some (UInt32.ofNat n.toInt.toNat) else none
  | none => none

def count? (value : String) : Option Nat := Numeral.natural? UInt64.size value.toList

/-- The options that may stand with any command. -/
def globalOptions : List OptionRule :=
  [{ name := "format", form := .value, envName := some "ESHM_FORMAT",
      accepts := oneOf (OutputFormat.all.map (·.name)) },
    { name := "log-format", form := .value, envName := some "ESHM_LOG_FORMAT",
      accepts := oneOf ["text", "json"] },
    { name := "log-level", form := .value, envName := some "ESHM_LOG_LEVEL",
      accepts := oneOf ["error", "warn", "info", "debug", "trace"] }]

/-- How a behavior is written on the command line. -/
def behaviorWord : DisconnectBehavior → String
  | .immediately => "immediately"
  | .onTimeout => "on-timeout"
  | .never => "never"

def behavior? (word : String) : Option DisconnectBehavior :=
  DisconnectBehavior.all.find? (behaviorWord · == word)

def linkOptions : List OptionRule :=
  [{ name := "role", form := .value, envName := some "ESHM_ROLE",
      accepts := oneOf (Role.all.map (·.name)) },
    { name := "disconnect", form := .value, envName := some "ESHM_DISCONNECT",
      accepts := oneOf (DisconnectBehavior.all.map behaviorWord) },
    { name := "stale-threshold", form := .value, envName := some "ESHM_STALE_THRESHOLD" },
    { name := "reconnect-wait", form := .value, envName := some "ESHM_RECONNECT_WAIT" },
    { name := "reconnect-interval", form := .value, envName := some "ESHM_RECONNECT_INTERVAL" },
    { name := "max-reconnect-attempts", form := .value,
      envName := some "ESHM_MAX_RECONNECT_ATTEMPTS", accepts := fun v => (attempts? v).isSome },
    { name := "keep-region", form := .flag, envName := some "ESHM_KEEP_REGION" }]

/-- The option that limits the number of messages. -/
def countOption : OptionRule :=
  { name := "count", form := .value, accepts := fun v => (count? v).isSome }

def outerGrammar : Grammar :=
  { options := globalOptions
    commands := ["send", "listen", "echo", "stats", "version", "help"]
    hasVersion := true }

def grammarOf (command : String) : Grammar :=
  match command with
  | "send" =>
    { options := linkOptions
        ++ [{ name := "item", form := .list }, { name := "data", form := .value },
          { name := "file", form := .value, accepts := fun path => path != "" },
          { name := "wait-peer", form := .value }, { name := "wait", form := .flag },
          { name := "wait-timeout", form := .value }, { name := "raw", form := .flag }]
        ++ globalOptions
      operands := 1
      exclusive := ["item", "data", "file"] }
  | "listen" =>
    { options := linkOptions
        ++ [countOption, { name := "timeout", form := .value }, { name := "raw", form := .flag }]
        ++ globalOptions
      operands := 1 }
  | "echo" => { options := linkOptions ++ [countOption] ++ globalOptions, operands := 1 }
  | "stats" => { options := globalOptions, operands := 1 }
  | _ => { options := { name := "extended", form := .flag } :: globalOptions }

/-! ## Commands -/

def regionName (g : Given) : String := g.operands.headD ""

def linkOf (g : Given) : LinkOptions :=
  { name := regionName g
    role := ((g.value? "role").bind Role.ofName?).getD .auto
    disconnect := ((g.value? "disconnect").bind behavior?).getD .onTimeout
    staleThreshold := g.valueOr "100ms" "stale-threshold"
    reconnectWait := g.valueOr "5s" "reconnect-wait"
    reconnectInterval := g.valueOr "100ms" "reconnect-interval"
    maxReconnectAttempts := ((g.value? "max-reconnect-attempts").bind attempts?).getD 50
    keepRegion := g.isSet "keep-region" }

/-- The command of a name with what was given. -/
def invocationOf (command : String) (g : Given) : Invocation :=
  match command with
  | "send" => .send
    { link := linkOf g
      payload := ⟨g.values "item", g.value? "data", g.value? "file"⟩
      waitPeer := g.valueOr "5s" "wait-peer"
      wait := g.isSet "wait"
      waitTimeout := g.valueOr "5s" "wait-timeout"
      raw := g.isSet "raw" }
  | "listen" => .listen
    { link := linkOf g
      count := (g.value? "count").bind count?
      timeout := g.value? "timeout"
      raw := g.isSet "raw" }
  | "echo" => .echo { link := linkOf g, count := (g.value? "count").bind count? }
  | "stats" => .stats (regionName g)
  | _ => .version (g.isSet "extended")

/-- What was given for an option before and after the name of the command: words win over the
environment, and the later words over the earlier ones. -/
def prevailing (before after : Option GivenOption) : Option String :=
  match before, after with
  | some b, some a =>
    if a.fromEnvironment && !b.fromEnvironment then b.values.head? else a.values.head?
  | some b, none => b.values.head?
  | none, some a => a.values.head?
  | none, none => none

/-- What a request for help comes to: nothing or the name of one command must follow it. -/
def helpStop (words : List String) : Stop :=
  match words with
  | [] => .help
  | [command] => if outerGrammar.commands.contains command then .help else .misuse
  | _ => .misuse

/-- A command line as a command. -/
def parse (environment : String → Option String) (words : List String) :
    Except Stop CommandLine := do
  let (before, found) ← outerGrammar.read words
  match found with
  | none => .error .misuse
  | some (command, rest) =>
    if command == "help" then .error (helpStop rest)
    else do
      let grammar := grammarOf command
      let (after, _) ← grammar.read rest
      let after ← grammar.complete environment after
      let before ← outerGrammar.complete environment before
      let format := prevailing (before.option? "format") (after.option? "format")
      .ok ⟨invocationOf command after, format.bind OutputFormat.ofName?⟩

end CommandLine

end PeerLink
