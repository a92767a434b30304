import PipelineProfile.Config
import PipelineProfile.Number.Numeral
import PipelineProfile.Path

/-!
# Command line options

The options of a profile and how they are read. An option has a long name behind two dashes and
may have a letter behind one. Its value is the next argument, or it is attached: to the long name
with `=`, to the letter with or without it. Switches take no value, and letters of switches may
share one dash with each other and with a last letter that takes one. No option may be given
twice, and there are no other arguments.

Arguments are read from left to right, so of a call for help and a mistake the first one counts.
-/

namespace PipelineProfile

/-- What a profile is to do. -/
structure Options where
  /-- The directory with the traces. -/
  logDir : String
  /-- The file with the template, if it is not the built-in one. -/
  template : Option String
  /-- Where the summaries go, relative to the directory with the traces. -/
  outJson : String
  /-- Where the report goes, relative to the directory with the traces. -/
  outMd : String
  config : Config
  /-- Whether to tell more about the progress. -/
  verbose : Bool
  deriving DecidableEq, Repr

namespace Options

/-! ## Names -/

/-- The options with a value. -/
inductive Name where
  | logDir
  | template
  | outJson
  | outMd
  | postFlushWindow
  | replayFullLanes
  | hotspots
  deriving DecidableEq, Repr

/-- The options without a value. -/
inductive Switch where
  | verbose
  | help
  deriving DecidableEq, Repr

namespace Name

/-- Every option with a value. -/
def all : List Name :=
  [logDir, template, outJson, outMd, postFlushWindow, replayFullLanes, hotspots]

/-- The long name of an option. -/
def long : Name → String
  | logDir => "log-dir"
  | template => "template"
  | outJson => "out-json"
  | outMd => "out-md"
  | postFlushWindow => "post-flush-window"
  | replayFullLanes => "replay-full-lanes"
  | hotspots => "hotspots"

/-- The letter of an option, if it has one. -/
def short? : Name → Option Char
  | logDir => some 'l'
  | template => some 't'
  | _ => none

end Name

namespace Switch

/-- Every option without a value. -/
def all : List Switch := [verbose, help]

/-- The long name of a switch. -/
def long : Switch → String
  | verbose => "verbose"
  | help => "help"

/-- The letter of a switch. -/
def short : Switch → Char
  | verbose => 'v'
  | help => 'h'

end Switch

/-! ## Mistakes -/

/-- Arguments that ask for nothing that can be done. -/
inductive UsageError where
  | unexpected (argument : String)
  | missingValue (name : String)
  | needlessValue (name value : String)
  | invalidValue (name value : String)
  | repeated (name : String)
  | missing (name : String)
  deriving DecidableEq, Repr

/-- The text of a mistake. -/
def UsageError.message : UsageError → String
  | unexpected argument => "unexpected argument '" ++ argument ++ "'"
  | missingValue name => "a value is required for '--" ++ name ++ "'"
  | needlessValue name value => "unexpected value '" ++ value ++ "' for '--" ++ name ++ "'"
  | invalidValue name value => "invalid value '" ++ value ++ "' for '--" ++ name ++ "'"
  | repeated name => "the argument '--" ++ name ++ "' cannot be used multiple times"
  | missing name => "the argument '--" ++ name ++ "' is required"

/-- Why reading the arguments ends before their end. -/
inductive Stop where
  | help
  | mistake (e : UsageError)
  deriving DecidableEq, Repr

/-! ## One argument -/

/-- What a part of an argument says. -/
inductive Token where
  | switch (s : Switch)
  | attached (name : Name) (value : String)
  /-- An option whose value is the next argument. -/
  | awaiting (name : Name)
  | mistake (e : UsageError)
  deriving DecidableEq, Repr

namespace Token

/-- What the text behind two dashes says. -/
def ofLong (text : List Char) : Token :=
  let name := String.ofList (text.takeWhile (· ≠ '='))
  let value? := ((text.dropWhile (· ≠ '=')).tail?).map String.ofList
  match Name.all.find? fun o => o.long = name, Switch.all.find? fun s => s.long = name with
  | some o, _ =>
    match value? with
    | some value => attached o value
    | none => awaiting o
  | none, some s =>
    match value? with
    | some value => mistake (.needlessValue s.long value)
    | none => switch s
  | none, none => mistake (.unexpected (String.ofList ('-' :: '-' :: text)))

/-- What the letters behind one dash say. -/
def ofLetters : List Char → List Token
  | [] => []
  | c :: cs =>
    match Name.all.find? fun o => o.short? = some c, Switch.all.find? fun s => s.short = c with
    | some o, _ =>
      match cs with
      | [] => [awaiting o]
      | '=' :: value => [attached o (String.ofList value)]
      | value => [attached o (String.ofList value)]
    | none, some s => switch s :: ofLetters cs
    | none, none => [mistake (.unexpected (String.ofList ['-', c]))]

/-- What an argument says. -/
def ofArgument (argument : String) : List Token :=
  match argument.toList with
  | '-' :: '-' :: text => [ofLong text]
  | '-' :: c :: cs => ofLetters (c :: cs)
  | _ => [mistake (.unexpected argument)]

end Token

/-- Whether an argument cannot be the value of the option before it. -/
def isOption (argument : String) : Bool :=
  match argument.toList with
  | '-' :: _ :: _ => true
  | _ => false

/-! ## All arguments -/

/-- The options given so far. -/
structure Draft where
  logDir : Option String := none
  template : Option String := none
  outJson : Option String := none
  outMd : Option String := none
  postFlushWindow : Option Nat := none
  replayFullLanes : Option Nat := none
  hotspots : Option Nat := none
  verbose : Bool := false

/-- The path that the value of an option is. -/
def path? (value : String) : Option String := if value = "" then none else some value

/-- The number that the value of an option is: decimal digits behind at most one `+`. -/
def number? (value : String) : Option Nat :=
  (Numeral.digits? 10 (Numeral.dropPlus value.toList)).filter (· < Numeral.bound)

namespace Draft

/-- Set one field, unless it is set or the value does not fit. -/
def set {α : Type} (name : Name) (old : Option α) (read? : String → Option α) (value : String)
    (update : Option α → Draft) : Except Stop Draft :=
  if old.isSome then .error (.mistake (.repeated name.long))
  else
    match read? value with
    | some a => .ok (update (some a))
    | none => .error (.mistake (.invalidValue name.long value))

/-- Give an option its value. -/
def give (d : Draft) (name : Name) (value : String) : Except Stop Draft :=
  match name with
  | .logDir => set name d.logDir path? value fun v => { d with logDir := v }
  | .template => set name d.template path? value fun v => { d with template := v }
  | .outJson => set name d.outJson path? value fun v => { d with outJson := v }
  | .outMd => set name d.outMd path? value fun v => { d with outMd := v }
  | .postFlushWindow =>
    set name d.postFlushWindow number? value fun v => { d with postFlushWindow := v }
  | .replayFullLanes =>
    set name d.replayFullLanes number? value fun v => { d with replayFullLanes := v }
  | .hotspots => set name d.hotspots number? value fun v => { d with hotspots := v }

/-- Take what an argument says. The result also tells which option awaits its value. -/
def take (d : Draft) : List Token → Except Stop (Draft × Option Name)
  | [] => .ok (d, none)
  | .switch .help :: _ => .error .help
  | .switch .verbose :: ts =>
    if d.verbose then .error (.mistake (.repeated Switch.verbose.long))
    else take { d with verbose := true } ts
  | .attached name value :: ts => do take (← d.give name value) ts
  | .awaiting name :: _ => .ok (d, some name)
  | .mistake e :: _ => .error (.mistake e)

/-- Take all arguments. Behind two lone dashes there may be none. -/
def takeAll (d : Draft) : List String → Except Stop Draft
  | [] => .ok d
  | argument :: arguments => do
    if argument = "--" then
      match arguments with
      | [] => return d
      | rest :: _ => .error (.mistake (.unexpected rest))
    else
      let (d, awaiting?) ← d.take (Token.ofArgument argument)
      match awaiting?, arguments with
      | none, arguments => takeAll d arguments
      | some name, [] => .error (.mistake (.missingValue name.long))
      | some name, value :: arguments =>
        if isOption value then .error (.mistake (.missingValue name.long))
        else takeAll (← d.give name value) arguments

/-- The options, with defaults for those that are not given. -/
def finish (d : Draft) : Except Stop Options :=
  match d.logDir with
  | none => .error (.mistake (.missing Name.logDir.long))
  | some logDir =>
    let default : Config := {}
    .ok
      { logDir
        template := d.template
        outJson := d.outJson.getD "summary.json"
        outMd := d.outMd.getD "report.md"
        config :=
          { default with
            postFlushWindow := d.postFlushWindow.getD default.postFlushWindow
            replayFullLanes := d.replayFullLanes.getD default.replayFullLanes
            hotspotLimit := d.hotspots.getD default.hotspotLimit }
        verbose := d.verbose }

end Draft

/-- The options that arguments give. -/
def read (arguments : List String) : Except Stop Options := do
  (← Draft.takeAll {} arguments).finish

/-- Where an output goes. -/
def resolve (o : Options) (path : String) : String := Path.join o.logDir path

end Options

end PipelineProfile
