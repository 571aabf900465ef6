namespace RegexNfa.Console

structure Options where
  expression : Option String := none
  skipSelfTest : Bool := false
  showAutomaton : Bool := false
  drawing : Option String := none
  deriving DecidableEq

inductive Command where
  | run (options : Options)
  | version
  | help
  deriving DecidableEq

inductive Effect where
  | refuse
  | stop (command : Command)
  | proceed (options : Options)
  deriving DecidableEq

namespace Options

def withSkipSelfTest (o : Options) : Effect :=
  if o.skipSelfTest then .refuse else .proceed { o with skipSelfTest := true }

def withShowAutomaton (o : Options) : Effect :=
  if o.showAutomaton then .refuse else .proceed { o with showAutomaton := true }

def withDrawing (o : Options) (path : String) : Effect :=
  if o.drawing.isSome ∨ path = "" then .refuse else .proceed { o with drawing := some path }

def withExpression (o : Options) (expression : String) : Effect :=
  if o.expression.isSome then .refuse else .proceed { o with expression := some expression }

def long (o : Options) (name : List Char) : Effect :=
  if name = "skip-self-test".toList then o.withSkipSelfTest
  else if name = "show-automaton".toList then o.withShowAutomaton
  else if name = "version".toList then .stop .version
  else if name = "help".toList then .stop .help
  else if "dot=".toList.isPrefixOf name then o.withDrawing (String.ofList (name.drop 4))
  else .refuse

def short (o : Options) : List Char → Effect
  | [] => .proceed o
  | c :: rest =>
    if c = 'a' then
      match o.withShowAutomaton with
      | .proceed o => o.short rest
      | effect => effect
    else if c = 'V' then .stop .version
    else if c = 'h' then .stop .help
    else .refuse

/-- Any argument but `--` and `--dot`, which concern those after them. A lone hyphen is an
expression. -/
def argument (o : Options) (arg : String) : Effect :=
  match arg.toList with
  | '-' :: '-' :: name => o.long name
  | '-' :: c :: rest => o.short (c :: rest)
  | _ => o.withExpression arg

def isFlag (arg : String) : Bool :=
  match arg.toList with
  | '-' :: _ :: _ => true
  | _ => false

def expressionsOnly (o : Options) : List String → Option Command
  | [] => some (.run o)
  | arg :: rest =>
    match o.withExpression arg with
    | .refuse => none
    | .stop command => some command
    | .proceed o => o.expressionsOnly rest

def read (o : Options) : List String → Option Command
  | [] => some (.run o)
  | arg :: rest =>
    if arg = "--" then o.expressionsOnly rest
    else if arg = "--dot" then
      match rest with
      | [] => none
      | path :: rest =>
        if isFlag path then none
        else
          match o.withDrawing path with
          | .refuse => none
          | .stop command => some command
          | .proceed o => o.read rest
    else
      match o.argument arg with
      | .refuse => none
      | .stop command => some command
      | .proceed o => o.read rest

end Options

def Command.ofArguments (arguments : List String) : Option Command :=
  ({ } : Options).read arguments

end RegexNfa.Console
