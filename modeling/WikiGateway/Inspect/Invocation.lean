import WikiGateway.Inspect.Arguments

/-!
# Invocations of the inspection tool

What a command line asks for: help, the description of one request, or the list of all routes.

* `Invocation.parse?`: what arguments ask for; none for wrong usage.
* `HelpTopic.text`: the texts of help.
-/

namespace WikiGateway.Inspect

/-! ## What can be asked for -/

/-- The request that is to be described. -/
structure RequestArguments where
  /-- An absolute URL, or a path with an optional query. -/
  url : String
  method : String := "GET"
  /-- Header fields as they were given, with name, colon and value. -/
  headers : List String := []
  remoteAddr : String := "127.0.0.1"
  body : Option String := none
deriving DecidableEq, Repr, Inhabited

/-- What is to be shown of a site. -/
inductive Command
  /-- How it routes one request. -/
  | request (arguments : RequestArguments)
  /-- Its entry points and path templates. -/
  | routes
deriving DecidableEq, Repr, Inhabited

/-- What help is about. -/
inductive HelpTopic
  | tool
  | request
  | routes
  | help
deriving DecidableEq, Repr, Inhabited

/-- What a command line asks for. -/
inductive Invocation
  | help (topic : HelpTopic)
  /-- A command for the site of a file, or for the default site. -/
  | run (config : Option String) (command : Command)
deriving DecidableEq, Repr, Inhabited

/-! ## Help -/

/-- The text of help. -/
def HelpTopic.text : HelpTopic → String
  | tool => "Show how wiki-ingress routes a request, without a server\n\n" ++
    "Usage: route-inspect [OPTIONS] <COMMAND>\n\n" ++
    "Commands:\n" ++
    "  request  Describe a single request as JSON\n" ++
    "  routes   List entry points and path templates in match order\n" ++
    "  help     Print this message or the help of the given subcommand(s)\n\n" ++
    "Options:\n" ++
    "  -c, --config <CONFIG>  Configuration file; built-in defaults when omitted\n" ++
    "  -h, --help             Print help\n"
  | request => "Describe a single request as JSON\n\n" ++
    "Usage: route-inspect request [OPTIONS] <URL>\n\n" ++
    "Arguments:\n" ++
    "  <URL>  Absolute URL or path with optional query, e.g. /wiki/Main_Page?action=edit\n\n" ++
    "Options:\n" ++
    "  -X, --method <METHOD>            [default: GET]\n" ++
    "  -H, --header <HEADERS>           Extra header as \"Name: value\"; repeatable\n" ++
    "      --remote-addr <REMOTE_ADDR>  [default: 127.0.0.1]\n" ++
    "  -b, --body <BODY>                Request body, sent as a form when the method is POST\n" ++
    "  -h, --help                       Print help\n"
  | routes => "List entry points and path templates in match order\n\n" ++
    "Usage: route-inspect routes\n\n" ++
    "Options:\n" ++
    "  -h, --help  Print help\n"
  | help => "Print this message or the help of the given subcommand(s)\n\n" ++
    "Usage: route-inspect help [COMMAND]...\n\n" ++
    "Arguments:\n" ++
    "  [COMMAND]...  Print help for the subcommand(s)\n"

/-- What help is about, by the names of commands behind `help`. -/
def HelpTopic.ofNames? : List String → Option HelpTopic
  | [] => some tool
  | ["request"] => some request
  | ["routes"] => some routes
  | ["help"] => some help
  | _ => none

/-! ## Commands -/

/-- The options in front of a command. -/
def toolOptions : List ValueOption := [⟨"config", some 'c'⟩]

/-- The options of the description of a request. -/
def requestOptions : List ValueOption :=
  [⟨"method", some 'X'⟩, ⟨"header", some 'H'⟩, ⟨"remote-addr", none⟩, ⟨"body", some 'b'⟩]

/-- The operands among items. -/
def operandsOf (items : List Item) : List String :=
  items.filterMap fun
    | .operand text => some text
    | _ => none

/-- The values of an option among items. -/
def valuesOf (word : String) (items : List Item) : List String :=
  items.filterMap fun
    | .option w value => if w = word then some value else none
    | _ => none

/-- The member of a list of at most one. -/
def atMostOne? : List String → Option (Option String)
  | [] => some none
  | [value] => some (some value)
  | _ => none

/-- The description of a request, or help about it. -/
def requestCommand? (args : List String) : Option (Command ⊕ HelpTopic) := do
  let items ← readItems? requestOptions args
  let url ← atMostOne? (operandsOf items)
  let method ← atMostOne? (valuesOf "method" items)
  let remoteAddr ← atMostOne? (valuesOf "remote-addr" items)
  let body ← atMostOne? (valuesOf "body" items)
  if items.contains .help then pure (.inr .request)
  else
    let url ← url
    pure (.inl (.request {
      url := url
      method := method.getD "GET"
      headers := valuesOf "header" items
      remoteAddr := remoteAddr.getD "127.0.0.1"
      body := body }))

/-- The list of routes, or help about it; it takes no arguments. -/
def routesCommand? (args : List String) : Option (Command ⊕ HelpTopic) :=
  match readItems? [] args with
  | some [] => some (.inl .routes)
  | some [.help] => some (.inr .routes)
  | _ => none

/-- What a command asks for, by its name and its arguments. -/
def invocationOf? (config : Option String) (name : String) (args : List String) : Option Invocation :=
  let ofCommand : Command ⊕ HelpTopic → Invocation
    | .inl command => .run config command
    | .inr topic => .help topic
  if name = "request" then (requestCommand? args).map ofCommand
  else if name = "routes" then (routesCommand? args).map ofCommand
  else if name = "help" then (HelpTopic.ofNames? args).map .help
  else none

/-- What arguments ask for when a file may have been named before them; a file's name is not empty. -/
def Invocation.parseAfter? (config : Option String) (args : List String) : Option Invocation :=
  match _h : takeItem? toolOptions args with
  | some (.option _ file, rest) => if config.isSome || file.isEmpty then none else parseAfter? (some file) rest
  | some (.operand name, rest) => invocationOf? config name rest
  | some (.help, _) => some (.help .tool)
  | some (.separator, _) => none
  | none => none
termination_by args.length
decreasing_by exact length_lt_of_takeItem? _h

/-- What arguments ask for; none for wrong usage. -/
def Invocation.parse? (args : List String) : Option Invocation := parseAfter? none args

/-- The file with the settings of the site. -/
def Invocation.configFile? : Invocation → Option String
  | help _ => none
  | run config _ => config

end WikiGateway.Inspect
