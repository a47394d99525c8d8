import RpcStubs.Artifact.Json
import RpcStubs.Generator.Run

/-!
# Command line
-/

namespace RpcStubs

inductive Command where
  | generate (config : Path) (outputDir : Option Path)
  | dump (package : Option String) (files : List Path)
  deriving DecidableEq, Repr

/-- What help can be asked for. -/
inductive Topic where
  | program
  | generate
  | dump
  | help
  deriving DecidableEq, Repr

/-- What the arguments ask for. -/
inductive Request where
  | run (command : Command)
  | version
  | help (topic : Topic)
  | badUsage
  deriving DecidableEq, Repr

/-! ## Options -/

/-- An option with a value. -/
structure OptionSpec where
  short : Char
  long : String
  /-- May the value be empty? -/
  emptyValue : Bool

/-- Options by their long names, and the other arguments. -/
structure Parsed where
  options : List (String × String)
  positional : List String

def Parsed.option? (p : Parsed) (long : String) : Option String :=
  (p.options.find? (·.1 == long)).map (·.2)

/-- Is it an option or something that looks like one? -/
def looksLikeOption (arg : String) : Bool :=
  match arg.toList with
  | ['-'] => false
  | '-' :: _ => true
  | _ => false

/-- What an argument says of an option: the option, and the value if it is in the same
argument. -/
def optionOf? (specs : List OptionSpec) (arg : String) : Option (OptionSpec × Option String) :=
  match arg.toList with
  | '-' :: '-' :: rest =>
    let name := rest.takeWhile (· != '=')
    match specs.find? (·.long.toList == name) with
    | none => none
    | some spec =>
      match rest.drop name.length with
      | [] => some (spec, none)
      | _ :: value => some (spec, some (String.ofList value))
  | '-' :: c :: rest =>
    match specs.find? (·.short == c) with
    | none => none
    | some spec =>
      match rest with
      | [] => some (spec, none)
      | '=' :: value => some (spec, some (String.ofList value))
      | value => some (spec, some (String.ofList value))
  | _ => none

/-- A short flag counts as soon as it is read, whatever letters follow it. -/
def isFlag (short : Char) (long arg : String) : Bool :=
  ['-', short].isPrefixOf arg.toList || arg = long

def isHelp (arg : String) : Bool := isFlag 'h' "--help" arg

def isVersion (arg : String) : Bool := isFlag 'V' "--version" arg

/-- The outcome of reading arguments. -/
inductive ParseResult where
  | ok (parsed : Parsed)
  | help
  | badUsage

/-- Adds the value of an option, which may be given once. -/
def Parsed.addOption? (p : Parsed) (spec : OptionSpec) (value : String) : Option Parsed :=
  if (p.option? spec.long).isSome || (value.isEmpty && !spec.emptyValue) then none
  else some { p with options := p.options ++ [(spec.long, value)] }

/-- Reads the arguments of a subcommand. Other arguments are taken as they come if `files` holds,
and must not be empty. -/
def parseArgs (specs : List OptionSpec) (files : Bool) (p : Parsed) : List String → ParseResult
  | [] => .ok p
  | "--" :: args =>
    if args.isEmpty then .ok p
    else if files && args.all (!·.isEmpty) then
      .ok { p with positional := p.positional ++ args }
    else .badUsage
  | arg :: args =>
    if isHelp arg then .help
    else if looksLikeOption arg then
      match optionOf? specs arg with
      | none => .badUsage
      | some (spec, some value) =>
        match p.addOption? spec value with
        | some p => parseArgs specs files p args
        | none => .badUsage
      | some (spec, none) =>
        match args with
        | [] => .badUsage
        | value :: args =>
          if looksLikeOption value then .badUsage
          else
            match p.addOption? spec value with
            | some p => parseArgs specs files p args
            | none => .badUsage
    else if files && !arg.isEmpty then
      parseArgs specs files { p with positional := p.positional ++ [arg] } args
    else .badUsage

/-! ## Subcommands -/

def generateSpecs : List OptionSpec := [⟨'c', "config", false⟩, ⟨'o', "output-dir", false⟩]

def dumpSpecs : List OptionSpec := [⟨'p', "package", true⟩]

def defaultConfigPath : String := "codegen.toml"

def parseGenerate (args : List String) : Request :=
  match parseArgs generateSpecs false ⟨[], []⟩ args with
  | .help => .help .generate
  | .badUsage => .badUsage
  | .ok p =>
    .run (.generate ⟨(p.option? "config").getD defaultConfigPath⟩
      ((p.option? "output-dir").map Path.mk))

/-- At least one file is required. -/
def parseDump (args : List String) : Request :=
  match parseArgs dumpSpecs true ⟨[], []⟩ args with
  | .help => .help .dump
  | .badUsage => .badUsage
  | .ok p =>
    if p.positional.isEmpty then .badUsage
    else .run (.dump (p.option? "package") (p.positional.map Path.mk))

/-- A subcommand whose help is shown. -/
def parseHelp : List String → Request
  | [] => .help .program
  | ["generate"] => .help .generate
  | ["dump"] => .help .dump
  | ["help"] => .help .help
  | _ => .badUsage

def Request.parse : List String → Request
  | [] => .badUsage
  | arg :: args =>
    if isHelp arg then .help .program
    else if isVersion arg then .version
    else if arg = "generate" then parseGenerate args
    else if arg = "dump" then parseDump args
    else if arg = "help" then parseHelp args
    else .badUsage

/-! ## Help -/

namespace Topic

def lines : Topic → List String
  | program => [
      "stubgen compiles annotated service interfaces into RPC descriptors, clients and " ++
        "provider bindings.",
      "",
      "Usage: stubgen <COMMAND>",
      "",
      "Commands:",
      "  generate  Generate stubs for every service in the configured sources",
      "  dump      Print the service models and artifact descriptions built from declaration " ++
        "files, as json",
      "  help      Print this message or the help of the given subcommand(s)",
      "",
      "Options:",
      "  -h, --help     Print help",
      "  -V, --version  Print version"]
  | generate => [
      "Generate stubs for every service in the configured sources",
      "",
      "Usage: stubgen generate [OPTIONS]",
      "",
      "Options:",
      "  -c, --config <CONFIG>          Path to the codegen config file " ++
        "[default: codegen.toml]",
      "  -o, --output-dir <OUTPUT_DIR>  Override the configured output directory",
      "  -h, --help                     Print help"]
  | dump => [
      "Print the service models and artifact descriptions built from declaration files, as json",
      "",
      "Usage: stubgen dump [OPTIONS] <FILES>...",
      "",
      "Arguments:",
      "  <FILES>...  Declaration files (.rs or .json) or directories",
      "",
      "Options:",
      "  -p, --package <PACKAGE>  Package for declarations that don't name one. Defaults to " ++
        "each file's stem",
      "  -h, --help               Print help"]
  | help => [
      "Print this message or the help of the given subcommand(s)",
      "",
      "Usage: stubgen help [COMMAND]...",
      "",
      "Arguments:",
      "  [COMMAND]...  Print help for the subcommand(s)"]

/-- The help on a topic. -/
def text (t : Topic) : String := String.join (t.lines.map (· ++ "\n"))

end Topic

/-! ## Running -/

structure CommandResult where
  exit : Nat
  stdout : String
  /-- The message of the failure, and those of its causes. -/
  errors : List String
  deriving DecidableEq, Repr

namespace CommandResult

def success (stdout : String) : CommandResult := ⟨0, stdout, []⟩

def failure (errors : List String) : CommandResult := ⟨1, "", errors⟩

/-- The causes of a failure, numbered if there are several. -/
def causeLines : List String → List String
  | [] => []
  | [cause] => ["    " ++ cause]
  | causes => causes.zipIdx.map (fun (cause, n) => "    " ++ toString n ++ ": " ++ cause)

/-- What is printed about a failure. -/
def errorText (r : CommandResult) : String :=
  match r.errors with
  | [] => ""
  | [message] => "Error: " ++ message ++ "\n"
  | message :: causes =>
    "Error: " ++ message ++ "\n\nCaused by:\n" ++ "\n".intercalate (causeLines causes) ++ "\n"

/-- The failure of a step, described by what it was about. -/
def failedIn (context : String) (e : Error) : CommandResult := failure (context :: e.chain)

end CommandResult

def runGenerate (programs : Programs) (configPath : Path) (outputDir : Option Path)
    (tree : FileTree) : CommandResult × FileTree :=
  match Config.load tree configPath with
  | .error e => (.failedIn ("error loading config at " ++ configPath.text) e, tree)
  | .ok config =>
    let config := { config with outputDir := outputDir.getD config.outputDir }
    match (Generator.of programs config).generate.after tree with
    | (.error e, tree) => (.failedIn "code generation failed" e, tree)
    | (.ok report, tree) =>
      if report.isSuccess then (.success "", tree)
      else
        (.failure [toString report.failures.length ++ " declaration(s) could not be generated"],
          tree)

/-- All declarations of some files. The first that cannot be read is the failure. -/
def readAllDeclarations (tree : FileTree) :
    List SourceFile → Except (List String) (List Declaration)
  | [] => .ok []
  | file :: files => do
    let (format, text) ← (file.load tree).mapError Error.chain
    let found ← ((format.inspect file.path.text text file.package).bind (·.mapM id)).mapError
      (fun e => ("failed to read " ++ file.path.text) :: e.chain)
    let rest ← readAllDeclarations tree files
    return found ++ rest

/-- All services of some declarations. The first that is invalid is the failure. -/
def buildAll : List Declaration → Except (List String) (List Service)
  | [] => .ok []
  | d :: ds => do
    let s ← (Service.build d).mapError
      (fun e => ("invalid service declaration '" ++ d.name ++ "'") :: e.chain)
    let rest ← buildAll ds
    return s :: rest

/-- The services of some files, none of which may have a fault. -/
def dumpServices (tree : FileTree) (files : List SourceFile) :
    Except (List String) (List Service) :=
  readAllDeclarations tree files >>= buildAll

def CommandResult.ofDump : Except (List String) (List Service) → CommandResult
  | .ok services => .success (dumpText services ++ "\n")
  | .error errors => .failure errors

def runDump (package : Option String) (paths : List Path) (tree : FileTree) : CommandResult :=
  let sources := paths.map (fun path => SourceConfig.mk path [] package)
  let files := SourceConfig.allFiles tree (FileTree.pathOf tree.cwd) sources
  .ofDump (files.mapError Error.chain >>= dumpServices tree)

def versionText : String := "stubgen 0.1.0\n"

/-- Runs a command line. -/
def runCommand (programs : Programs) (args : List String) (tree : FileTree) :
    CommandResult × FileTree :=
  match Request.parse args with
  | .run (.generate config outputDir) => runGenerate programs config outputDir tree
  | .run (.dump package files) => (runDump package files tree, tree)
  | .version => (.success versionText, tree)
  | .help topic => (.success topic.text, tree)
  | .badUsage => (⟨2, "", []⟩, tree)

end RpcStubs
