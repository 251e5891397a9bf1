import ClientSynth.Settings

/-! # Command-line arguments

The commands of the program with their options.  Options have long names only;
one that takes a value has it behind an equals sign or as the next argument. -/
namespace ClientSynth
namespace CommandLine

/-- What an option takes. -/
inductive OptionKind where
  /-- Nothing. -/
  | flag
  /-- A value that `accepts` accepts. -/
  | value (accepts : String → Bool)
  /-- A value, any number of times. -/
  | values

/-- An occurrence of an option. -/
structure Given where
  name : String
  value : Option String
  deriving Repr, DecidableEq

/-- The options that every command has. -/
def commonOptions : List (String × OptionKind) :=
  [("contract", .values), ("config", .value (fun v => !v.isEmpty)), ("include", .values),
    ("exclude", .values), ("json", .flag), ("fail-on-warnings", .flag)]

/-- The options of the command that generates. -/
def generateOptions : List (String × OptionKind) :=
  [("output-dir", .value (fun v => !v.isEmpty)), ("project-name", .value (fun _ => true)),
    ("template-kind", .value (fun v => (Template.Kind.parse v).toOption.isSome)),
    ("template-dir", .value (fun v => !v.isEmpty)),
    ("base-url", .value (fun v => (Url.parse v).isSome)),
    ("default-token-manage", .value (fun _ => true)), ("import", .values), ("no-support", .flag),
    ("no-module-index", .flag), ("dry-run", .flag)]

/-- Why arguments are not run. -/
inductive Stop where
  /-- They cannot be understood. -/
  | misuse
  /-- They ask for help. -/
  | help
  /-- They ask for the version. -/
  | version
  deriving Repr, DecidableEq

/-- Whether an argument can be the value of the option before it. -/
def isValue (arg : String) : Bool := !arg.startsWith "-" || arg = "-"

/-- Whether an option may be given with the value, after those in `before`. -/
def isAllowed (kind : OptionKind) (before : List Given) (g : Given) : Bool :=
  let isNew := before.all (fun other => other.name != g.name)
  match kind, g.value with
  | .flag, none => isNew
  | .value accepts, some v => isNew && accepts v
  | .values, some _ => true
  | _, _ => false

/-- The options among the arguments; `before` holds those so far.  A lone `--`
closes them. -/
def given (options : List (String × OptionKind)) (before : List Given) :
    List String → Except Stop (List Given)
  | [] => .ok before
  | ["--"] => .ok before
  | arg :: rest =>
    if arg = "--help" || arg = "-h" then .error .help
    else
      match Text.dropPrefix? "--" arg with
      | none => .error .misuse
      | some body =>
        let name := String.ofList (body.toList.takeWhile (· != '='))
        match options.lookup name with
        | none => .error .misuse
        | some kind =>
          if name.length < body.length then
            let g : Given := ⟨name, some (String.ofList (body.toList.drop (name.length + 1)))⟩
            if isAllowed kind before g then given options (before ++ [g]) rest else .error .misuse
          else
            match kind with
            | .flag =>
              let g : Given := ⟨name, none⟩
              if isAllowed kind before g then given options (before ++ [g]) rest else .error .misuse
            | _ =>
              match rest with
              | [] => .error .misuse
              | v :: more =>
                let g : Given := ⟨name, some v⟩
                if isValue v && isAllowed kind before g then given options (before ++ [g]) more
                else .error .misuse

/-- A command with its options. -/
structure Command where
  /-- Whether files are generated; otherwise contracts are only checked. -/
  generates : Bool
  options : List Given
  deriving Repr, DecidableEq

namespace Command

/-- Whether a flag is given. -/
def has (c : Command) (name : String) : Bool := c.options.any (fun g => g.name == name)

/-- The values of an option. -/
def values (c : Command) (name : String) : List String :=
  c.options.filterMap (fun g => if g.name == name then g.value else none)

/-- The value of an option. -/
def value? (c : Command) (name : String) : Option String := (c.values name).head?

/-- The command that arguments stand for. -/
def parse : List String → Except Stop Command
  | "generate" :: rest => (given (commonOptions ++ generateOptions) [] rest).map (Command.mk true)
  | "check" :: rest => (given commonOptions [] rest).map (Command.mk false)
  | "help" :: rest =>
    if rest.all ["generate", "check", "help"].contains then .error .help else .error .misuse
  | arg :: _ =>
    if ["--help", "-h"].contains arg then .error .help
    else if ["--version", "-V"].contains arg then .error .version
    else .error .misuse
  | [] => .error .misuse

/-- The settings of a command, over those that it starts from. -/
def adjust (c : Command) (s : Settings) : Settings :=
  let listOr (name : String) (old : List String) : List String :=
    if (c.values name).isEmpty then old else c.values name
  let s := { s with
    contractPaths := (listOr "contract" s.contractPaths).filter (fun p => !Text.isBlankText p)
    included := listOr "include" s.included
    excluded := listOr "exclude" s.excluded }
  { s with
    outputDirectory := (c.value? "output-dir").getD s.outputDirectory
    projectName := (c.value? "project-name").getD s.projectName
    templateKind := (((c.value? "template-kind").bind (fun k =>
      (Template.Kind.parse k).toOption)).map Template.Kind.name).getD s.templateKind
    templateDirectory := (c.value? "template-dir") <|> s.templateDirectory
    baseUrl := ((c.value? "base-url").bind Url.parse) <|> s.baseUrl
    tokenManager := (c.value? "default-token-manage").getD s.tokenManager
    imports := s.imports ++ c.values "import"
    emitsSupport := s.emitsSupport && !c.has "no-support"
    emitsIndex := s.emitsIndex && !c.has "no-module-index" }

end Command
end CommandLine
end ClientSynth
