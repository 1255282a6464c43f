import Doctype.Handler
import Doctype.Journal
import Doctype.Parser.Basic
import Doctype.Target

/-! Reading the arguments of the command line. -/
namespace Doctype.CommandLine

/-- The options that take a value. -/
inductive Setting
  | target
  | templates
  | className
  | package
  | output
  | base
deriving DecidableEq, Repr

namespace Setting

/-- The long name of an option. -/
def name : Setting → String
  | target => "target"
  | templates => "templates"
  | className => "class"
  | package => "package"
  | output => "output"
  | base => "base"

/-- All options that take a value. -/
def all : List Setting :=
  [target, templates, className, package, output, base]

/-- The option of a long name. -/
def ofName? (name : String) : Option Setting :=
  all.find? (·.name == name)

/-- The option of a letter. -/
def ofLetter? : Char → Option Setting
  | 't' => some target
  | 'o' => some output
  | _ => none

end Setting

/-- The options that take no value. -/
inductive Switch
  | keepInstructions
  | verbose
  | quiet
  | help
  | version
deriving DecidableEq, Repr

namespace Switch

/-- The switch of a long name. -/
def ofName? : String → Option Switch
  | "keep-pis" => some keepInstructions
  | "quiet" => some quiet
  | "help" => some help
  | "version" => some version
  | _ => none

/-- The switch of a letter. -/
def ofLetter? : Char → Option Switch
  | 'v' => some verbose
  | 'q' => some quiet
  | 'h' => some help
  | 'V' => some version
  | _ => none

end Switch

/-- Why arguments cannot be used. -/
inductive UsageError
  | unknown (option : String)
  | repeated
  | noValue (option : Setting)
  | unknownTarget (value : String)
  | noInput
  | extraInput (argument : String)
deriving DecidableEq, Repr

/-- The wording of a usage error. -/
def UsageError.message : UsageError → String
  | unknown option => "unknown option `" ++ option ++ "`"
  | repeated => "an option is given more than once"
  | noValue option => "the option `--" ++ option.name ++ "` needs a value"
  | unknownTarget value => "`" ++ value ++ "` is not one of `sax`, `xslt` and `dtd`"
  | noInput => "no DTD is given"
  | extraInput argument => "unexpected argument `" ++ argument ++ "`"

/-- What is known after some arguments. -/
structure Reading where
  input : Option String := none
  /-- The options with a value, latest first. -/
  mentioned : List Setting := []
  /-- Their values, latest first. -/
  values : List (Setting × String) := []
  /-- The switches, latest first. -/
  switches : List Switch := []

/-- What ends the reading of arguments at once. -/
inductive Stop
  | refused (e : UsageError)
  | help
  | version

/-- An attempt to read arguments. -/
abbrev ReadM := Except Stop

namespace Reading

/-- Records an argument that belongs to no option. -/
def operand (r : Reading) (word : String) : ReadM Reading :=
  match r.input with
  | none => .ok { r with input := some word }
  | some _ => .error (.refused (.extraInput word))

/-- Records a mention of an option, whose value may follow. -/
def mention (r : Reading) (s : Setting) : Reading :=
  { r with mentioned := s :: r.mentioned }

/-- Records the value of an option. -/
def settle (r : Reading) (s : Setting) (value : String) : Reading :=
  { r with values := (s, value) :: r.values }

/-- Records a switch; two of them take effect at once. -/
def turnOn (r : Reading) : Switch → ReadM Reading
  | .help => .error .help
  | .version => .error .version
  | s => .ok { r with switches := s :: r.switches }

/-- A value that is attached to its option. -/
def attached (cs : List Char) : String :=
  .ofList (cs.dropWhile (· == '='))

/-- Reads `--name` or `--name=value`, without its dashes. Gives also the option that still lacks
its value. -/
def long (r : Reading) (cs : List Char) : ReadM (Reading × Option Setting) :=
  let name : String := .ofList (cs.takeWhile (· != '='))
  match Setting.ofName? name, Switch.ofName? name with
  | some s, _ =>
    match cs.dropWhile (· != '=') with
    | [] => .ok (r.mention s, some s)
    | value => .ok ((r.mention s).settle s (attached value), none)
  | none, some s => do return (← r.turnOn s, none)
  | none, none => .error (.refused (.unknown ("--" ++ name)))

/-- Reads letters behind a single dash. The rest behind the letter of an option is its value. -/
def short (r : Reading) : List Char → ReadM (Reading × Option Setting)
  | [] => .ok (r, none)
  | c :: rest =>
    match Setting.ofLetter? c, Switch.ofLetter? c with
    | some s, _ =>
      if rest.isEmpty then .ok (r.mention s, some s)
      else .ok ((r.mention s).settle s (attached rest), none)
    | none, some s => do short (← r.turnOn s) rest
    | none, none => .error (.refused (.unknown ("-" ++ c.toString)))

/-- Reads arguments behind `--`, which belong to no option. Another `--` is one of them. -/
def operands (r : Reading) : List String → ReadM Reading
  | [] => .ok r
  | word :: rest => do operands (← r.operand word) rest

/-- Reads arguments. A word that begins with a dash is never the value of an option; a single dash
is. -/
def words (r : Reading) (pending : Option Setting) : List String → ReadM Reading
  | [] => .ok r
  | word :: rest => do
    if word = "--" then operands r rest
    else
      match word.toList with
      | '-' :: '-' :: cs =>
        let (r, pending) ← r.long (cs.dropWhile (· == '-'))
        words r pending rest
      | '-' :: c :: cs =>
        let (r, pending) ← r.short (c :: cs)
        words r pending rest
      | _ =>
        match pending with
        | some s => words (r.settle s word) none rest
        | none => words (← r.operand word) none rest

end Reading

/-- What the arguments ask for. -/
structure Job where
  input : Path
  target : Target
  templates : Option Path
  cls : ClassName
  options : Options
  output : Option Path
  /-- The least important events that are reported, if any are. -/
  limit : Option Level

/-- The target of a value. -/
def targetOf (value : String) : Except UsageError Target :=
  match [Target.sax, .xslt, .dtd].find? (·.text == value) with
  | some target => .ok target
  | none => .error (.unknownTarget value)

/-- What is reported: warnings at least, and more for each `-v`. -/
def limitOf (switches : List Switch) : Option Level :=
  if switches.contains .quiet then none
  else
    match switches.count .verbose with
    | 0 => some .warn
    | 1 => some .info
    | 2 => some .debug
    | _ => some .trace

/-- The job that all arguments together describe. Only a switch for more reports may be repeated,
and only the target may lack its value. -/
def Reading.job (r : Reading) : Except UsageError Job := do
  let once := r.switches.filter (· != .verbose)
  let value (s : Setting) : Option String := r.values.lookup s
  if ¬ r.mentioned.Nodup ∨ ¬ once.Nodup then throw .repeated
  match r.mentioned.find? fun s => s != .target && (value s).isNone with
  | some s => throw (.noValue s)
  | none => pure ()
  let target ← ((value .target).map targetOf).getD (.ok .dtd)
  let some input := r.input | throw .noInput
  return {
    input, target
    templates := value .templates
    cls := ⟨(value .className).getD "DocumentHandler", value .package⟩
    options := ⟨value .base, r.switches.contains .keepInstructions⟩
    output := value .output
    limit := limitOf r.switches }

/-- What a command line asks for. -/
inductive Request
  | run (job : Job)
  | help
  | version

/-- Reads a command line. -/
def read (args : List String) : Except UsageError Request :=
  match Reading.words {} none args with
  | .ok r => .run <$> r.job
  | .error .help => .ok .help
  | .error .version => .ok .version
  | .error (.refused e) => .error e

end Doctype.CommandLine
