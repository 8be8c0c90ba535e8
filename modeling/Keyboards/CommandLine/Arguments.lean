/-! Arguments of the command line program. -/

namespace Keyboards.CommandLine

/-- What the program is asked to do. -/
inductive Action where
  | list (all json : Bool)
  | resolve (id : String)
  | legacy (windowsId keyboardName : Option String) (language : String)
  | activate (id : String)
  | active
  | default
  | setup
deriving DecidableEq, Repr

/-- What a command line says. -/
inductive Invocation where
  | run (configPath : Option String) (action : Action)
  | version
  /-- The command line is not well formed. -/
  | misused
deriving DecidableEq, Repr

/-- Options seen on one level, in front of the name of an action or behind it. -/
structure Options where
  flags : List String := []
  values : List (String × String) := []
  operands : List String := []
deriving DecidableEq, Repr

/-- What one level admits. -/
structure Grammar where
  flags : List String := []
  /-- Options with a value. -/
  valued : List String := []
  operands : Nat := 0

/-- An argument that can be a value by itself: a lone dash, or one that starts with none. -/
def isValue (arg : String) : Bool :=
  match arg.toList with
  | '-' :: _ :: _ => false
  | _ => true

/-- Records a flag, which may be given once. -/
def Options.flag? (o : Options) (g : Grammar) (name : String) : Option Options :=
  if g.flags.contains name && !o.flags.contains name then
    some { o with flags := o.flags ++ [name] }
  else none

/-- Records the value of an option, which may be given once. A path must not be empty. -/
def Options.value? (o : Options) (g : Grammar) (name value : String) : Option Options :=
  if g.valued.contains name && (o.values.lookup name).isNone && !(name = "config" && value = "") then
    some { o with values := o.values ++ [(name, value)] }
  else none

def Options.operand? (o : Options) (g : Grammar) (arg : String) : Option Options :=
  if o.operands.length < g.operands then some { o with operands := o.operands ++ [arg] } else none

/-- How far reading got. -/
inductive Reading where
  | done (options : Options)
  /-- At a word that is neither an option nor part of one. -/
  | word (options : Options) (arg : String) (rest : List String)
  | version
  | misused
deriving DecidableEq, Repr

/-- Letters of one argument such as `-vv`: how often to be verbose, and the version. -/
def letters (versioned : Bool) : List Char → Option Bool
  | [] => some false
  | 'v' :: rest => letters versioned rest
  | 'V' :: _ => if versioned then some true else none
  | _ => none

/-- Reads options from the left until a word comes. -/
def readOptions (g : Grammar) (versioned : Bool) (o : Options) : List String → Reading
  | [] => .done o
  | "--" :: rest =>
    match rest.foldlM (·.operand? g ·) o with
    | some o => .done o
    | none => .misused
  | arg :: rest =>
    match arg.toList with
    | '-' :: '-' :: name =>
      let given := String.ofList (name.takeWhile (· ≠ '='))
      match name.dropWhile (· ≠ '=') with
      | _ :: value =>
        match o.value? g given (String.ofList value) with
        | some o => readOptions g versioned o rest
        | none => .misused
      | [] =>
        if given = "verbose" then readOptions g versioned o rest
        else if given = "version" && versioned then .version
        else if g.valued.contains given then
          match rest with
          | [] => .misused
          | value :: rest =>
            if isValue value then
              match o.value? g given value with
              | some o => readOptions g versioned o rest
              | none => .misused
            else .misused
        else
          match o.flag? g given with
          | some o => readOptions g versioned o rest
          | none => .misused
    | '-' :: c :: more =>
      match letters versioned (c :: more) with
      | some true => .version
      | some false => readOptions g versioned o rest
      | none => .misused
    | _ => .word o arg rest

/-- Reads all that follows the name of an action. -/
def readAll (g : Grammar) : Nat → Options → List String → Option Options
  | 0, _, _ => none
  | n + 1, o, args =>
    match readOptions g false o args with
    | .done o => some o
    | .word o arg rest => (o.operand? g arg).bind fun o => readAll g n o rest
    | .version | .misused => none

/-- What an action admits. -/
def grammarOf? : String → Option Grammar
  | "list" => some { flags := ["all", "json"] }
  | "resolve" | "activate" => some { operands := 1 }
  | "legacy" => some { valued := ["lcid", "keyboard", "language"] }
  | "active" | "default" | "setup" => some {}
  | _ => none

/-- The action of a name with options. -/
def actionOf? (name : String) (o : Options) : Option Action :=
  match name, o.operands with
  | "list", _ => some (.list (o.flags.contains "all") (o.flags.contains "json"))
  | "resolve", [id] => some (.resolve id)
  | "activate", [id] => some (.activate id)
  | "legacy", _ =>
    some (.legacy (o.values.lookup "lcid") (o.values.lookup "keyboard")
      ((o.values.lookup "language").getD "und"))
  | "active", _ => some .active
  | "default", _ => some .default
  | "setup", _ => some .setup
  | _, _ => none

/-- Reads a command line. The options `--config` and `--verbose` may stand on either side of the
name of the action; behind it they count more. -/
def readArguments (args : List String) : Invocation :=
  match readOptions { valued := ["config"] } true {} args with
  | .version => .version
  | .done _ | .misused => .misused
  | .word outer name rest =>
    let result := do
      let g ← grammarOf? name
      let inner ← readAll { g with valued := "config" :: g.valued } (rest.length + 1) {} rest
      let action ← actionOf? name inner
      some (Invocation.run (inner.values.lookup "config" <|> outer.values.lookup "config") action)
    result.getD .misused

end Keyboards.CommandLine
