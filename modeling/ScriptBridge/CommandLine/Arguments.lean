/-
  ScriptBridge/CommandLine/Arguments.lean
  =======================================
  **The arguments of a run.**

  The word `run` comes first and options follow it, each with a value: after an
  equals sign or as the next argument, which must not look like an option then.
  Two dashes end the options.  Arguments are read from the left, so that the
  first problem, or the first call for help, is the one that counts.
-/
import ScriptBridge.Number.Word

namespace ScriptBridge.CommandLine

/-- An option with a value. -/
inductive Setting where
  | script
  | assets
  /-- Names a widget to click; the only option that may come again. -/
  | click
  | spacing
  | padding
  | callbackName
deriving DecidableEq, Repr

def Setting.name : Setting → String
  | .script => "script"
  | .assets => "assets-dir"
  | .click => "click"
  | .spacing => "spacing"
  | .padding => "padding"
  | .callbackName => "callback-name"

def Setting.all : List Setting := [.script, .assets, .click, .spacing, .padding, .callbackName]

/-- What the options say so far. -/
structure Options where
  script : Option String
  assets : Option String
  clicks : List String
  spacing : Option Int64
  padding : Option Int64
  callbackName : Option String
deriving DecidableEq, Repr

def Options.none : Options := ⟨.none, .none, [], .none, .none, .none⟩

/-- Why there is no run. -/
inductive Stop where
  /-- Help was called for. -/
  | help
  /-- The arguments make no run. -/
  | misuse
deriving DecidableEq, Repr

def Options.set (o : Options) (setting : Setting) (v : String) : Except Stop Options :=
  match setting with
  | .script => if o.script.isSome then .error .misuse else .ok { o with script := some v }
  | .assets => if o.assets.isSome then .error .misuse else .ok { o with assets := some v }
  | .click => .ok { o with clicks := o.clicks ++ [v] }
  | .callbackName =>
    if o.callbackName.isSome then .error .misuse else .ok { o with callbackName := some v }
  | .spacing =>
    match o.spacing, Word.ofText? v with
    | .none, some n => .ok { o with spacing := some n }
    | _, _ => .error .misuse
  | .padding =>
    match o.padding, Word.ofText? v with
    | .none, some n => .ok { o with padding := some n }
    | _, _ => .error .misuse

/-- An argument taken apart. -/
inductive Argument where
  /-- Two dashes alone. -/
  | endOfOptions
  /-- A name after two dashes, with the value after an equals sign. -/
  | long (name : String) (value : Option String)
  /-- Characters after one dash. -/
  | short (letters : List Char)
  | plain (text : String)
deriving DecidableEq, Repr

def Argument.ofText (text : String) : Argument :=
  match text.toList with
  | ['-', '-'] => .endOfOptions
  | '-' :: '-' :: rest =>
    match rest.dropWhile (· != '=') with
    | [] => .long (String.ofList rest) none
    | _ :: value => .long (String.ofList (rest.takeWhile (· != '='))) (some (String.ofList value))
  | '-' :: c :: rest => .short (c :: rest)
  | _ => .plain text

def settingOf? (name : String) : Option Setting := Setting.all.find? fun s => s.name == name

/-- Reads the arguments after `run`. -/
def readOptions (o : Options) : List String → Except Stop Options
  | [] => .ok o
  | arg :: rest =>
    match Argument.ofText arg with
    | .endOfOptions => if rest.isEmpty then .ok o else .error .misuse
    | .plain _ => .error .misuse
    | .short letters => .error (if letters.head? = some 'h' then .help else .misuse)
    | .long name value =>
      match settingOf? name, value with
      | none, none => .error (if name = "help" then .help else .misuse)
      | none, some _ => .error .misuse
      | some setting, some v =>
        match o.set setting v with
        | .ok o => readOptions o rest
        | .error stop => .error stop
      | some setting, none =>
        match rest with
        | [] => .error .misuse
        | v :: rest =>
          match Argument.ofText v with
          | .plain v =>
            match o.set setting v with
            | .ok o => readOptions o rest
            | .error stop => .error stop
          | _ => .error .misuse

/-- What to run, and how. -/
structure Arguments where
  script : String
  assets : Option String
  clicks : List String
  spacing : Option Int64
  padding : Option Int64
  callbackName : String
deriving DecidableEq, Repr

def Arguments.read (args : List String) : Except Stop Arguments :=
  match args with
  | "run" :: rest =>
    match readOptions .none rest with
    | .error stop => .error stop
    | .ok o =>
      match o.script with
      | none => .error .misuse
      | some script =>
        .ok ⟨script, o.assets, o.clicks, o.spacing, o.padding, o.callbackName.getD "tc"⟩
  | ["help"] | ["help", "run"] | ["help", "help"] => .error .help
  | arg :: _ =>
    match Argument.ofText arg with
    | .long "help" none => .error .help
    | .short ('h' :: _) => .error .help
    | _ => .error .misuse
  | [] => .error .misuse

end ScriptBridge.CommandLine
