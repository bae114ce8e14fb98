/-!
# Arguments

How the words of a command line are read. A word that begins with two hyphens names an option in full,
one that begins with a single hyphen lists options by letter; two hyphens alone end the options. A value
is attached to its option or follows as the next word. An option is given once, unless it may be repeated.

The words are read from left to right, so a request for help counts unless something before it is wrong.
-/

namespace Daybook.CommandLine

/-- An option that a command knows. -/
structure OptionSpec where
  name : String
  letter? : Option Char
  takesValue : Bool
  repeatable : Bool
  allowsNegative : Bool
  accepts : String → Bool

namespace OptionSpec

def switch (name : String) (letter? : Option Char) : OptionSpec :=
  ⟨name, letter?, false, false, false, fun _ => true⟩

def valued (name : String) (letter? : Option Char) (accepts : String → Bool) : OptionSpec :=
  ⟨name, letter?, true, false, false, accepts⟩

end OptionSpec

/-- What a command knows. -/
structure Grammar where
  options : List OptionSpec
  positionals : Nat

/-- What may be wrong with a command line. -/
inductive UsageError where
  | unknown (word : String)
  | missingValue (name : String)
  | unexpectedValue (name : String)
  | invalidValue (name value : String)
  | repeated (name : String)
  | missing (name : String)
  | conflict (name other : String)
  deriving DecidableEq

def UsageError.message : UsageError → String
  | unknown word            => "unexpected argument '" ++ word ++ "'"
  | missingValue name       => "a value is required for '--" ++ name ++ "'"
  | unexpectedValue name    => "no value is expected for '--" ++ name ++ "'"
  | invalidValue name value => "invalid value '" ++ value ++ "' for '" ++ name ++ "'"
  | repeated name           => "'--" ++ name ++ "' cannot be used multiple times"
  | missing name            => "'" ++ name ++ "' is required"
  | conflict name other     => "'--" ++ name ++ "' cannot be used with '--" ++ other ++ "'"

/-- Why a command does not run. -/
inductive Stop where
  | help
  | version
  | wrong (cause : UsageError)
  deriving DecidableEq

/-- The exit code of a command that does not run. -/
def Stop.exitCode : Stop → Nat
  | help    => 0
  | version => 0
  | wrong _ => 2

/-- The options and the other words that were given, in order. A switch has the empty value. -/
structure Given where
  options : List (String × String)
  positionals : List String

namespace Given

def empty : Given := ⟨[], []⟩

def value? (g : Given) (name : String) : Option String :=
  (g.options.find? (·.1 == name)).map (·.2)

def values (g : Given) (name : String) : List String :=
  (g.options.filter (·.1 == name)).map (·.2)

def has (g : Given) (name : String) : Bool := (g.value? name).isSome

/-- The value of an option that has to be given. -/
def require (g : Given) (name : String) : Except Stop String :=
  match g.value? name with
  | some value => .ok value
  | none       => .error (.wrong (.missing name))

def addOption (g : Given) (o : OptionSpec) (value : String) : Except Stop Given :=
  if !o.accepts value then .error (.wrong (.invalidValue o.name value))
  else if !o.repeatable && g.has o.name then .error (.wrong (.repeated o.name))
  else .ok { g with options := g.options ++ [(o.name, value)] }

/-- Add a word that is no option. It is a path, so it cannot be empty. -/
def addPositional (g : Given) (grammar : Grammar) (word : String) : Except Stop Given :=
  if grammar.positionals ≤ g.positionals.length then .error (.wrong (.unknown word))
  else if word.isEmpty then .error (.wrong (.invalidValue "FILE" word))
  else .ok { g with positionals := g.positionals ++ [word] }

end Given

/-! ### Values -/

/-- Whether the rest of a word is a number, with the first character and whether a point or an exponent
has been seen: digits, one point after the first digit and before the exponent, one exponent. -/
def isNumberFrom (first point exponent : Bool) : List Char → Bool
  | []      => true
  | c :: cs =>
    if c.isDigit then isNumberFrom false point exponent cs
    else if c = '.' then !point && !exponent && !first && isNumberFrom false true exponent cs
    else if c = 'e' then !exponent && !first && !cs.isEmpty && isNumberFrom false point true cs
    else false

/-- Whether a word is a negative number. -/
def isNegativeNumber : List Char → Bool
  | '-' :: cs => isNumberFrom true false false cs
  | _         => false

/-- Whether a word can be the value of an option before it. -/
def canFollow (o : OptionSpec) (word : String) : Bool :=
  match word.toList with
  | ['-']     => true
  | '-' :: cs => o.allowsNegative && isNegativeNumber ('-' :: cs)
  | _         => true

/-! ### Options -/

/-- What is known after an option's word: everything, or all but the value of a last option. -/
inductive Progress where
  | complete (g : Given)
  | awaiting (g : Given) (o : OptionSpec)

/-- The name before an equals sign, and the value behind it. -/
def splitValue : List Char → List Char × Option (List Char)
  | []      => ([], none)
  | c :: cs =>
    if c = '=' then ([], some cs)
    else
      let (name, value?) := splitValue cs
      (c :: name, value?)

/-- Read an option that is named in full, without its hyphens. -/
def readLong (grammar : Grammar) (g : Given) (word : List Char) : Except Stop Progress :=
  let (name, value?) := splitValue word
  let name := String.ofList name
  match grammar.options.find? (·.name == name), value? with
  | some o, some value =>
    if o.takesValue then .complete <$> g.addOption o (String.ofList value)
    else .error (.wrong (.unexpectedValue name))
  | some o, none =>
    if o.takesValue then .ok (.awaiting g o) else .complete <$> g.addOption o ""
  | none, some _ => .error (.wrong (.unknown name))
  | none, none   =>
    if name = "help" then .error .help
    else if name = "version" then .error .version
    else .error (.wrong (.unknown name))

/-- A value without the equals sign in front of it. -/
def attachedValue : List Char → String
  | '=' :: cs => String.ofList cs
  | cs        => String.ofList cs

/-- Read options that are listed by letter. -/
def readLetters (grammar : Grammar) (g : Given) : List Char → Except Stop Progress
  | []      => .ok (.complete g)
  | c :: cs =>
    match grammar.options.find? (·.letter? == some c) with
    | some o =>
      if o.takesValue then
        if cs.isEmpty then .ok (.awaiting g o)
        else .complete <$> g.addOption o (attachedValue cs)
      else
        match g.addOption o "" with
        | .ok g       => readLetters grammar g cs
        | .error stop => .error stop
    | none =>
      if c = 'h' then .error .help
      else if c = 'V' then .error .version
      else .error (.wrong (.unknown (String.ofList ['-', c])))

/-! ### Command lines -/

def readWords (grammar : Grammar) (g : Given) : List String → Except Stop Given
  | []            => .ok g
  | word :: words =>
    match word.toList with
    | ['-', '-'] => words.foldlM (fun g word => g.addPositional grammar word) g
    | ['-']      => do readWords grammar (← g.addPositional grammar word) words
    | '-' :: cs => do
      let progress ← match cs with
        | '-' :: name => readLong grammar g name
        | letters     => readLetters grammar g letters
      match progress with
      | .complete g   => readWords grammar g words
      | .awaiting g o =>
        match words with
        | value :: words =>
          if canFollow o value then do readWords grammar (← g.addOption o value) words
          else .error (.wrong (.missingValue o.name))
        | [] => .error (.wrong (.missingValue o.name))
    | _ => do readWords grammar (← g.addPositional grammar word) words

end Daybook.CommandLine
