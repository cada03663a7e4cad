/-!
# Arguments of a command

A program takes options, which begin with hyphens, and then perhaps the name
of a command, which has options and words of its own. Some options belong to
the program and to all its commands; given to both, the command's counts.

Arguments are read from left to right, and the first thing that decides ends
the reading: a wrong argument, or an option that asks for help or for the
version. The value in front of the name of a command is looked at only after
the command's own arguments have been read.
-/

set_option autoImplicit false

namespace BuildYard.Arguments

/-! ## Grammars -/

/-- An option that takes a value. -/
structure Named where
  long : String
  short : Option Char := none
  /-- it may be given several times to the same command -/
  repeatable : Bool := false
  required : Bool := false
  /-- the values that it takes -/
  accepts : String → Bool := fun _ => true

/-- What the words of a command end with. -/
structure Tail where
  /-- its first word may begin with a hyphen -/
  hyphens : Bool := false
  deriving DecidableEq, Repr, Inhabited

/-- What is taken by a program in front of the name of a command, or by a command. -/
structure Shape where
  options : List Named := []
  /-- it can be asked for the version -/
  versioned : Bool := false
  /-- the single words in order, each with what it may be -/
  singles : List (String → Bool) := []
  /-- one or more words at the end, which are taken as they are -/
  tail : Option Tail := none

/-- What a program takes. -/
structure Grammar where
  program : Shape
  /-- options of the program and of every command -/
  shared : List Named := []
  commands : List (String × Shape)
  commandRequired : Bool := false

/-- The name of the command that explains another. -/
def helpCommand : String := "help"

/-- Why reading ends early. -/
inductive Stop where
  | help
  | version
  | misuse
  deriving DecidableEq, Repr, Inhabited

/-! ## Forms of arguments -/

/-- What an argument looks like. -/
inductive Form where
  | word
  /-- two hyphens, after which there are only words -/
  | escape
  /-- two hyphens and a name, perhaps with a value -/
  | long (name : String) (value : Option String)
  /-- a hyphen and characters -/
  | short (flags : List Char)
  deriving DecidableEq, Repr, Inhabited

/-- The characters in front of the first equals sign, and those after it. -/
def splitValue : List Char → List Char × Option (List Char)
  | [] => ([], none)
  | c :: rest =>
    if c = '=' then ([], some rest)
    else
      let (name, value) := splitValue rest
      (c :: name, value)

/-- The form of an argument. -/
def Form.of (argument : String) : Form :=
  match argument.toList with
  | ['-', '-'] => .escape
  | '-' :: '-' :: rest =>
    let (name, value) := splitValue rest
    .long (String.ofList name) (value.map String.ofList)
  | '-' :: c :: rest => .short (c :: rest)
  | _ => .word

/-! ## Reading -/

/-- What has been read so far. -/
structure Reading where
  /-- the options in order, each by its long name -/
  options : List (String × String) := []
  /-- an option whose value is still to come, or has not been looked at -/
  pending : Option (String × Option String) := none
  words : List String := []
  /-- all that follows is words -/
  onlyWords : Bool := false
  deriving DecidableEq, Repr, Inhabited

/-- Whether the next argument is the value of an option. -/
def Reading.awaitsValue (reading : Reading) : Bool :=
  match reading.pending with
  | some (_, none) => true
  | _ => false

namespace Shape

/-- The option with a long name. -/
def named? (shape : Shape) (long : String) : Option Named :=
  shape.options.find? (·.long == long)

/-- The option with a short name. -/
def short? (shape : Shape) (c : Char) : Option Named :=
  shape.options.find? (·.short == some c)

/-- Takes an option with its value. -/
def record (shape : Shape) (reading : Reading) (long value : String) : Except Stop Reading :=
  match shape.named? long with
  | none => .error .misuse
  | some option =>
    if !option.accepts value then .error .misuse
    else if !option.repeatable && reading.options.any (·.1 == long) then .error .misuse
    else .ok { reading with options := reading.options ++ [(long, value)] }

/-- Looks at the option that is pending. -/
def settle (shape : Shape) (reading : Reading) : Except Stop Reading :=
  match reading.pending with
  | none => .ok reading
  | some (_, none) => .error .misuse
  | some (long, some value) => shape.record { reading with pending := none } long value

/-- Takes an option, whose value follows unless it is attached. -/
def takeOption (shape : Shape) (reading : Reading) (option : Named) (attached : Option String) :
    Except Stop Reading := do
  let reading ← shape.settle reading
  match attached with
  | some value => shape.record reading option.long value
  | none => .ok { reading with pending := some (option.long, none) }

/-- Ends the reading for a reason, if what was read before is in order. -/
def stop {α : Type} (shape : Shape) (reading : Reading) (reason : Stop) : Except Stop α := do
  let _ ← shape.settle reading
  .error reason

/-- Whether the next word would be the first of the tail, and may begin with a hyphen. -/
def welcomesHyphens (shape : Shape) (reading : Reading) : Bool :=
  reading.words.length == shape.singles.length && (shape.tail.map (·.hyphens)).getD false

/-- Takes a word. -/
def takeWord (shape : Shape) (reading : Reading) (word : String) : Except Stop Reading := do
  let reading ← shape.settle reading
  match shape.singles[reading.words.length]? with
  | some accepts =>
    if accepts word then .ok { reading with words := reading.words ++ [word] }
    else .error .misuse
  | none =>
    if shape.tail.isSome then
      .ok { reading with words := reading.words ++ [word], onlyWords := true }
    else .error .misuse

/-- Takes an argument that is no option: the value of one, or a word. -/
def takePlain (shape : Shape) (reading : Reading) (argument : String) : Except Stop Reading :=
  match reading.pending with
  | some (long, none) => .ok { reading with pending := some (long, some argument) }
  | _ => shape.takeWord reading argument

/-- Takes an argument of two hyphens and a name. -/
def takeLong (shape : Shape) (reading : Reading) (argument name : String)
    (value : Option String) : Except Stop Reading :=
  match shape.named? name with
  | some option => shape.takeOption reading option value
  | none =>
    if name = "help" || (name = "version" && shape.versioned) then
      if value.isSome then .error .misuse
      else shape.stop reading (if name = "help" then .help else .version)
    else if shape.welcomesHyphens reading then shape.takePlain reading argument
    else .error .misuse

/-- Whether a short name is known. -/
def knowsShort (shape : Shape) (c : Char) : Bool :=
  c == 'h' || (c == 'V' && shape.versioned) || (shape.short? c).isSome

/-- Takes the characters after a hyphen; those after the one that takes a value are the
value, an equals sign in front of it left out. -/
def takeFlags (shape : Shape) (reading : Reading) : List Char → Except Stop Reading
  | [] => .ok reading
  | c :: rest =>
    if c = 'h' then shape.stop reading .help
    else if c = 'V' && shape.versioned then shape.stop reading .version
    else
      match shape.short? c with
      | none => .error .misuse
      | some option =>
        shape.takeOption reading option
          (match rest with
            | [] => none
            | '=' :: value => some (String.ofList value)
            | value => some (String.ofList value))

/-- Takes an argument of a hyphen and characters. -/
def takeShort (shape : Shape) (reading : Reading) (argument : String) (flags : List Char) :
    Except Stop Reading :=
  if shape.welcomesHyphens reading && flags.any (fun c => !shape.knowsShort c) then
    shape.takePlain reading argument
  else shape.takeFlags reading flags

/-- Takes an argument. -/
def take (shape : Shape) (reading : Reading) (argument : String) : Except Stop Reading :=
  if reading.onlyWords then shape.takeWord reading argument
  else
    match Form.of argument with
    | .word => shape.takePlain reading argument
    | .escape => .ok { reading with onlyWords := true }
    | .long name value => shape.takeLong reading argument name value
    | .short flags => shape.takeShort reading argument flags

/-- Reads arguments up to one that `isCommand` knows where the name of a command may
stand, which is returned with what follows it. -/
def read (shape : Shape) (isCommand : String → Bool) (reading : Reading) :
    List String → Except Stop (Reading × Option (String × List String))
  | [] => .ok (reading, none)
  | argument :: rest =>
    if !reading.onlyWords && !reading.awaitsValue && isCommand argument then
      .ok (reading, some (argument, rest))
    else do
      let reading ← shape.take reading argument
      shape.read isCommand reading rest

/-- Looks at what is left when all arguments were read. -/
def finish (shape : Shape) (reading : Reading) : Except Stop Reading := do
  let reading ← shape.settle reading
  let missing := shape.options.any fun option =>
    option.required && !reading.options.any (·.1 == option.long)
  let expected := shape.singles.length + (if shape.tail.isSome then 1 else 0)
  if missing || reading.words.length < expected then .error .misuse else .ok reading

end Shape

/-! ## Whole command lines -/

/-- What the arguments of a program say. -/
structure Order where
  command : Option String
  options : List (String × String)
  words : List String
  deriving DecidableEq, Repr, Inhabited

namespace Order

/-- The value of an option, the last one if there are several. -/
def value? (order : Order) (long : String) : Option String :=
  (order.options.reverse.find? (·.1 == long)).map (·.2)

/-- All values of an option in order. -/
def values (order : Order) (long : String) : List String :=
  (order.options.filter (·.1 == long)).map (·.2)

end Order

namespace Grammar

/-- Whether a word names a command. -/
def isCommand (grammar : Grammar) (word : String) : Bool :=
  grammar.commands.any (·.1 == word) || (word == helpCommand && !grammar.commands.isEmpty)

/-- A shape with the options of the program and of every command. -/
def widened (grammar : Grammar) (shape : Shape) : Shape :=
  { shape with options := shape.options ++ grammar.shared }

/-- What the command that explains others makes of its arguments, of which none is read
as an option. -/
def explain (grammar : Grammar) : List String → Stop
  | [] => .help
  | [name] => if grammar.isCommand name then .help else .misuse
  | _ => .misuse

/-- Reads the arguments of a command. -/
def readCommand (grammar : Grammar) (name : String) (arguments : List String) :
    Except Stop Reading :=
  match grammar.commands.find? (·.1 == name) with
  | none => .error (grammar.explain arguments)
  | some (_, shape) => do
    let shape := grammar.widened shape
    let (reading, _) ← shape.read (fun _ => false) {} arguments
    shape.finish reading

/-- Reads the arguments of a program. -/
def read (grammar : Grammar) (arguments : List String) : Except Stop Order := do
  let shape := grammar.widened grammar.program
  let (reading, found) ← shape.read grammar.isCommand {} arguments
  match found with
  | none => do
    let reading ← shape.finish reading
    if grammar.commandRequired then .error .misuse
    else .ok { command := none, options := reading.options, words := reading.words }
  | some (name, rest) => do
    let inner ← grammar.readCommand name rest
    let outer ← shape.finish reading
    .ok { command := some name, options := outer.options ++ inner.options, words := inner.words }

end Grammar

end BuildYard.Arguments
