import ExactFactorial.CommandLine.Progress
import ExactFactorial.Numeral.Decimal

namespace ExactFactorial
namespace CommandLine

/-!
# Reading the arguments

An argument that starts with a hyphen is a switch, unless it is the hyphen alone, or a number where
a value is awaited.  Two hyphens start a long name, with a value after an equal sign.  One hyphen
starts a run of letters, the last of which may be followed by its value, unless the whole argument
looks like a number, which makes it the number.  Two hyphens alone end the switches.
-/

/-- Whether an argument has the look of a switch. -/
def isDashed (argument : Bytes) : Bool :=
  argument.head? == some hyphen && argument != [hyphen]

/-- Whether an argument has the look of a number. -/
def isNumber (argument : Bytes) : Bool :=
  Numeral.isNumberLike (Text.Utf8.lossy argument)

/-- The argument without its leading hyphens. -/
def bare (argument : Bytes) : Bytes :=
  argument.dropWhile (· == hyphen)

/-- The name before the first equal sign, and the value after it if there is one. -/
def splitName (body : Bytes) : Bytes × Option Bytes :=
  let afterName := body.dropWhile (· != equalSign)
  (body.takeWhile (· != equalSign), if afterName.isEmpty then none else some afterName.tail)

namespace Progress

/-- Whether an argument is read as a switch. -/
def readsSwitch (progress : Progress) (argument : Bytes) : Bool :=
  match progress.expectation with
  | .settled => true
  | .free => isDashed argument
  | .value _ => isDashed argument && !isNumber argument

/-- A long name.  A flag takes no notice of a value. -/
def long (progress : Progress) (body : Bytes) : Except Stop Progress :=
  let (name, value) := splitName body
  match Text.Utf8.decode? name with
  | none => .error .undecodable
  | some text =>
      match Action.ofName? text with
      | some (.flag flag) => .ok (progress.raise flag)
      | some (.setting setting) => .ok (progress.take setting value)
      | some .help => .error .help
      | some .version => .error .version
      | none => progress.refuse (.unknownName text)

/-- A run of letters.  What follows the letter of a setting is its value. -/
def letters (progress : Progress) : Bytes → Except Stop Progress
  | [] => .ok progress
  | letter :: rest =>
      match Action.ofLetter? letter with
      | some (.flag flag) => letters (progress.raise flag) rest
      | some (.setting setting) =>
          .ok (progress.take setting (if rest.isEmpty then none else some rest))
      | some .help => .error .help
      | some .version => .error .version
      | none =>
          let shown := (Text.Utf8.lossy (letter :: rest)).toList.take 1
          progress.refuse (.unexpected (String.ofList ('-' :: shown)))

/-- An argument that is read as a switch. -/
def switch (progress : Progress) (argument : Bytes) : Except Stop Progress :=
  if argument.take 2 = [hyphen, hyphen] then progress.long (bare argument)
  else if !isDashed argument then progress.place argument
  else if isNumber argument then { progress with expectation := .free }.place argument
  else progress.letters (bare argument)

/-- One argument. -/
def step (progress : Progress) (argument : Bytes) : Except Stop Progress :=
  if progress.trailing then progress.place argument
  else if argument = [hyphen, hyphen] then .ok { progress with trailing := true }
  else if progress.readsSwitch argument then progress.settle.switch argument
  else
    match progress.expectation with
    | .value setting => .ok (progress.supply setting argument)
    | .free | .settled => progress.place argument

end Progress

/-- The stop as it comes out with these arguments still to come.  The explanation of an unknown name
goes through all of them, and each has to be a text for that. -/
def Stop.amid (later : List Bytes) : Stop → Stop
  | .misuse (.unknownName name) given =>
      if later.all Text.Utf8.isText then .misuse (.unknownName name) given else .undecodable
  | stop => stop

/-- The arguments in order. -/
def scan (progress : Progress) : List Bytes → Except Stop Progress
  | [] => .ok progress
  | argument :: later =>
      match progress.step argument with
      | .ok next => scan next later
      | .error stop => .error (stop.amid later)

namespace Progress

/-- Give the prompt its default text if it has none. -/
def withPrompt (progress : Progress) : Progress :=
  let given := progress.settings .prompt
  if given.values.isEmpty then
    { progress with
      settings := assign progress.settings .prompt
        { given with values := [Text.Utf8.encode defaultPrompt] } }
  else progress

/-- A setting at the very end that still has no value. -/
def starved? (progress : Progress) : Option Misuse :=
  match progress.expectation with
  | .value setting =>
      if (progress.settings setting).values.isEmpty then some (.noValue setting) else none
  | .free | .settled => none

/-- What is wrong with the value of a limit. -/
def limitFlaw? (value : Bytes) : Option Numeral.Flaw :=
  match Numeral.readUnsigned (Text.Utf8.lossy value).toList with
  | .ok _ => none
  | .error flaw => some flaw

/-- What is wrong with a switch that is there. -/
def fault? (progress : Progress) : Switch → Option Misuse
  | .flag flag => if 1 < progress.flags flag then some (.repeated (.flag flag)) else none
  | .setting setting =>
      let given := progress.settings setting
      if !given.isPresent then none
      else if given.values.isEmpty then some (.noValue setting)
      else
        match if setting = .limit then given.values.findSome? limitFlaw? else none with
        | some flaw => some (.badLimit flaw)
        | none => if 1 < given.uses then some (.repeated (.setting setting)) else none

/-- The first thing that is wrong at the end. -/
def misuse? (progress : Progress) : Option Misuse :=
  progress.starved?.or (Switch.all.findSome? progress.fault?)

/-- The ceiling that was asked for. -/
def limit? (progress : Progress) : Option Nat :=
  (progress.settings .limit).values.head?.bind fun value =>
    (Numeral.readUnsigned (Text.Utf8.lossy value).toList).toOption

/-- The prompt that was asked for, as bytes. -/
def promptBytes (progress : Progress) : Bytes :=
  (progress.settings .prompt).values.headD []

/-- The request that the arguments add up to.  Prompt and number have to be texts. -/
def request (progress : Progress) : Except Stop Request :=
  match progress.misuse? with
  | some cause => progress.refuse cause
  | none =>
      match Text.Utf8.decode? progress.promptBytes, progress.number.map Text.Utf8.decode? with
      | none, _ | _, some none => .error .undecodable
      | some prompt, number =>
          .ok {
            showPath := progress.flags .showPath != 0
            digits := progress.flags .digits != 0
            limit := progress.limit?
            prompt := prompt
            number := number.join }

end Progress

/-- Read a command line, the program name first. -/
def read (arguments : List Bytes) : Except Stop Request :=
  match scan {} arguments.tail with
  | .ok progress => progress.settle.withPrompt.request
  | .error stop => .error stop

end CommandLine
end ExactFactorial
