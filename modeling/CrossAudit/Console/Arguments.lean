import CrossAudit.Text.Search

/-!
# Arguments

How words on a command line become options and arguments.  A long option starts with two dashes
and may carry its value after an equals sign; short ones are single letters after one dash, and may
be run together.  An option that takes a value takes the next word, whatever it looks like, if it
carries none.  Two dashes alone end the options.
-/

namespace CrossAudit
namespace Console

/-- A wrong use of the command line. -/
inductive Misuse where
  | noSuchOption (name : String)
  | missingValue (name : String)
  | unexpectedValue (name : String)
  | missingArgument (name : String)
  | unexpectedArgument (word : String)
  | noSuchCommand (name : String)
  | missingCommand
  | badValue (reason : String)
  deriving Repr, DecidableEq, Inhabited

/-- The wording of a wrong use. -/
def Misuse.message : Misuse → String
  | .noSuchOption n => "No such option: " ++ n
  | .missingValue n => "Option '" ++ n ++ "' requires an argument."
  | .unexpectedValue n => "Option '" ++ n ++ "' does not take a value."
  | .missingArgument n => "Missing argument '" ++ n ++ "'."
  | .unexpectedArgument w => "Got unexpected extra argument (" ++ w ++ ")"
  | .noSuchCommand n => "No such command '" ++ n ++ "'."
  | .missingCommand => "Missing command."
  | .badValue reason => "Invalid value: " ++ reason

/-- An option: what it is called inside the program, how it is written, and whether it takes a
value. -/
structure Switch where
  key : String
  names : List String
  takesValue : Bool := false
  deriving Repr, DecidableEq, Inhabited

/-- Words as options, each with its value, and arguments. -/
structure Words where
  options : List (String × String) := []
  arguments : List String := []
  deriving Repr, DecidableEq, Inhabited

namespace Words

/-- Words with more options in front. -/
def prepend (w : Words) (options : List (String × String)) : Words :=
  { w with options := options ++ w.options }

/-- Words with one more argument in front. -/
def addArgument (w : Words) (word : String) : Words :=
  { w with arguments := word :: w.arguments }

/-- Whether an option is given. -/
def has (w : Words) (key : String) : Bool :=
  w.options.any fun o => o.1 == key

/-- The values of an option. -/
def all (w : Words) (key : String) : List String :=
  (w.options.filter fun o => o.1 == key).map (·.2)

/-- The last value of an option. -/
def last? (w : Words) (key : String) : Option String :=
  (w.all key).getLast?

end Words

/-- Whether a word is an option. -/
def isOption (word : String) : Bool :=
  Text.startsWith word "-" && word != "-"

/-- What one word brings: options with their values, and the option that still waits for one. -/
abbrev Reading := List (String × String) × Option String

/-- The options in a run of letters. -/
def readLetters (switches : List Switch) : List Char → Except Misuse Reading
  | [] => .ok ([], none)
  | c :: rest =>
    let name := String.ofList ['-', c]
    match switches.find? fun s => s.names.contains name with
    | none => .error (.noSuchOption name)
    | some s =>
      if s.takesValue then
        .ok (if rest.isEmpty then ([], some s.key) else ([(s.key, String.ofList rest)], none))
      else
        (readLetters switches rest).map fun (found, waiting) => ((s.key, "") :: found, waiting)

/-- The options in a word. -/
def readOption (switches : List Switch) (word : String) : Except Misuse Reading :=
  let (name, value) := Text.splitFirst '=' word
  let isLong := Text.startsWith word "--"
  match switches.find? fun s => isLong && s.names.contains name with
  | some s =>
    match s.takesValue, value with
    | true, some v => .ok ([(s.key, v)], none)
    | true, none => .ok ([], some s.key)
    | false, some _ => .error (.unexpectedValue name)
    | false, none => .ok ([(s.key, "")], none)
  | none =>
    if isLong then .error (.noSuchOption name) else readLetters switches (word.toList.drop 1)

/-- Reads words.  If options have to stand in front, the first argument ends them. -/
def readWords (switches : List Switch) (inFront : Bool) : List String → Except Misuse Words
  | [] => .ok {}
  | word :: rest =>
    if word == "--" then .ok { arguments := rest }
    else if isOption word then
      match readOption switches word with
      | .error e => .error e
      | .ok (found, none) => (readWords switches inFront rest).map (·.prepend found)
      | .ok (found, some key) =>
        match rest with
        | [] => .error (.missingValue word)
        | value :: rest =>
          (readWords switches inFront rest).map (·.prepend (found ++ [(key, value)]))
    else if inFront then .ok { arguments := word :: rest }
    else (readWords switches inFront rest).map (·.addArgument word)

end Console
end CrossAudit
