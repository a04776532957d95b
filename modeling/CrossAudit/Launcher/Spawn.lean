import CrossAudit.Json.Number
import CrossAudit.Json.Printer
import CrossAudit.Launcher.Basic
import CrossAudit.Task.Native
import CrossAudit.Wire.Task

/-!
# Launching analyses

An analysis runs in process or as an external program.  Whatever goes wrong becomes the result of
the language, and the books of the launcher say how each launch ended.
-/

namespace CrossAudit

/-! ## Requests -/

namespace Wire

/-- A request as a document. -/
def requestJson (files : List String) (options : List (String × Json)) (id : Int) : Json :=
  .obj [("method", .str "analyze"),
    ("params", .obj [("files", .ofTexts files), ("options", .obj options)]), ("id", .int id)]

/-- The text of a request to analyze files. -/
def request (files : List String) (options : List (String × Json)) (id : Int) : String :=
  (requestJson files options id).render Json.compact

end Wire

/-! ## Launches -/

namespace Launcher

/-- Why a launch fails. -/
inductive LaunchError where
  | unavailable (runtime reason : String)
  | noAnalyzer (runtime : String) (analyzer : Option Json)
  | cannotStart (program : String) (error : SystemError)
  | timedOut (runtime : String) (timeout : Binary64)
  | exited (runtime : String) (code : Int) (lastWords : String)
  | breach (b : Wire.Breach)
  | reported (runtime : String) (code : Int) (message : String)
  | fault (f : Fault)
  | system (e : SystemError)

namespace LaunchError

/-- The kind of error record that a failure leads to. -/
def kind : LaunchError → String
  | .unavailable _ _ => "runtime-unavailable"
  | .noAnalyzer _ _ | .cannotStart _ _ => "spawn"
  | .timedOut _ _ => "timeout"
  | .exited _ _ _ | .breach _ => "protocol"
  | .reported _ _ _ | .fault _ | .system _ => "analysis"

/-- The wording of a failure. -/
def message : LaunchError → String
  | .unavailable r reason => "Runtime '" ++ r ++ "' unavailable: " ++ reason
  | .noAnalyzer r a => Detection.noAnalyzer r a
  | .cannotStart p e => "cannot start " ++ p ++ ": " ++ e.message
  | .timedOut r t => r ++ " analyzer timed out after " ++ Decimal.rounded t ++ "s"
  | .exited r code words => r ++ " analyzer exited with " ++ toString code ++ ": " ++ words
  | .breach b => b.message
  | .reported r code m => r ++ " analyzer error " ++ toString code ++ ": " ++ m
  | .fault f => "Analysis failed: " ++ f.message
  | .system e => "Analysis failed: " ++ e.message

/-- Whether a failure is booked: a runtime that is not there is not. -/
def isBooked : LaunchError → Bool
  | .unavailable _ _ => false
  | _ => true

end LaunchError

/-! ## Starting a process -/

/-- An argument with the analyzer's location in place of its mark. -/
def argument (s : Detection.Scene) (spec : RuntimeSpec) (analyzer : Option Json) (arg : String) :
    Except LaunchError String :=
  if !Text.contains arg RuntimeSpec.analyzerMark then .ok arg
  else
    match Detection.analyzerPresent s spec analyzer with
    | .error f => .error (.fault f)
    | .ok false => .error (.noAnalyzer spec.name analyzer)
    | .ok true =>
      match Detection.located s (analyzer.getD .null) with
      | .error f => .error (.fault f)
      | .ok path => .ok (Text.replaceAll arg RuntimeSpec.analyzerMark path)

/-- The command that runs an analyzer. -/
def command (l : Launcher) (i : RuntimeInfo) (spec : RuntimeSpec) :
    Except LaunchError (List String) := do
  let args ← spec.analyzeArgs.mapM (argument l.scene spec i.analyzer)
  return i.path.getD "" :: args

/-- Starts a process once. -/
def startOnce (l : Launcher) (command : List String) : Start × Launcher :=
  let (start, machine) := l.machine.next
  (start, { l.note [.spawn command] with machine := machine })

/-- Starts a process, once more after a pause if the first attempt met a transient error. -/
def start (l : Launcher) (command : List String) : Start × Launcher :=
  match l.startOnce command with
  | (.running b, l) => (.running b, l)
  | (.brokenOff f, l) => (.brokenOff f, l)
  | (.refused e, l) =>
    if e.isTransient then
      startOnce ((l.note [.pause]).book fun s => { s with retries := s.retries + 1 }) command
    else (.refused e, l)

/-! ## Talking to a process -/

/-- The last line of what a process said about its trouble. -/
def lastWords (errors : String) : String :=
  ((Text.lines (Text.strip errors)).getLast?).getD ""

/-- What happens while a process runs: it may be cancelled, and all processes may be killed. -/
def duringRun (l : Launcher) (b : Behaviour) (signal : Signal) : Signal × Launcher :=
  (if b.cancels then signal.raise else signal, if b.killsAll then l.killAll.2 else l)

/-- Ends a process that exceeded its time: it is killed, and its output is taken. -/
def endLate (l : Launcher) (b : Behaviour) (runtime : String) (timeout : Binary64) :
    LaunchError × Launcher :=
  match b.killError, b.trouble with
  | some e, _ => (.system e, l)
  | none, some f => (.fault f, l.note [.kill])
  | none, none =>
    (.timedOut runtime timeout,
      (l.note [.kill]).book fun s => { s with timeouts := s.timeouts + 1 })

/-- Sends a request to a process and waits for its end. -/
def converse (l : Launcher) (b : Behaviour) (runtime request : String) (timeout : Binary64)
    (signal : Signal) : Option LaunchError × Signal × Launcher :=
  let waiting := { l with live := l.live ++ [b] }.book fun s => { s with spawned := s.spawned + 1 }
  let (signal, after) := (waiting.note [.request request timeout]).duringRun b signal
  if b.timesOut then
    let (e, after) := after.endLate b runtime timeout
    (some e, signal, { after with live := l.live })
  else (b.trouble.map .fault, signal, { after with live := l.live })

/-- The result of a language that was cancelled. -/
def cancelled (language : String) : TaskResult :=
  .failed language "Analysis cancelled" "cancelled"

/-- Reads what a process printed. -/
def readOutput (runtime language : String) (b : Behaviour) : Except LaunchError TaskResult :=
  match Wire.Response.ofOutput b.output with
  | .error breach =>
    if b.code != 0 then .error (.exited runtime b.code (lastWords b.errors))
    else .error (.breach breach)
  | .ok r =>
    match r.error, r.result with
    | some f, _ => .error (.reported runtime f.code f.message)
    | none, some found => .ok (found.toTask language)
    | none, none => .ok { language := language }

/-- The options that are sent along: those that are not null. -/
def sentOptions (options : List (String × Json)) : List (String × Json) :=
  options.filter fun o =>
    match o.2 with
    | .null => false
    | _ => true

/-- The seconds that an analysis may take. -/
def timeoutOf (l : Launcher) (options : List (String × Json)) : Except Fault Binary64 :=
  match (options.lookup "timeout").filter Json.holds with
  | some v => v.toNumber
  | none => .ok l.analysisTimeout

/-- Runs an external analyzer. -/
def runExternal (l : Launcher) (i : RuntimeInfo) (spec : RuntimeSpec) (language : String)
    (files : List String) (options : List (String × Json)) (signal : Signal) :
    Except LaunchError TaskResult × Signal × Launcher :=
  match l.command i spec with
  | .error e => (.error e, signal, l)
  | .ok command =>
    match l.timeoutOf options with
    | .error f => (.error (.fault f), signal, l)
    | .ok timeout =>
      if signal.raised then (.ok (cancelled language), signal, l)
      else
        match l.start command with
        | (.refused e, l) => (.error (.cannotStart (i.path.getD "") e), signal, l)
        | (.brokenOff f, l) => (.error (.fault f), signal, l)
        | (.running b, l) =>
          match l.converse b spec.name (Wire.request files (sentOptions options) 1) timeout
              signal with
          | (some e, signal, l) => (.error e, signal, l)
          | (none, signal, l) =>
            if signal.raised then (.ok (cancelled language), signal, l)
            else
              match readOutput spec.name language b with
              | .error e => (.error e, signal, l)
              | .ok r =>
                (.ok r, signal, l.book fun s => { s with succeeded := s.succeeded + 1 })

/-! ## Launching -/

/-- The result of a launch that failed, booked if it has to be. -/
def settle (l : Launcher) (language : String) (e : LaunchError) : TaskResult × Launcher :=
  (.failed language e.message e.kind,
    if e.isBooked then l.book fun s => { s with failed := s.failed + 1 } else l)

/-- What a launch comes to: the result, the progress reported, the signal afterwards, and the
launcher. -/
structure Outcome where
  result : TaskResult
  progress : List (Nat × Nat) := []
  signal : Signal
  launcher : Launcher

/-- Runs an external analyzer on a runtime that has to be usable. -/
def launchExternal (l : Launcher) (runtime language : String) (files : List String)
    (options : List (String × Json)) (signal : Signal) :
    Except LaunchError TaskResult × Signal × Launcher :=
  match l.runtime? runtime with
  | (.error f, l) => (.error (.fault f), signal, l)
  | (.ok none, l) => (.error (.unavailable runtime "unknown runtime"), signal, l)
  | (.ok (some i), l) =>
    if !i.usable then (.error (.unavailable runtime (i.error.getD "None")), signal, l)
    else
      match l.specs.lookup runtime with
      | none => (.error (.fault (.noKey runtime)), signal, l)
      | some spec => l.runExternal i spec language files options signal

/-- Analyzes files of a language with a runtime. -/
def launch (l : Launcher) (runtime language : String) (files : List String)
    (options : List (String × Json)) (signal : Signal) : Outcome :=
  if isNative runtime then
    let done := Native.analyze l.workspace l.registry language files (.obj options) signal
    match done.result with
    | .ok result => ⟨result, done.progress, done.signal, l⟩
    | .error f =>
      let (result, l) := l.settle language (.fault f)
      ⟨result, done.progress, done.signal, l⟩
  else
    match l.launchExternal runtime language files options signal with
    | (.ok result, signal, l) => ⟨result, [], signal, l⟩
    | (.error e, signal, l) =>
      let (result, l) := l.settle language e
      ⟨result, [], signal, l⟩

end Launcher
end CrossAudit
