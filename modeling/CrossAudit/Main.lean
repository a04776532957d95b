import CrossAudit.Snapshot.Session

/-!
# The command line

The program reads the snapshot of a project and its machine from standard input, runs the command
that its arguments ask for, prints the reply, and writes the files that the command leaves behind.
-/

namespace CrossAudit
namespace Console

/-- The lines of something to show. -/
def Output.lines : Output → List String
  | .line t | .markup t => [t]
  | .document j => [j.pretty]
  | .table title headers rows =>
    title :: Text.join " | " headers :: rows.map fun cells => Text.join " | " cells
  | .panel title text _ => ["--- " ++ title ++ " ---", text]

/-- The session of a snapshot: its files, its machine, and the directory that it was taken in. -/
def sessionOf (snapshot : Json) : Session :=
  Snapshot.session ((snapshot.get? "machine").getD (.obj []))
    (Snapshot.workspace (snapshot.itemsAt "files")) (snapshot.textAt "directory" ".")

/-- Prints a reply. -/
def print (r : Reply) : IO Unit := do
  for line in r.output.flatMap Output.lines do
    IO.println line
  match r.failure with
  | some f => IO.eprintln f.message
  | none => pure ()

/-- Writes the files of a session, and its configuration if a command has changed it. -/
def save (before after : Session) : IO Unit := do
  for (path, text) in after.exports do
    IO.FS.writeFile path text
  match after.config with
  | .absent | .garbled _ => pure ()
  | .text text =>
    if after.config != before.config then
      IO.FS.createDirAll after.base
      IO.FS.writeFile after.configFile text

/-- Runs one command on a snapshot. -/
def serve (snapshot : Json) (words : List String) : IO UInt32 := do
  let before := sessionOf snapshot
  match Command.ofWords words with
  | .error e => IO.eprintln e.message
  | .ok _ => pure ()
  let (reply, after) := before.run words
  print reply
  save before after
  return UInt32.ofNat reply.code

end Console
end CrossAudit

/-- Runs the command that the arguments ask for. -/
def main (arguments : List String) : IO UInt32 := do
  let text ← (← IO.getStdin).readToEnd
  match CrossAudit.Json.parse 100000 text with
  | .ok snapshot => CrossAudit.Console.serve snapshot arguments
  | .error _ =>
    IO.eprintln "the snapshot on standard input is no document"
    return 2
