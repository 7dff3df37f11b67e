import AnswerStream.Program
import AnswerStream.Query.Fresh

/-!
The command line. What the server does is read from the standard input as a transcript, one exchange
a line, once a command asks for the server.
-/

namespace AnswerStream.Main

/-- The octets of a file, where it can be read. -/
def readFile? (path : String) : IO (Option (List UInt8)) := do
  try
    let bytes ← IO.FS.readBinFile path
    pure (some bytes.toList)
  catch _ => pure none

def readEnvironment : IO Environment := do
  let entries ← Variable.all.filterMapM fun name => do
    pure ((← IO.getEnv name).map fun value => (name, value))
  pure (.ofList entries)

partial def readLines (input : IO.FS.Stream) (earlier : List String) : IO (List String) := do
  let line ← input.getLine
  if line.isEmpty then pure earlier.reverse else readLines input (line :: earlier)

def readExchanges (words : List String) : IO (List Exchange) := do
  if (Report.ofLocal? (Command.parse words)).isSome then pure []
  else
    let lines ← readLines (← IO.getStdin) []
    pure ((Transcript.exchangesOf? lines).getD [])

/-- Numbers of 64 bits that follow from a seed. -/
def draws (seed : Nat) (n : Nat) : Nat := (randNat (mkStdGen (seed + n)) 0 (Nat.pow 2 64 - 1)).1

def start (words : List String) : IO UInt32 := do
  let home := (← IO.getEnv "HOME").getD ""
  let file ← readFile? s!"{home}/{ClientConfig.defaultPath}"
  let invocation : Invocation := ⟨words, file, ← readEnvironment⟩
  let exchanges ← readExchanges words
  let ids := FreshIds.ofRandom (← IO.rand 0 (Nat.pow 2 128 - 1)) (← IO.rand 0 (Nat.pow 2 128 - 1))
  let exit := Program.replay invocation exchanges (draws (← IO.rand 0 (Nat.pow 2 64 - 1))) ids
  (← IO.getStdout).putStr exit.output.stdout
  (← IO.getStderr).putStr exit.output.stderr
  pure (exit.code.getD 1).toUInt32

end AnswerStream.Main

def main (words : List String) : IO UInt32 := AnswerStream.Main.start words
