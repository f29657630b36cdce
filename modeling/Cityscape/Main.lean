import Cityscape.CommandLine

/-!
# The program

Makes a city and reports every step.

Options: `--config PATH` reads a settings file, `--seed SEED` seeds every generator, `--size CELLS`
sets the side of the map, `--iterations N` the rounds of road growth, 0 for as many as it takes.
-/

open Cityscape

/-- The text of a file, if it can be read and is text. -/
def readText (path : String) : IO (Option String) := do
  try
    let text ← IO.FS.readFile path
    return some text
  catch _ => return none

/-- The files and the standard error stream of the machine. -/
def machine : Host IO where
  read := readText
  report notice := IO.eprintln (notice.level.name ++ " " ++ notice.message Shortest.text)
  complain text := IO.eprintln text

def main (words : List String) : IO UInt32 := CommandLine.run machine words
