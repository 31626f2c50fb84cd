/-
Settings from the command line.

Each flag takes one value, behind it or after an equals sign, and may be
given once. A value behind a flag may not look like a flag itself; a
single dash does not. Anything that is no known flag with a fitting
value is a mistake in usage.
-/
import BatchAdmin.Settings.Address
import BatchAdmin.Settings.Merge

namespace BatchAdmin.Flags

open Text

-- ==================================================================== flags

/-- The flags there are. -/
inductive Flag where
  | bind
  | basePath
  | stagingDirectory
  | simulation
  | verbose
  | jsonLogs
  deriving DecidableEq, Repr

namespace Flag

/-- Every flag once. -/
def all : List Flag :=
  [.bind, .basePath, .stagingDirectory, .simulation, .verbose, .jsonLogs]

/-- A flag as it is written. -/
def name : Flag → String
  | .bind => "--bind"
  | .basePath => "--base-path"
  | .stagingDirectory => "--staging-directory"
  | .simulation => "--simulation"
  | .verbose => "--verbose"
  | .jsonLogs => "--json-logs"

/-- Where in the settings the value of a flag goes. -/
def path : Flag → List String
  | .bind => ["http", "bind"]
  | .basePath => ["http", "base_path"]
  | .stagingDirectory => ["files", "staging_directory"]
  | .simulation => ["simulation", "enabled"]
  | .verbose => ["verbose"]
  | .jsonLogs => ["json_logs"]

/-- The value of a flag, if the text fits. -/
def value? (flag : Flag) (text : String) : Option Json :=
  match flag with
  | .bind => (ListenAddress.read? text).map fun a => .text a.text
  | .basePath => some (.text text)
  | .stagingDirectory => if text.isEmpty then none else some (.text text)
  | .simulation | .verbose | .jsonLogs =>
      (readBool text.toList).map .bool

end Flag

-- ================================================================ the words

/-- A word that looks like a flag. -/
def looksLikeFlag (word : String) : Bool :=
  word.toList.head? == some '-' && word != "-"

/-- The flag that a word names, and the value after its equals sign. -/
def named? (word : String) : Option (Flag × Option String) :=
  let (name, value) := match cut '=' word.toList with
    | some (name, value) => (name, some (String.ofList value))
    | none => (word.toList, none)
  (Flag.all.find? fun f => f.name.toList == name).map fun f => (f, value)

/-- The flags that words make, those before in `seen`. -/
def readWords (seen : List (Flag × Json)) :
    List String → Option (List (Flag × Json))
  | [] => some seen.reverse
  | ["--"] => some seen.reverse
  | word :: rest => do
      let (flag, given) ← named? word
      if seen.any fun f => f.1 = flag then none
      else
        match given, rest with
        | some text, rest =>
            readWords ((flag, ← flag.value? text) :: seen) rest
        | none, text :: rest =>
            if looksLikeFlag text then none
            else readWords ((flag, ← flag.value? text) :: seen) rest
        | none, [] => none

/-- The settings that a command line makes; none if it is mistaken. -/
def read? (words : List String) : Option Json :=
  (readWords [] words).map fun flags =>
    flags.foldl (fun doc (flag, v) => doc.overlaid (.nested flag.path v))
      (.object [])

end BatchAdmin.Flags
