import Tabular.Assoc
import Tabular.Journal.Format
import Tabular.Settings

namespace Tabular

/-!
# The journal of the service

Records are written to the console and, when a file is given, to a file that is rolled over before
it grows beyond a size. Setting the journal up again replaces the sinks that were set up before and
leaves other sinks alone. Records of loggers that do not belong to the service, and records that no
sink is there for, go to the console when they are warnings.
-/

namespace Journal

/-- Where records are written. -/
inductive Sink where
  | console (level : Int) (format : LineFormat)
  | file (level : Int) (format : LineFormat) (path : String) (maxBytes backups : Int)
  /-- A sink of someone else's that writes nothing. -/
  | silent

namespace Sink

/-- The sink was set up by the journal. -/
def isOwn : Sink → Bool
  | .silent => false
  | _ => true

/-- The level from which records are written. -/
def level : Sink → Int
  | .console level _ => level
  | .file level .. => level
  | .silent => 0

end Sink

/-- Why a journal cannot be set up. -/
inductive SetupFault where
  /-- The format has no field. -/
  | noField
  /-- The file lies in a directory that does not exist. -/
  | noDirectory

/-- How a journal is set up. -/
structure Setup where
  level : String := "INFO"
  file : Option String := none
  directory : Option String := none
  format : Option String := none
  maxBytes : Int := 5 * 1024 * 1024
  backups : Int := 3

end Journal

/-- What has been set up and written so far. -/
structure Journal where
  level : Int := 0
  sinks : List Journal.Sink := []
  console : String := ""
  /-- The contents of the files by path. -/
  files : Assoc String := .empty
  /-- The directories that have been made. -/
  directories : List String := []

namespace Journal

/-! ## Paths -/

/-- The parts of a path without empty parts and dots. -/
def pathParts (path : String) : List String :=
  (Text.split '/' path).filter fun part => part ≠ "" && part ≠ "."

/-- A path with its parts joined. -/
def joinParts (absolute : Bool) (parts : List String) : String :=
  (if absolute then "/" else "") ++ "/".intercalate parts

/-- The parts of a file in a directory. A path that starts at the root ignores the directory. -/
def fileParts (directory file : String) : Bool × List String :=
  if file.startsWith "/" then (true, pathParts file)
  else (directory.startsWith "/", pathParts directory ++ pathParts file)

/-- A directory and the ones around it. -/
def enclosing (absolute : Bool) (parts : List String) : List String :=
  (List.range (parts.length + 1)).map fun count => joinParts absolute (parts.take count)

/-! ## Writing records -/

/-- The name of the logger that the journal is set up for. -/
def loggerName : String :=
  Text.lower serviceName

/-- The logger belongs to the service. -/
def isOwnLogger (logger : String) : Bool :=
  logger == loggerName || logger.startsWith (loggerName ++ ".")

/-- The least level of the records of a logger that are looked at. -/
def leastLevel (journal : Journal) (logger : String) : Int :=
  if isOwnLogger logger && journal.level ≠ 0 then journal.level else warningLevel

/-- The line is added to the console. -/
def writeConsole (line : String) (journal : Journal) : Journal :=
  { journal with console := journal.console ++ line ++ "\n" }

/-- The path of a backup. -/
def backupPath (path : String) (number : Nat) : String :=
  path ++ "." ++ Decimal.ofInt number

/-- The files with one moved; nothing moves when it does not exist. -/
def moveFile (source target : String) (files : Assoc String) : Assoc String :=
  match files.find? source with
  | some content => (files.erase source).insert target content
  | none => files

/-- The files with the backups below a number moved up by one, the highest first. -/
def shiftBackups (path : String) : Nat → Assoc String → Assoc String
  | 0, files => files
  | number + 1, files =>
      shiftBackups path number
        (if number = 0 then files
        else moveFile (backupPath path number) (backupPath path (number + 1)) files)

/-- The files with one rolled over: it becomes the first of its backups. -/
def rollOver (path : String) (backups : Int) (files : Assoc String) : Assoc String :=
  if 0 < backups then
    (moveFile path (backupPath path 1) (shiftBackups path backups.toNat files)).insert path ""
  else files

/-- The file has no room for a line. -/
def isFull (path : String) (maxBytes : Int) (line : String) (files : Assoc String) : Bool :=
  0 < maxBytes &&
    maxBytes ≤ (((files.find? path).getD "").utf8ByteSize + (line.length + 1) : Nat)

/-- The files with a line added to one, which is rolled over first when it has no room. -/
def appendLine (path : String) (maxBytes backups : Int) (line : String) (files : Assoc String) :
    Assoc String :=
  let files := if isFull path maxBytes line files then rollOver path backups files else files
  files.insert path ((files.find? path).getD "" ++ line ++ "\n")

/-- The journal after a sink has been given a record. -/
def writeTo (record : Record) (journal : Journal) (sink : Sink) : Journal :=
  if record.level < sink.level then journal
  else
    match sink with
    | .console _ format => journal.writeConsole (format.written record)
    | .file _ format path maxBytes backups =>
        { journal with
          files := appendLine path maxBytes backups (format.written record) journal.files }
    | .silent => journal

/-- The sinks of a logger. -/
def sinksOf (journal : Journal) (logger : String) : List Sink :=
  if isOwnLogger logger then journal.sinks else []

/-- The journal after a record. Records below level one are never written. -/
def log (record : Record) (journal : Journal) : Journal :=
  if record.level ≤ 0 || record.level < journal.leastLevel record.logger then journal
  else
    match journal.sinksOf record.logger with
    | [] => if warningLevel ≤ record.level then journal.writeConsole record.message else journal
    | sinks => sinks.foldl (writeTo record) journal

/-! ## Setting up -/

/-- A sink that is not the journal's own is added. -/
def addForeign (journal : Journal) : Journal :=
  { journal with sinks := journal.sinks ++ [.silent] }

/-- The text that is given, unless it is empty. -/
def given (text : Option String) : Option String :=
  text.filter fun text => text ≠ ""

/-- The journal with the level set and its own sinks removed. -/
def reset (level : Int) (journal : Journal) : Journal :=
  { journal with level, sinks := journal.sinks.filter fun sink => !sink.isOwn }

/-- The path of the file in its directory, which is made, and the journal with the file opened. -/
def openFile (directory file : String) (journal : Journal) :
    Except SetupFault String × Journal :=
  let made := enclosing (directory.startsWith "/") (pathParts directory)
  let journal := { journal with directories := journal.directories ++ made }
  let (absolute, parts) := fileParts directory file
  let path := joinParts absolute parts
  if journal.directories.contains (joinParts absolute parts.dropLast) then
    (.ok path,
      { journal with files := journal.files.insert path ((journal.files.find? path).getD "") })
  else (.error .noDirectory, journal)

/-- The journal with its own sinks added. -/
def addSinks (sinks : List Sink) (journal : Journal) : Journal :=
  { journal with sinks := journal.sinks ++ sinks }

/-- The journal with a console sink and, when a file is given, a file sink. -/
def setUpSinks (setup : Setup) (level : Int) (format : LineFormat) (journal : Journal) :
    Except SetupFault Unit × Journal :=
  match given setup.file with
  | none => (.ok (), journal.addSinks [.console level format])
  | some file =>
      match journal.openFile ((given setup.directory).getD "logs") file with
      | (.ok path, journal) =>
          let sinks := [.console level format, .file level format path setup.maxBytes setup.backups]
          (.ok (),
            (journal.addSinks sinks).log
              { logger := loggerName, level := debugLevel, message := "Logging to " ++ path })
      | (.error fault, journal) => (.error fault, journal)

/-- The journal set up. A format without a field leaves the journal as it was. -/
def setUp (setup : Setup) (journal : Journal) : Except SetupFault Unit × Journal :=
  let level := levelOfName setup.level
  match LineFormat.read? ((given setup.format).getD LineFormat.default) with
  | none => (.error .noField, journal)
  | some format => setUpSinks setup level format (journal.reset level)

end Journal

end Tabular
