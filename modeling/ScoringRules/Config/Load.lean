import ScoringRules.Config.Basic
import ScoringRules.Text
import ScoringRules.Toml.Document

/-!
# Loading the configuration

The configuration is a TOML file. Its path is the one that is asked for, or else the value of an
environment variable, or else a default name. Loading checks the path, reads the file, checks its
size and its encoding, decodes it, and checks the limits, and fails at the first stage that fails.

A path is any bytes, and need not be a text. What the file system and the decoder say when they fail
is passed on.

- `Config.ofToml?` decodes a document
- `Config.resolvePath` finds the path, and `Config.Path.check` checks it
- `Config.loadWith` loads by a given decoder, `Config.load` by `Config.ofToml?`
-/

namespace ScoringRules

/-- Why a configuration cannot be loaded. The file system and the decoder give reasons of their
own. -/
inductive ConfigError where
  | io (reason : String)
  | parse (reason : String)
  | invalid (error : InvalidConfig)
deriving DecidableEq, Repr

def ConfigError.message : ConfigError → String
  | io reason => "config io error: " ++ reason
  | parse reason => "config parse error: " ++ reason
  | invalid error => error.message

namespace Config

/-- The environment variable that may hold the path. -/
def environmentVariable : String := "CATALOG_SCORING_CONFIG"

def defaultPath : String := "catalog-scoring.toml"

def maxFileSize : Nat := 65536

def maxPathLength : Nat := 4096

def maxPathComponentLength : Nat := 255

/-- A path of a file system: any bytes, whether or not they are a text. -/
structure Path where
  bytes : List UInt8
deriving DecidableEq, Repr

namespace Path

/-- The path that is spelled by a text. -/
def ofText (path : String) : Path := ⟨path.toUTF8.data.toList⟩

/-- What stands between the slashes of a path. Empty parts and dots are not told apart from names:
they are short in any case. -/
def components (path : Path) : List (List UInt8) :=
  let (first, later) := Text.splitList '/'.toUInt8 path.bytes
  first :: later

/-- Checks the length of a path and then of its components. -/
def check (path : Path) : Except ConfigError Unit :=
  if maxPathLength < path.bytes.length then .error (.invalid .pathTooLong)
  else if path.components.any fun component => maxPathComponentLength < component.length then
    .error (.invalid .pathComponentTooLong)
  else .ok ()

end Path

/-- The path of the file. A variable that does not hold UTF-8 is as good as not set. -/
def resolvePath (environment : Option ByteArray) (path : Option Path) : Except ConfigError Path :=
  match path with
  | some path => .ok path
  | none =>
      match environment.bind String.fromUTF8? with
      | some path =>
          if maxPathLength < path.utf8ByteSize then .error (.invalid .pathTooLong)
          else .ok (.ofText path)
      | none => .ok (.ofText defaultPath)

/-- The text of a file. -/
def fileText (bytes : ByteArray) : Except ConfigError String :=
  if maxFileSize < bytes.size then .error (.invalid .fileTooLarge)
  else
    match String.fromUTF8? bytes with
    | some text => .ok text
    | none => .error (.invalid .notUtf8)

/-- The configuration, if its settings are in their ranges. -/
def checked (config : Config) : Except ConfigError Config :=
  match config.invalid? with
  | some error => .error (.invalid error)
  | none => .ok config

/-- Loads a configuration from files, given how their text is decoded. -/
def loadWith (decode : String → Except String Config) (files : Path → Except String ByteArray)
    (environment : Option ByteArray) (path : Option Path) : Except ConfigError Config := do
  let path ← resolvePath environment path
  path.check
  let bytes ← (files path).mapError .io
  let text ← fileText bytes
  let config ← (decode text).mapError .parse
  config.checked

/-! ## TOML -/

/-- The members of a document as JSON values. Settings that are given as an array are passed over
beyond the last one there is, whatever they are. -/
def documentJson? (document : Toml.Table) : Option (List (String × Json)) :=
  Toml.membersToJson? (document.map fun (name, item) =>
    (name, if name = "validation" then item.take ValidationSettings.fields.length else item))

/-- Decodes a TOML document. Names that are no setting are passed over, but each number under them
has to be one that can be represented. -/
def ofToml? (text : String) : Option Config := do
  Codec.decode? (.object (← documentJson? (← Toml.parse? text)))

/-- Decodes a TOML document, given what is said about a text that is none. -/
def decodeToml (explain : String → String) (text : String) : Except String Config :=
  match ofToml? text with
  | some config => .ok config
  | none => .error (explain text)

/-- Loads a configuration from files that hold TOML documents. -/
def load (explain : String → String) : (files : Path → Except String ByteArray) →
    (environment : Option ByteArray) → (path : Option Path) → Except ConfigError Config :=
  loadWith (decodeToml explain)

end Config

end ScoringRules
