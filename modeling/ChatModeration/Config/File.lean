import ChatModeration.Config.Schema
import ChatModeration.Config.Validation
import ChatModeration.Yaml.Typed

/-!
# Configurations in files

A configuration is stored in a file of a directory.  `Directory.load` reads it back: the file is read, its content is
decoded, and the configuration is validated.
-/

namespace ChatModeration

/-- What a file holds.  A value that was saved is kept as it is, because its written form reads back as itself. -/
inductive FileContent where
  | text (content : String)
  | saved (value : Json)

/-- The configuration that a file holds. -/
def FileContent.config? : FileContent → Option Config
  | text content => Yaml.decode? Config.decoder content
  | saved value => (Config.decoder.decode value).toOption

/-- Why a file cannot be used. -/
inductive FileFault where
  | notFound | denied
deriving DecidableEq, Repr

/-- Why an operation with a configuration fails. -/
inductive LoadError where
  | notRead (path : String) (fault : FileFault)
  | notWritten (path : String) (fault : FileFault)
  | notDecoded (path : String)
  | invalid (problem : ConfigError)
  /-- The directory cannot be watched. -/
  | notWatched (reason : String)
deriving DecidableEq, Repr

/-- The message of a failure. -/
def LoadError.message : LoadError → String
  | notRead path _ => "reading " ++ path
  | notWritten path _ => "writing " ++ path
  | notDecoded path => "parsing " ++ path
  | invalid problem => problem.message
  | notWatched reason => reason

/-- A directory of files, which may not be there yet. -/
structure Directory where
  path : String
  isThere : Bool
  isReadable : Bool
  isWritable : Bool
  files : List (String × FileContent)

namespace Directory

/-- An empty directory. -/
def empty (path : String) (isThere : Bool) : Directory := ⟨path, isThere, true, true, []⟩

/-- The path of a file. -/
def pathOf (d : Directory) (name : String) : String := d.path ++ "/" ++ name

/-- What is in a file, whether or not it can be read. -/
def content? (d : Directory) (name : String) : Option FileContent := if d.isThere then d.files.lookup name else none

/-- Whether there is a file of this name. -/
def has (d : Directory) (name : String) : Bool := (d.content? name).isSome

/-- The content of a file. -/
def read (d : Directory) (name : String) : Except FileFault FileContent :=
  match d.content? name with
  | none => .error .notFound
  | some content => if d.isReadable then .ok content else .error .denied

/-- The directory with a new content of a file. -/
def write (d : Directory) (name : String) (content : FileContent) : Except FileFault Directory :=
  if !d.isThere then .error .notFound
  else if !d.isWritable then .error .denied
  else .ok { d with files := (name, content) :: d.files.filter (·.1 ≠ name) }

/-- The directory, made if it is not there.  Then it has no files. -/
def create (d : Directory) : Except FileFault Directory :=
  if d.isThere then .ok d
  else if d.isWritable then .ok { d with isThere := true, files := [] }
  else .error .denied

/-- The configuration in a file, if it is valid. -/
def load (d : Directory) (name : String) : Except LoadError Config := do
  let content ← (d.read name).mapError (.notRead (d.pathOf name))
  match content.config? with
  | none => throw (.notDecoded (d.pathOf name))
  | some c =>
    c.validate.mapError .invalid
    return c

/-- The directory with a configuration in a file. -/
def save (d : Directory) (name : String) (c : Config) : Except LoadError Directory :=
  (d.write name (.saved c.toJson)).mapError (.notWritten (d.pathOf name))

end Directory

end ChatModeration
