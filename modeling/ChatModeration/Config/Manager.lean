import ChatModeration.Config.File
import ChatModeration.Config.Snapshot

/-!
# The configuration in use

A `ConfigManager` publishes the snapshot of the configuration in a file.  It takes over what the file holds when it
starts and whenever the file changes, and a configuration that is saved through it.  Each of these operations either
publishes the snapshot of one configuration and announces it, or fails and leaves the published snapshot as it is; a
start that has published its configuration still fails if the directory cannot be watched.
-/

namespace ChatModeration

/-- What a manager announces. -/
inductive ConfigChange where
  /-- A configuration has been published; so many of its patterns cannot be used. -/
  | updated (file : String) (patternErrors : Nat)
  /-- The manager has started with these files. -/
  | reloaded (files : List String)
  /-- A changed file has not been taken over. -/
  | rejected (file : String) (reason : LoadError)
deriving DecidableEq, Repr

/-- The configuration in use and the directory of its file. -/
structure ConfigManager where
  directory : Directory
  published : Snapshot
  /-- Whether the manager is told of changed files. -/
  isWatching : Bool

/-- What an operation does: the manager after it, what is announced, and how it ends. -/
structure ConfigOutcome where
  manager : ConfigManager
  changes : List ConfigChange
  result : Except LoadError Unit

namespace ConfigManager

/-- The name of the file. -/
def fileName : String := "moderation.yaml"

/-- Whether changes of a file of this name count. -/
def isWatched (name : String) : Bool := name == fileName || name == "moderation.yml"

/-- A manager that has not started. -/
def ofDirectory (d : Directory) : ConfigManager := ⟨d, .standard, false⟩

/-- Whether the file is there. -/
def hasFile (m : ConfigManager) : Bool := m.directory.has fileName

/-- The configuration in the file. -/
def load (m : ConfigManager) : Except LoadError Config := m.directory.load fileName

/-- An operation that fails. -/
def failed (m : ConfigManager) (changes : List ConfigChange) (e : LoadError) : ConfigOutcome :=
  ⟨m, changes, .error e⟩

/-- Publishes a configuration that comes from the named file. -/
def publish (m : ConfigManager) (file : String) (c : Config) : ConfigOutcome :=
  let (s, errors) := (Snapshot.build c).run []
  ⟨{ m with published := s }, [.updated file errors.length], .ok ()⟩

/-- Announces the file and starts watching the directory, after what has been done.  If the directory cannot be watched
the start fails, though what has been done stays done. -/
def started (file : String) (watchFault : Option String) (o : ConfigOutcome) : ConfigOutcome :=
  let o : ConfigOutcome := { o with changes := o.changes ++ [.reloaded [file]] }
  match watchFault with
  | none => { o with manager := { o.manager with isWatching := true } }
  | some reason => { o with result := .error (.notWatched reason) }

/-- Starts with the configuration in the file.  If there is no file, one with the standard configuration is made.  The
outside decides whether the directory can be watched. -/
def start (m : ConfigManager) (watchFault : Option String) : ConfigOutcome :=
  match m.directory.create with
  | .error fault => m.failed [] (.notWritten m.directory.path fault)
  | .ok directory =>
    let m := { m with directory }
    if m.hasFile then
      match m.load with
      | .error e => m.failed [] e
      | .ok c => started fileName watchFault (m.publish fileName c)
    else
      match m.directory.save fileName .standard with
      | .error e => m.failed [] e
      | .ok directory =>
        started (fileName ++ " (created default)") watchFault ({ m with directory }.publish fileName .standard)

/-- Writes a valid configuration to the file and publishes it. -/
def save (m : ConfigManager) (c : Config) : ConfigOutcome :=
  match c.validate with
  | .error e => m.failed [] (.invalid e)
  | .ok _ =>
    match m.directory.save fileName c with
    | .error e => m.failed [] e
    | .ok directory => { m with directory }.publish fileName c

/-- Takes over a file that has changed.  Nobody waits for this operation, so that it ends well in any case. -/
def reload (m : ConfigManager) (file : String) : ConfigOutcome :=
  if m.isWatching && isWatched file then
    match m.directory.load file with
    | .error e => ⟨m, [.rejected file e], .ok ()⟩
    | .ok c => m.publish file c
  else ⟨m, [], .ok ()⟩

/-- What happens when somebody else writes a file. -/
def edit (m : ConfigManager) (file : String) (content : FileContent) : ConfigOutcome :=
  match m.directory.write file content with
  | .error fault => m.failed [] (.notWritten (m.directory.pathOf file) fault)
  | .ok directory => { m with directory }.reload file

end ConfigManager

end ChatModeration
