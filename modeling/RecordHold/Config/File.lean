import RecordHold.Config.Basic
import RecordHold.Config.FileTree
/-!
# Config.File — configurations in files

Loading reads a file and then the configuration in it; saving makes the directories on the way, renders the
configuration and only then writes.  A failure is told as a chain of texts, the outermost first.
-/
namespace RecordHold
namespace Config

def loadChain (c : Except ConfigError Config) (path : String) : Except (List String) Config :=
  match c with
  | .ok c    => .ok c
  | .error e => .error ["Failed to load config file: " ++ path, e.message]

def load (t : FileTree) (path : String) : Except (List String) Config :=
  match (t.read? path).bind ofUtf8? with
  | none        => .error ["Failed to read config file: " ++ path]
  | some source => loadChain (read source) path

/-- Save a configuration; the directories made on the way stay when what follows fails. -/
def save (c : Config) (path : String) (t : FileTree) : Except (List String) Unit × FileTree :=
  let names := FileTree.names path
  let up := (FileTree.parent? names).getD [""]
  match t.makeDirectories (names.length + 1) up with
  | (false, t) => (.error ["Failed to create config directory: " ++ "/".intercalate up], t)
  | (true, t)  =>
    match c.render with
    | .error e   => (.error [e.message], t)
    | .ok source =>
      match t.write? path (utf8 source) with
      | some t => (.ok (), t)
      | none   => (.error ["Failed to write config file: " ++ path], t)

end Config
end RecordHold
