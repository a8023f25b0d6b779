import EntityMapper.Dialect
import EntityMapper.Error

/-!
# Database URLs

The scheme of a URL, in lower case, names the dialect of the database it leads to.
-/

namespace EntityMapper.Dialect

def schemes : List (String × Dialect) :=
  [("sqlite", .sqlite), ("postgres", .postgresql), ("postgresql", .postgresql)]

def ofUrl (url : String) : Except DataError Dialect :=
  match schemes.find? fun entry => (entry.1 ++ ":").toList.isPrefixOf url.toList with
  | some (_, d) => .ok d
  | none => .error (.unsupportedUrl url)

end EntityMapper.Dialect
