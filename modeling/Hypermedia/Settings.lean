import Hypermedia.Decimal.Numeral
import Hypermedia.Filter.Request
import Hypermedia.Text.Blank

/-!
# Settings

What a server is told about its routes: the path that they begin with, the credentials that callers
have to show, and the size of a page where none is asked for. Settings may come from environment
variables.
-/

namespace Hypermedia

def standardLimit : Nat := 25

structure Settings where
  /-- What the path of every resource begins with: empty, or with a leading slash and none at its end. -/
  basePath : String := ""
  /-- The client and the secret that a caller has to name. -/
  credentials : Option (String × String) := none
  defaultLimit : Nat := standardLimit

namespace Settings

/-- A path with one leading slash and none at its end; nothing but slashes is the empty path. -/
def normalizedPath (s : String) : String :=
  let inner := Text.trimOf '/' (Text.trim s)
  if inner.isEmpty then "" else "/" ++ inner

def withBasePath (s : Settings) (path : String) : Settings := { s with basePath := normalizedPath path }

def filled? (env : Filter.Texts) (name : String) : Option String :=
  (Filter.Texts.get? env name).filter fun s => !s.isEmpty

/-- The settings of an environment. Credentials count only when both are set. -/
def ofEnvironment (env : Filter.Texts) : Settings where
  basePath := normalizedPath ((Filter.Texts.get? env "SCHEMA_REST_PREFIX").getD "")
  credentials := do
    let client ← filled? env "SCHEMA_REST_CLIENT"
    let secret ← filled? env "SCHEMA_REST_SECRET"
    pure (client, secret)
  defaultLimit :=
    let limit := (Filter.Texts.get? env "SCHEMA_REST_DEFAULT_LIMIT").bind Decimal.uint64?
    (limit.filter (0 < ·)).getD standardLimit

def storeSchema (env : Filter.Texts) : String :=
  (Filter.Texts.get? env "SCHEMA_REST_STORE_SCHEMA").getD "schema_rest"

end Settings

end Hypermedia
