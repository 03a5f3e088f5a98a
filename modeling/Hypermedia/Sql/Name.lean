/-!
# Names of tables

An identifier stands in double quotes, and a quote inside it is written twice. A qualified name joins
two identifiers by a dot.
-/

namespace Hypermedia.Sql

def doubled : List Char → List Char
  | [] => []
  | c :: cs => if c = '"' then '"' :: '"' :: doubled cs else c :: doubled cs

def quoted (s : String) : String := "\"" ++ String.ofList (doubled s.toList) ++ "\""

def qualified (schema table : String) : String := quoted schema ++ "." ++ quoted table

/-- The statement that makes a table of documents where there is none. -/
def createTable (table : String) : String :=
  "\n        CREATE TABLE IF NOT EXISTS " ++ table ++ " (\n" ++
    "            collection TEXT NOT NULL,\n" ++
    "            id TEXT NOT NULL,\n" ++
    "            doc JSONB NOT NULL,\n" ++
    "            seq BIGSERIAL,\n" ++
    "            PRIMARY KEY (collection, id)\n" ++
    "        )\n        "

end Hypermedia.Sql
