import Rapport.Removal
import Rapport.Failure
import Rapport.Text.Lower

set_option autoImplicit false

/-! # Names in statements

A statement writes the name of a table between quotes, unless the name looks like a plain word:
small letters, digits and signs that make up no word of the language, as far as these words are
known here. A line feed at the end of a word goes unnoticed, and is lost in the statement: the table
is then the one of the name without it. Where a table is looked for, its name is always quoted.

The language has words that are not known here, and a line feed makes every word pass. `Standing`
tells how far a statement gets with such a name. -/

namespace Rapport.Sql.Identifier

/-! ## Plain words -/

/-- The words of the language that are known here. -/
def knownWords : List String :=
  ["add", "after", "all", "alter", "analyze", "and", "as", "asc", "attach", "autoincrement",
    "before", "begin", "between", "by", "cascade", "case", "cast", "check", "collate", "column",
    "commit", "conflict", "constraint", "create", "cross", "current_date", "current_time",
    "current_timestamp", "database", "default", "deferrable", "deferred", "delete", "desc",
    "detach", "distinct", "drop", "each", "else", "end", "escape", "except", "exclusive",
    "exists", "explain", "false", "fail", "for", "foreign", "from", "full", "glob", "group",
    "having", "if", "ignore", "immediate", "in", "index", "indexed", "initially", "inner",
    "insert", "instead", "intersect", "into", "is", "isnull", "join", "key", "left", "like",
    "limit", "match", "natural", "not", "notnull", "null", "of", "offset", "on", "or", "order",
    "outer", "plan", "pragma", "primary", "query", "raise", "references", "reindex", "rename",
    "replace", "restrict", "right", "rollback", "row", "select", "set", "table", "temp",
    "temporary", "then", "to", "transaction", "trigger", "true", "union", "unique", "update",
    "using", "vacuum", "values", "view", "virtual", "when", "where"]

/-- A character of plain words. Two small letters beyond plain English pass for an `i` and an
    `s`. -/
def isPlainLetter (c : Char) : Bool :=
  ('a' ≤ c && c ≤ 'z') || ('0' ≤ c && c ≤ '9') || c == '_' || c == '$' || c == 'ı' || c == 'ſ'

/-- A name without a line feed at its end. -/
def dropLineFeed (cs : List Char) : List Char :=
  if cs.getLast? = some '\n' then cs.dropLast else cs

/-- Whether a name is written without quotes. -/
def isPlain (name : String) : Bool :=
  let word := dropLineFeed name.toList
  !knownWords.contains name && !word.isEmpty && word.all isPlainLetter
    && !(word.head?.any fun c => c.isDigit || c == '$')

/-- The name of the table that a statement is about when it writes a name. -/
def denoted (name : String) : String :=
  if isPlain name then String.ofList (dropLineFeed name.toList) else name

/-! ## Words of the language -/

/-- How far a statement gets with a name that it writes without quotes. -/
inductive Standing
  /-- The name is a name. -/
  | free
  /-- It cannot stand for a table. -/
  | refused
  /-- It can stand for a table, but not in front of the name of a column. -/
  | bare
  /-- It can stand in front of the name of a column, but not behind a bracket. -/
  | unbracketed
deriving DecidableEq, Repr

/-- The words that cannot stand for a table. -/
def refusedWords : List String :=
  ["add", "all", "alter", "and", "as", "autoincrement", "between", "case", "check", "collate",
    "commit", "constraint", "create", "default", "deferrable", "delete", "distinct", "drop",
    "else", "escape", "except", "exists", "foreign", "from", "group", "having", "if", "in",
    "index", "insert", "intersect", "into", "is", "isnull", "join", "limit", "not", "nothing",
    "notnull", "null", "on", "or", "order", "primary", "references", "returning", "select", "set",
    "table", "then", "to", "transaction", "union", "unique", "update", "using", "values", "when",
    "where"]

/-- The words that begin an expression of their own. -/
def bareWords : List String :=
  ["cast", "current_date", "current_time", "current_timestamp", "raise"]

/-- The standing of a name in statements. -/
def standing (name : String) : Standing :=
  if !isPlain name then .free
  else if refusedWords.contains (denoted name) then .refused
  else if bareWords.contains (denoted name) then .bare
  else if denoted name = "with" then .unbracketed
  else .free

/-- Whether a name can be used in the statements of a task. Those that only compare columns one by
    one open no bracket in front of it. -/
def Standing.allows : Standing → Task → Bool
  | .free, _ => true
  | .refused, _ | .bare, _ => false
  | .unbracketed, .read | .unbracketed, .remove .everything | .unbracketed, .remove (.stale _) =>
    true
  | .unbracketed, _ => false

/-! ## Limits -/

/-- The longest name of an index or a key, in characters. -/
def longestName : Nat := 9999

/-- Whether an index or a key can have a name. -/
def isShortEnough (name : String) : Bool := decide (name.length ≤ longestName)

/-! ## Tables that are always there -/

/-- Names that differ only in the case of `A` to `Z` are one. -/
def fold (name : String) : String := Text.lowerASCII name

/-- The settings of the database that can be looked at as tables. -/
def settingTables : List String :=
  ["analysis_limit", "application_id", "auto_vacuum", "automatic_index", "busy_timeout",
    "cache_size", "cache_spill", "cell_size_check", "checkpoint_fullfsync", "collation_list",
    "compile_options", "count_changes", "data_version", "database_list", "default_cache_size",
    "defer_foreign_keys", "empty_result_callbacks", "encoding", "foreign_key_check",
    "foreign_key_list", "foreign_keys", "freelist_count", "full_column_names", "fullfsync",
    "function_list", "hard_heap_limit", "ignore_check_constraints", "index_info", "index_list",
    "index_xinfo", "integrity_check", "journal_mode", "journal_size_limit", "legacy_alter_table",
    "locking_mode", "max_page_count", "module_list", "optimize", "page_count", "page_size",
    "pragma_list", "query_only", "quick_check", "read_uncommitted", "recursive_triggers",
    "reverse_unordered_selects", "schema_version", "secure_delete", "short_column_names",
    "soft_heap_limit", "synchronous", "table_info", "table_list", "table_xinfo", "temp_store",
    "threads", "trusted_schema", "user_version", "writable_schema"]

/-- Whether a database has a table of its own under a name. It is no edge table. -/
def isBuiltIn (name : String) : Bool :=
  ["json_each", "json_tree", "fts3tokenize", "sqlite_master", "sqlite_schema",
    "sqlite_temp_master", "sqlite_temp_schema"].contains (fold name)
    || settingTables.any fun setting => fold name = "pragma_" ++ setting

/-- Whether a name cannot even be looked for. -/
def isUnaskable (name : String) : Bool := name.toList.contains '\x00' || fold name = "fts4aux"

/-- Whether the database keeps a name for itself. -/
def isReserved (name : String) : Bool := "sqlite_".toList.isPrefixOf (fold name).toList

/-- The name under which a row is seen a second time while it is judged stale. -/
def secondName : String := "combined_edge"

/-- Whether the table of a name has the very name under which its rows are seen a second time. -/
def isShadowed (name : String) : Bool := fold (denoted name) = secondName

end Rapport.Sql.Identifier
