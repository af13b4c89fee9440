/-! # The command reference -/

namespace QueryTree.CommandLine

/-- All commands and options at a glance. Headers that are set in the environment or found in the
file are pointed out. -/
def reference (isSet isFound : Bool) : String :=
  "\n".intercalate [
    "blockql: explore GraphQL endpoints and compile selection trees",
    "",
    "COMMANDS:",
    "  blockql roots <URL>                 " ++
      "Root entry points (query, mutation) and fragment targets",
    "  blockql catalog <URL> <TYPE>        Selectable fields and fragments of a type",
    "  blockql serialize <FILE>            " ++
      "Compile a selection tree (JSON, - for stdin) to query text",
    "  blockql validate <URL> <FILE>       " ++
      "Report stale or misplaced nodes in a selection tree",
    "",
    "SELECTION TREE (JSON):",
    "  \x7b\"endpointUrl\": URL, \"name\": \"user\", \"parentTypeName\": \"Query\", " ++
      "\"isObject\": true,",
    "   \"arguments\": [\x7b\"name\": \"id\", \"typeString\": \"ID!\", \"value\": \"42\"\x7d],",
    "   \"children\": [\x7b\"endpointUrl\": URL, \"name\": \"name\", " ++
      "\"parentTypeName\": \"User\"\x7d, null]\x7d",
    "  Omit parentTypeName for an inline fragment; null children are empty slots.",
    "",
    "GLOBAL OPTIONS:",
    "  --headers <JSON>      Extra introspection headers, e.g. " ++
      "'\x7b\"authorization\": \"Bearer ...\"\x7d'",
    "  --timeout-secs <N>    Introspection timeout (default 30)",
    "  --format human|json   Force output format (auto-detected by default)",
    "",
    "HEADERS (in precedence order):",
    "  1. --headers flag",
    "  2. $BLOCKQL_HEADERS env var" ++ (if isSet then " (set)" else ""),
    "  3. ~/.blockql_headers.json file" ++ (if isFound then " (found)" else ""),
    "",
    "LOGGING:",
    "  RUST_LOG=info|debug   Diagnostics on stderr (default warn)",
    ""]

end QueryTree.CommandLine
