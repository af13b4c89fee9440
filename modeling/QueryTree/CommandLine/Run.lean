import QueryTree.CommandLine.Grid
import QueryTree.CommandLine.Reader
import QueryTree.CommandLine.Reference
import QueryTree.Registry.Chooser
import QueryTree.Request.Endpoint
import QueryTree.Request.Source
import QueryTree.Selection.Json
import QueryTree.Selection.Query

/-! # Running commands

A command reads what it needs from its surroundings and reports what it writes. The first thing that
goes wrong ends it. -/

namespace QueryTree.CommandLine

/-! ## Surroundings and reports -/

/-- All that a command may look at. -/
structure Surroundings where
  /-- the headers in the environment -/
  environment : Option String
  /-- the path of the headers file -/
  headersPath : String
  headersFile : FileContent
  file : String → FileContent
  input : FileContent
  /-- what an endpoint replies to a request, or none if nothing can be sent to it -/
  reply? : Request → Option Reply

structure Report where
  exitCode : Nat
  output : String
  errors : String
  /-- the request that was sent, if any -/
  request : Option Request

def Report.success (output : String) (request : Option Request) : Report := ⟨0, output, "", request⟩

def Report.failure (output message : String) (request : Option Request) : Report :=
  ⟨1, output, "Error: " ++ message ++ "\n", request⟩

def Stop.report : Stop → Report
  | .shown text => .success text none
  | .rejected text => ⟨2, "", text, none⟩

/-! ## What commands print -/

def listing (format : Format) (head : List String) (rows : List (List String)) (json : Json) : String :=
  match format with
  | .json => json.toLines ++ "\n"
  | .human => if rows.isEmpty then "No results.\n" else grid head rows ++ "\n"

/-- An argument with its type and default. -/
def argumentText (entry : ArgumentEntry) : String :=
  entry.name ++ ": " ++ entry.typeString ++
    (entry.literalDefault.map fun value => " = " ++ value.toJson.toText).getD ""

def yesNo (value : Bool) : String := if value then "true" else "false"

def entryHead : List String := ["kind", "name", "parent", "children", "arguments", "description"]

def entryRow : CatalogEntry → List String
  | .field entry =>
    [if entry.isDeprecated then "field (deprecated)" else "field", entry.name, entry.parentTypeName,
      yesNo entry.hasChildren, ", ".intercalate (entry.arguments.map argumentText),
      entry.description.getD ""]
  | .fragment name => ["fragment", "... on " ++ name, "", yesNo true, "", ""]

def entriesText (format : Format) (entries : List CatalogEntry) : String :=
  listing format entryHead (entries.map entryRow) (.array (entries.map CatalogEntry.toJson))

def issueHead : List String := ["path", "kind", "message"]

def issueRow (issue : TreeIssue) : List String :=
  let (kind, message) := match issue.kind with
    | .stale reference => ("stale", reference.message)
    | .incompatible parent => ("incompatible", "not a valid selection under \"" ++ parent ++ "\"")
  [" > ".intercalate issue.path, kind, message]

def issuesText (format : Format) (rows : List (List String)) : String :=
  listing format issueHead rows
    (.array (rows.map fun row => .object (issueHead.zip (row.map Json.text))))

/-! ## What commands need -/

def headersOf (surroundings : Surroundings) (given : Option String) : Except String Headers :=
  let found := match given with
    | some text => Headers.ofSetting text
    | none =>
      Headers.ofSurroundings surroundings.environment surroundings.headersPath surroundings.headersFile
  match found with
  | .ok headers => .ok headers
  | .error error => .error error.message

/-- The tree in a file, or in the input if the path is a dash. -/
def treeIn (surroundings : Surroundings) (path : String) : Except String Node :=
  let content := if path = "-" then surroundings.input else surroundings.file path
  match content with
  | .text text =>
    match Node.ofText? text with
    | .ok node => .ok node
    | .error _ => .error (path ++ " is not a valid selection tree")
  | _ => .error ("failed to read " ++ if path = "-" then "stdin" else path)

/-- The instance that stands for the command line. -/
def instanceName : String := "blockql-cli"

/-- A registry after the one fetch of a command, and the request of that fetch if it was sent. -/
structure Loaded where
  registry : Registry
  schema : Except String Schema
  request : Option Request

/-- Registers the command line on an endpoint and waits for the schema. -/
def introspect (surroundings : Surroundings) (headers : Headers) (url : String) : Loaded :=
  let start := Registry.new headers
  match Url.ofEndpoint url with
  | .error error => ⟨start, .error error.message, none⟩
  | .ok _ =>
    let (registered, fetch) := start.register instanceName url true
    match fetch with
    | none => ⟨registered, .error ("No schema available for " ++ url), none⟩
    | some fetch =>
      let reply := fetch.request.toOption.bind surroundings.reply?
      let request := if reply.isSome then fetch.request.toOption else none
      let (ended, outcome) := registered.complete fetch (reply.getD .dropped)
      match outcome with
      | .ok schema => ⟨ended, .ok schema, request⟩
      | .error error => ⟨ended, .error error.message, request⟩

/-! ## Commands -/

def runRoots (loaded : Loaded) (format : Format) : Report :=
  match loaded.schema with
  | .error message => .failure "" message loaded.request
  | .ok _ =>
    .success (entriesText format (loaded.registry.rootsOfInstance instanceName)) loaded.request

def runCatalog (loaded : Loaded) (format : Format) (url typeName : String) : Report :=
  match loaded.schema with
  | .error message => .failure "" message loaded.request
  | .ok schema =>
    if schema.hasType typeName then
      .success (entriesText format (loaded.registry.catalog url typeName)) loaded.request
    else .failure "" ("Unknown type '" ++ typeName ++ "' on " ++ url) loaded.request

def runSerialize (surroundings : Surroundings) (format : Format) (file : String) : Report :=
  match treeIn surroundings file with
  | .error message => .failure "" message none
  | .ok node =>
    match format with
    | .human => .success (node.query ++ "\n") none
    | .json => .success ((Json.object [("query", .text node.query)]).toLines ++ "\n") none

/-- The rows for all that is wrong with a tree, first with its root under the query of the endpoint. -/
def findings (registry : Registry) (url : String) (tree : Node) : List (List String) :=
  (if registry.canAttach tree (.query instanceName) then []
    else [[tree.label, "incompatible", "not a root entry point of " ++ url]]) ++
    (registry.validate tree).map issueRow

def runValidate (loaded : Loaded) (format : Format) (url : String) (tree : Node) : Report :=
  match loaded.schema with
  | .error message => .failure "" message loaded.request
  | .ok _ =>
    match findings loaded.registry url tree, format with
    | [], .human => .success "OK\n" loaded.request
    | [], .json => .success "[]\n" loaded.request
    | rows, _ =>
      .failure (issuesText format rows) (toString rows.length ++ " issue(s) found") loaded.request

/-- Goes on with the headers for a request. -/
def withHeaders (surroundings : Surroundings) (given : Option String) (use : Headers → Report) :
    Report :=
  match headersOf surroundings given with
  | .error message => .failure "" message none
  | .ok headers => use headers

/-- Checks the tree in a file, provided that it is meant for the endpoint. -/
def validateFile (surroundings : Surroundings) (headers : Headers) (format : Format)
    (url file : String) : Report :=
  match treeIn surroundings file with
  | .error message => .failure "" message none
  | .ok tree =>
    if tree.endpointUrl = url then
      runValidate (introspect surroundings headers url) format url tree
    else .failure "" ("Selection tree targets " ++ tree.endpointUrl ++ ", not " ++ url) none

def runUsage (surroundings : Surroundings) : Report :=
  let isFound := match surroundings.headersFile with
    | .absent => false
    | _ => true
  .success (reference surroundings.environment.isSome isFound) none

/-- Runs a command in its surroundings. Headers are looked at only if a request may be sent. -/
def Invocation.run (invocation : Invocation) (surroundings : Surroundings) : Report :=
  let format := invocation.format
  match invocation.command with
  | .usage => runUsage surroundings
  | .serialize file => runSerialize surroundings format file
  | .roots url =>
    withHeaders surroundings invocation.headers fun headers =>
      runRoots (introspect surroundings headers url) format
  | .catalog url typeName =>
    withHeaders surroundings invocation.headers fun headers =>
      runCatalog (introspect surroundings headers url) format url typeName
  | .validate url file =>
    withHeaders surroundings invocation.headers fun headers =>
      validateFile surroundings headers format url file

/-- Runs what the arguments ask for. -/
def runArguments (arguments : List String) (surroundings : Surroundings) : Report :=
  match Invocation.ofArguments arguments with
  | .ok invocation => invocation.run surroundings
  | .error stop => stop.report

/-- The file that the arguments ask to read a tree from. -/
def treeFile? (arguments : List String) : Option String :=
  match Invocation.ofArguments arguments with
  | .error _ => none
  | .ok invocation =>
    match invocation.command with
    | .serialize file => some file
    | .validate _ file => some file
    | _ => none

end QueryTree.CommandLine
