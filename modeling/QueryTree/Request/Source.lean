import QueryTree.Request.Headers

/-! # Where headers come from

Headers given in the environment win, even blank ones. Otherwise they stand in a file of the home
directory, if there is one. -/

namespace QueryTree

namespace Headers

def environmentVariable : String := "BLOCKQL_HEADERS"

def fileName : String := ".blockql_headers.json"

end Headers

/-- What reading a file gives. -/
inductive FileContent where
  | absent
  | text (content : String)
  | directory
  /-- the bytes spell no text -/
  | notText

inductive FileError where
  | directory
  | notText
  | absent

def FileError.message : FileError → String
  | .directory => "Is a directory (os error 21)"
  | .notText => "stream did not contain valid UTF-8"
  | .absent => "No such file or directory (os error 2)"

inductive ConfigError where
  | headers (error : HeaderError)
  | file (path : String) (error : FileError)

def ConfigError.message : ConfigError → String
  | .headers error => error.message
  | .file path error => "Could not read " ++ path ++ ": " ++ error.message

namespace Headers

def ofSetting (text : String) : Except ConfigError Headers :=
  match ofText text with
  | .ok headers => .ok headers
  | .error error => .error (.headers error)

/-- The headers of the file with the path. -/
def ofFile (path : String) : FileContent → Except ConfigError Headers
  | .absent => .ok .empty
  | .text content => ofSetting content
  | .directory => .error (.file path .directory)
  | .notText => .error (.file path .notText)

/-- The headers of the environment, or else those of the file. -/
def ofSurroundings (environment : Option String) (path : String) (file : FileContent) :
    Except ConfigError Headers :=
  match environment with
  | some text => ofSetting text
  | none => ofFile path file

end Headers

/-- What every request of a client shares. -/
structure Settings where
  headers : Headers
  timeoutSeconds : Nat

namespace Settings

def defaultTimeoutSeconds : Nat := 30

def ofHeaders (headers : Headers) : Settings := ⟨headers, defaultTimeoutSeconds⟩

end Settings

end QueryTree
