/-!
# Errors

Every operation that can fail returns a `GraphError`.  Its code tells the class of the
failure apart without looking at the wording, which `GraphError.message` holds in one place.
-/

namespace PropertyGraph

/-- The class of a failure. -/
inductive ErrorCode
  | missingLabel
  | multipleEdgeLabels
  | missingEndpoint
  | invalidRelation
  | kindMismatch
  | notAStruct
  | unknownProperty
  | unknownField
  | decodeFailed
  | duplicateProperty
  | connectionFailed
  | operationFailed
  | unexpectedResult
  | timeout
  | unsupported
  | invalidConfiguration
  | internal
  deriving DecidableEq, Repr

/-- The text of a code: its area and a number. -/
def ErrorCode.text : ErrorCode → String
  | .missingLabel => "VAL_001"
  | .multipleEdgeLabels => "VAL_002"
  | .missingEndpoint => "VAL_003"
  | .invalidRelation => "VAL_004"
  | .kindMismatch => "VAL_005"
  | .notAStruct => "MAP_001"
  | .unknownProperty => "MAP_002"
  | .unknownField => "MAP_003"
  | .decodeFailed => "MAP_004"
  | .duplicateProperty => "MAP_005"
  | .connectionFailed => "CONN_001"
  | .operationFailed => "CONN_002"
  | .unexpectedResult => "CONN_003"
  | .timeout => "CONN_004"
  | .unsupported => "CONN_005"
  | .invalidConfiguration => "CFG_001"
  | .internal => "INT_001"

/-- What went wrong. -/
inductive GraphError
  /-- A request was refused before anything was asked of a database. -/
  | validation (code : ErrorCode) (reason : String)
  /-- A value that is not a struct was given to the mapper. -/
  | notAStruct (typeName : String)
  /-- A property has no counterpart among the fields. -/
  | unknownProperty (key : String)
  /-- A tag names a field that the struct does not declare. -/
  | unknownField (typeName field tag : String)
  /-- Two fields share a property key. -/
  | duplicateProperty (typeName key first second : String)
  /-- Property values do not fit the fields. -/
  | decode (typeName reason : String)
  /-- The database, or the way to it, failed; `cause` is what it said. -/
  | connection (code : ErrorCode) (reason : String) (cause : Option String)
  /-- The configuration is unusable. -/
  | configuration (reason : String)
  /-- No connector is known for a graph type. -/
  | unsupportedProvider (provider : String)
  /-- A file could not be read. -/
  | io (reason : String)
  /-- Stored text could not be read back, or a value not written. -/
  | serialization (reason : String)
  /-- An assumption of the library itself failed. -/
  | internal (reason : String)
  deriving DecidableEq, Repr

namespace GraphError

/-- A response of a database that does not have the expected shape. -/
def unexpectedResult (reason : String) : GraphError := .connection .unexpectedResult reason none

/-- An operation that the database does not support. -/
def unsupported (reason : String) : GraphError := .connection .unsupported reason none

/-- A call that took too long. -/
def timeout (reason : String) : GraphError := .connection .timeout reason none

/-- The wording of an error. -/
def message : GraphError → String
  | .validation _ reason => "Validation error: " ++ reason
  | .notAStruct typeName => "Mapping error: " ++ typeName ++ " is not a struct"
  | .unknownProperty key => "Mapping error: unknown field " ++ key
  | .unknownField typeName field tag =>
    "Mapping error: tag " ++ tag ++ " refers to unknown field " ++ field ++ " on " ++ typeName
  | .duplicateProperty typeName key first second =>
    "Mapping error: fields " ++ first ++ " and " ++ second ++ " of " ++ typeName ++
      " both map to property " ++ key
  | .decode typeName reason => "Mapping error: failed to decode " ++ typeName ++ ": " ++ reason
  | .connection _ reason _ => "Connection error: " ++ reason
  | .configuration reason => "Configuration error: " ++ reason
  | .unsupportedProvider provider => "Provider not supported: " ++ provider
  | .io reason => "IO error: " ++ reason
  | .serialization reason => "Serialization error: " ++ reason
  | .internal reason => "Internal error: " ++ reason

/-- The class of an error. -/
def code : GraphError → ErrorCode
  | .validation code _ => code
  | .notAStruct _ => .notAStruct
  | .unknownProperty _ => .unknownProperty
  | .unknownField .. => .unknownField
  | .duplicateProperty .. => .duplicateProperty
  | .decode .. => .decodeFailed
  | .connection code _ _ => code
  | .configuration _ => .invalidConfiguration
  | .unsupportedProvider _ => .invalidConfiguration
  | .io _ => .internal
  | .serialization _ => .internal
  | .internal _ => .internal

/-- What lies beneath an error, where that is known. -/
def cause? : GraphError → Option String
  | .decode _ reason => some reason
  | .connection _ _ cause => cause
  | .io reason => some reason
  | .serialization reason => some reason
  | _ => none

/-- Whether the error was raised before any call to a database. -/
def isValidation : GraphError → Bool
  | .validation .. => true
  | _ => false

/-- Whether the error came from mapping records. -/
def isMapping : GraphError → Bool
  | .notAStruct _ | .unknownProperty _ | .unknownField .. | .decode .. => true
  | .duplicateProperty .. => true
  | _ => false

end GraphError
end PropertyGraph
