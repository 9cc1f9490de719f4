import HttpBlueprint.Url.Error
/-!
# Errors

Every failure of the engine is one `Error`, whose `message` is the text users see.
An encoding failure (`EncodeError`) has a message of its own and may keep the text
of the failure that caused it. `Error.intoEncode` turns any failure into an
encoding failure whose message and cause are the failure's text, and leaves an
encoding failure as it is.
-/

namespace HttpBlueprint

/-- A failure to encode: a message and, optionally, the text of its cause. -/
structure EncodeError where
  message : String
  cause : Option String := none
  deriving Repr, DecidableEq, Inhabited

/-- Why a value has no form body. -/
inductive FormError where
  /-- Only maps and records can be written at the top level. -/
  | topLevel
  /-- A top-level list item is not a name and value pair. -/
  | unsupportedPair
  /-- A field value is a list inside a list, a map or a record. -/
  | unsupportedValue
  deriving Repr, DecidableEq, Inhabited

/-- The message of a form failure. -/
def FormError.message : FormError → String
  | .topLevel => "top-level serializer supports only maps and structs"
  | .unsupportedPair => "unsupported pair"
  | .unsupportedValue => "unsupported value"

/-- A failure of the engine. -/
inductive Error where
  /-- A collaborator of the engine was not provided. -/
  | construction (collaborator : String)
  | invalidArgument (message : String)
  | encode (e : EncodeError)
  | missingVariable (name : String)
  | invalidUrl (e : Url.ParseError)
  | invalidHeader (message : String)
  | jsonSerialization (message : String)
  | formSerialization (e : FormError)
  deriving Repr, DecidableEq, Inhabited

namespace Error

/-- An encoding failure with no cause. -/
def encodeMsg (message : String) : Error := .encode { message }

/-- The text of a failure. -/
def message : Error → String
  | .construction c => "missing collaborator: " ++ c
  | .invalidArgument m => "invalid argument: " ++ m
  | .encode e => "encoding error: " ++ e.message
  | .missingVariable n => "missing variable '" ++ n ++ "' in template"
  | .invalidUrl e => "invalid URL: " ++ e.message
  | .invalidHeader m => "invalid header: " ++ m
  | .jsonSerialization m => "JSON serialization error: " ++ m
  | .formSerialization e => "form serialization error: " ++ e.message

/-- The failure as an encoding failure caused by it. -/
def intoEncode : Error → Error
  | .encode e => .encode e
  | other => .encode { message := other.message, cause := some other.message }

/-- Whether a failure is an encoding failure. -/
def isEncode : Error → Bool
  | .encode _ => true
  | _ => false

/-- Whether a failure is an invalid argument. -/
def isInvalidArgument : Error → Bool
  | .invalidArgument _ => true
  | _ => false

end Error

end HttpBlueprint
