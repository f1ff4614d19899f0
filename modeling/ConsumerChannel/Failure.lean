import ConsumerChannel.Text.Quoted

/-!
What can go wrong. A channel failure carries a class, which decides whether trying again makes
sense, and the name of the operation that failed; the other kinds are causes from outside, refused
input, and values that do not fit their use.
-/
namespace ConsumerChannel

/-- How a failure of the service is to be handled. -/
inductive Category where
  /-- A mistake of the caller or of the settings; trying again does not help. -/
  | permanent
  /-- Trouble that may pass. -/
  | transient
  /-- The service no longer knows the consumer; the session has to be built again. -/
  | sessionLost
  deriving DecidableEq, Repr

namespace Category

/-- The text of a category. -/
def text : Category → String
  | permanent => "permanent"
  | transient => "transient"
  | sessionLost => "session_lost"

/-- The category with the given text. -/
def ofText? : String → Option Category
  | "permanent" => some permanent
  | "transient" => some transient
  | "session_lost" => some sessionLost
  | _ => none

/-- The name of a category in messages. -/
def name : Category → String
  | permanent => "PERMANENT"
  | transient => "TRANSIENT"
  | sessionLost => "SESSION_LOST"

end Category

/-- The class of a channel failure: the three categories and the general class above them. -/
inductive FailureClass where
  | general
  | permanent
  | transient
  | sessionLost
  deriving DecidableEq, Repr

namespace FailureClass

/-- The category of a class; the general class counts as transient. -/
def category : FailureClass → Category
  | general => .transient
  | permanent => .permanent
  | transient => .transient
  | sessionLost => .sessionLost

/-- The class that stands for a category. -/
def ofCategory : Category → FailureClass
  | .permanent => .permanent
  | .transient => .transient
  | .sessionLost => .sessionLost

/-- The name of a class. -/
def name : FailureClass → String
  | general => "ChannelError"
  | permanent => "PermanentError"
  | transient => "TransientError"
  | sessionLost => "SessionLostError"

/-- Whether trying again may help. -/
def retryable (c : FailureClass) : Bool :=
  c.category == .transient || c.category == .sessionLost

end FailureClass

/-- One step into a document: a field or an index. -/
inductive Place where
  | field (name : String)
  | index (n : Int)
  deriving DecidableEq, Repr

/-- What is wrong at a place of a document. -/
inductive Flaw where
  | invalidJson
  | missing
  | notObject
  | notList
  | notDictionary
  | notString
  | notUnicode
  | tooShort
  | fractional
  | integerTooLong
  | notFinite
  | notIntegerText
  | notInteger
  deriving DecidableEq, Repr

namespace Flaw

/-- The code of a flaw. -/
def code : Flaw → String
  | invalidJson => "json_invalid"
  | missing => "missing"
  | notObject => "model_type"
  | notList => "list_type"
  | notDictionary => "dict_type"
  | notString => "string_type"
  | notUnicode => "string_unicode"
  | tooShort => "string_too_short"
  | fractional => "int_from_float"
  | integerTooLong => "int_parsing_size"
  | notFinite => "finite_number"
  | notIntegerText => "int_parsing"
  | notInteger => "int_type"

end Flaw

/-- A flaw and where it is. -/
structure Issue where
  place : List Place
  flaw : Flaw
  deriving DecidableEq, Repr

/-- Why a value cannot be put to the use that is asked of it. -/
inductive Fault where
  /-- A value of the wrong sort. -/
  | wrongSort
  /-- A value of the right sort that means nothing here, with the reason if one is stated. -/
  | badValue (reason : Option String)
  /-- A value without the part that is asked for. -/
  | noSuchPart
  /-- A number that does not fit. -/
  | tooLarge
  /-- A position outside a sequence. -/
  | outOfRange
  /-- A key that a dictionary does not have. -/
  | noSuchKey
  /-- Bytes that are no text. -/
  | notText
  /-- A comparison with what is no number. -/
  | notComparable
  /-- A file that is not there. -/
  | noSuchFile (path : String)
  /-- A directory in place of a file. -/
  | isDirectory
  /-- A settings document that does not read. -/
  | malformedDocument
  /-- A value that holds itself, where every part of it is gone through. -/
  | endless
  /-- A value without a written form. -/
  | notWritable
  /-- A release of what is not held. -/
  | notHeld (reason : Option String)
  /-- A step that would wait for ever. -/
  | wouldBlock (reason : String)
  /-- A loop that was given up before its end. -/
  | unfinished
  deriving DecidableEq, Repr

/-- A failure of an operation. -/
inductive Failure where
  /-- A failure of the service or of the use of a channel. -/
  | channel (kind : FailureClass) (message : String) (api : Option String) (status : Option Int)
      (cause : Option Failure)
  /-- Waiting for a running channel to stop failed. -/
  | stop (message : String) (cause : Option Failure)
  /-- Refused input, with all its flaws. -/
  | invalid (issues : List Issue)
  /-- A failure from outside, with the name of its kind and its text. -/
  | foreign (name text : String)
  /-- A value that does not fit. -/
  | fault (f : Fault)
  deriving Repr, Inhabited

namespace Failure

/-- The name of the kind of a failure. -/
def name : Failure → String
  | channel kind .. => kind.name
  | stop .. => "StopError"
  | invalid _ => "ValidationError"
  | foreign name _ => name
  | fault _ => "Fault"

/-- The text of a failure: the operation in brackets, the message, and the text of the cause. -/
def text : Failure → String
  | channel _ message api _ cause =>
    let head := match api with
      | none => message
      | some "" => message
      | some name => "[" ++ name ++ "] " ++ message
    match cause with
    | none => head
    | some c => head ++ " | Caused by: " ++ c.text
  | stop message _ => message
  | invalid issues => toString issues.length ++ " validation errors"
  | foreign _ text => text
  | fault _ => ""

/-- A failure from outside that was given one argument or none. Its text is the argument, which a
failed look-up shows in quotes. -/
def ofArgument (name : String) : Option String → Failure
  | none => foreign name ""
  | some argument => foreign name (if name = "KeyError" then Text.quoted argument else argument)

/-- A permanent failure of an operation. -/
def permanent (message : String) (api : Option String) : Failure :=
  channel .permanent message api none none

/-- A transient failure of an operation. -/
def transient (message : String) (api : Option String) : Failure :=
  channel .transient message api none none

/-- The failure under the name of the operation that failed; only channel failures carry one. -/
def tag (api : String) : Failure → Failure
  | channel kind message _ status cause => channel kind message (some api) status cause
  | other => other

/-- The class of a channel failure. -/
def class? : Failure → Option FailureClass
  | channel kind .. => some kind
  | _ => none

end Failure

end ConsumerChannel
