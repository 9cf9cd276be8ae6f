/-
# Failures

Everything that can go wrong is a cause, with the data its message needs.  A failure has a kind,
which the log names, and a message.  The failures of the formatter itself form a family of their
own: they are the ones a user can act on, and a batch collects them together with the failures of
the operating system and of text that is not UTF-8.  All others end the request that meets them.
-/

import FormatLauncher.Calendar
import FormatLauncher.Seconds
import FormatLauncher.Text.Blank
import FormatLauncher.Text.Quoted
import FormatLauncher.Value.Show

namespace FormatLauncher

/-- What the operating system refuses. -/
inductive SystemError
  /-- Nothing is known. -/
  | unexplained
  /-- Only a text is known. -/
  | stated (text : String)
  /-- A code with its text, and the file it is about, if there is one. -/
  | coded (code : Int) (text : String) (file : Option String)
  deriving DecidableEq, Repr

namespace SystemError

/-- The refusal in words. -/
def message : SystemError → String
  | .unexplained => ""
  | .stated text => text
  | .coded code text file =>
    "[Errno " ++ toString code ++ "] " ++ text
      ++ (match file with
        | none => ""
        | some file => ": " ++ Text.quoted file)

/-- The codes that have a kind of their own. -/
def kinds : List (Int × String) := [
  (1, "PermissionError"), (2, "FileNotFoundError"), (3, "ProcessLookupError"),
  (4, "InterruptedError"), (10, "ChildProcessError"), (11, "BlockingIOError"),
  (13, "PermissionError"), (17, "FileExistsError"), (20, "NotADirectoryError"),
  (21, "IsADirectoryError"), (32, "BrokenPipeError"), (103, "ConnectionAbortedError"),
  (104, "ConnectionResetError"), (108, "BrokenPipeError"), (110, "TimeoutError"),
  (111, "ConnectionRefusedError"), (114, "BlockingIOError"), (115, "BlockingIOError")]

/-- The kind of the refusal. -/
def kindName : SystemError → String
  | .coded code _ _ => (kinds.lookup code).getD "OSError"
  | _ => "OSError"

/-- There is no such file. -/
def missing (file : String) : SystemError := .coded 2 "No such file or directory" (some file)

/-- The current directory was removed, so it has no name. -/
def noCurrentDirectory : SystemError := .coded 2 "No such file or directory" none

/-- The arguments for running the file are too long. -/
def argumentsTooLong (file : String) : SystemError :=
  .coded 7 "Argument list too long" (some file)

/-- The file is a directory. -/
def isDirectory (file : String) : SystemError := .coded 21 "Is a directory" (some file)

/-- Something on the way to the file is not a directory. -/
def notDirectory (file : String) : SystemError := .coded 20 "Not a directory" (some file)

/-- The file may not be run, read or written. -/
def permissionDenied (file : String) : SystemError := .coded 13 "Permission denied" (some file)

/-- The file can be run but holds no program. -/
def notProgram (file : String) : SystemError := .coded 8 "Exec format error" (some file)

/-- Too many links on the way to the file. -/
def tooManyLinks (file : String) : SystemError :=
  .coded 40 "Too many levels of symbolic links" (some file)

/-- A name on the way to the file is too long. -/
def nameTooLong (file : String) : SystemError := .coded 36 "File name too long" (some file)

end SystemError

/-- What is wrong with a configuration file's text or with one of its values. -/
inductive DocumentFault
  /-- The text is no document of the format, or a value has a tag that nothing reads. -/
  | malformed
  /-- The text ends inside a quoted text. -/
  | unclosed
  /-- The bytes of the text are not UTF-8. -/
  | undecodable (error : Text.Utf8.Error)
  /-- A day or a time that does not exist. -/
  | calendar (fault : CalendarFault)
  /-- A text tagged as an integer is none in the base that its first characters ask for. -/
  | notInteger (base : Nat) (text : String)
  /-- A text tagged as a floating point number is none. -/
  | notNumber (text : String)
  /-- A text tagged as a number is empty. -/
  | emptyNumber
  /-- A text tagged as a truth value is none of the known words. -/
  | notTruth (word : String)
  /-- A text tagged as a time has not the form of one. -/
  | notTime
  /-- A mapping is tagged as a time. -/
  | mappingAsTime
  /-- A number of digits that is too many for an integer in decimal. -/
  | tooManyDigits (count : Nat)
  /-- A weight in base sixty is beyond the largest floating point number. -/
  | weightTooLarge
  /-- A mapping stands for a text that is the mapping itself. -/
  | endless
  /-- An escape names a code point past the last one. -/
  | codePoint (code : Nat)
  deriving DecidableEq, Repr

/-- The violated range in words. -/
def CalendarFault.message : CalendarFault → String
  | .year n => "year " ++ toString n ++ " is out of range"
  | .month => "month must be in 1..12"
  | .day => "day is out of range for month"
  | .hour => "hour must be in 0..23"
  | .minute => "minute must be in 0..59"
  | .second => "second must be in 0..59"
  | .offset seconds =>
    "offset must be a timedelta strictly between -timedelta(hours=24) and timedelta(hours=24), not "
      ++ Value.spanLiteral (seconds * 1000000) ++ "."

/-- Why a request cannot be made from the configuration. -/
inductive ConfigurationProblem
  /-- Placeholders remain, and the configuration forbids that. -/
  | unresolved (tokens : List String)
  | noPaths
  | noWorkspace
  /-- Any other problem, in words. -/
  | stated (text : String)
  deriving DecidableEq, Repr

/-- The problem in words. -/
def ConfigurationProblem.message : ConfigurationProblem → String
  | .unresolved tokens => "Unresolved variables: " ++ ", ".intercalate tokens
  | .noPaths => "No paths given to format"
  | .noWorkspace => "No workspace folder to format"
  | .stated text => text

/-- Everything that can go wrong. -/
inductive Failure
  /-- The formatter cannot be located or cannot run. -/
  | notInstalled (command hint : String)
  /-- The formatter ran and exited with another code than zero. -/
  | executionFailed (command : String) (code : Int) (errors : String)
  /-- The operating system did not start the formatter. -/
  | notStarted (command : String) (cause : SystemError)
  /-- The formatter was ended on request. -/
  | cancelled (command : String)
  /-- The formatter was ended because its time was over. -/
  | timedOut (command : String) (limit : Seconds)
  /-- The formatter was ended because its time was over; the limit is known by its text only. -/
  | timedOutAfter (command limit : String)
  /-- The formatter succeeded with output that is not UTF-8. -/
  | invalidOutput (command : String) (defect : Text.Utf8.Defect)
  /-- The configuration cannot be used as given. -/
  | configuration (problem : ConfigurationProblem)
  /-- Another failure of the formatter, in words. -/
  | otherFormatting (text : String)
  /-- The operating system refused to read or write. -/
  | system (cause : SystemError)
  /-- No configuration file where one is looked for. -/
  | noConfigFile (tried : List String)
  /-- A text is not UTF-8. -/
  | undecodable (error : Text.Utf8.Error)
  /-- The home directory that a path asks for is not known. -/
  | homeUnknown
  /-- A chain of links returns to itself. -/
  | linkLoop (place : String)
  /-- A text handed to the operating system holds a NUL. -/
  | embeddedNul
  /-- An integer is beyond the largest floating point number. -/
  | numberTooLarge
  /-- An integer has more digits than can be written. -/
  | numberTooLong
  /-- Keys of a mapping cannot be sorted. -/
  | incomparableKeys
  /-- A value is of a kind that cannot be used in its place. -/
  | wrongKind
  /-- A configuration file cannot be read as a mapping. -/
  | document (file : String) (fault : DocumentFault)
  /-- A configuration file holds something else than a mapping. -/
  | notMapping (file : String)
  /-- A command line without a command. -/
  | noCommand
  /-- Whoever waited for the run was cancelled. -/
  | waiterCancelled
  /-- A run that nothing ends. -/
  | unending
  /-- Console markup closes a tag that is not open; the tag, and where it stands. -/
  | unmatchedTag (tag : String) (position : Nat)
  /-- Console markup that cannot be read for another reason, in words. -/
  | badMarkup (text : String)
  /-- A value is not acceptable, in words. -/
  | badValue (text : String)
  deriving DecidableEq, Repr

namespace Failure

/-- The failure is one of the formatter's own. -/
def isFormatting : Failure → Bool
  | .notInstalled _ _ | .executionFailed _ _ _ | .notStarted _ _ | .cancelled _ | .timedOut _ _
  | .timedOutAfter _ _ | .invalidOutput _ _ | .configuration _ | .otherFormatting _ => true
  | _ => false

/-- A batch records the failure and goes on. -/
def isCollected : Failure → Bool
  | .system _ | .noConfigFile _ | .undecodable _ => true
  | failure => failure.isFormatting

/-- A character code that does not even fit a signed word of 32 bits is a fault of its own. -/
def codeLimit : Nat := 0x80000000

/-- The kind of a fault in a document. -/
def documentKindName : DocumentFault → String
  | .malformed | .unclosed => "YAMLError"
  | .undecodable _ => "UnicodeDecodeError"
  | .calendar _ | .notInteger _ _ | .notNumber _ | .tooManyDigits _ => "ValueError"
  | .emptyNumber => "IndexError"
  | .notTruth _ => "KeyError"
  | .notTime => "AttributeError"
  | .mappingAsTime => "TypeError"
  | .weightTooLarge => "OverflowError"
  | .endless => "RecursionError"
  | .codePoint code => if code < codeLimit then "ValueError" else "OverflowError"

/-- The kind of the failure, as the log names it. -/
def kindName : Failure → String
  | .notInstalled _ _ => "NotInstalled"
  | .executionFailed _ _ _ => "ExecutionFailed"
  | .notStarted _ _ => "SpawnError"
  | .cancelled _ => "Cancelled"
  | .timedOut _ _ | .timedOutAfter _ _ => "FormatterTimeout"
  | .invalidOutput _ _ => "InvalidOutput"
  | .configuration _ => "ConfigurationError"
  | .otherFormatting _ => "FormatterError"
  | .system cause => cause.kindName
  | .noConfigFile _ => "FileNotFoundError"
  | .undecodable _ => "UnicodeDecodeError"
  | .homeUnknown | .linkLoop _ => "RuntimeError"
  | .embeddedNul | .numberTooLong | .badValue _ => "ValueError"
  | .numberTooLarge => "OverflowError"
  | .incomparableKeys | .wrongKind => "TypeError"
  | .document _ fault => documentKindName fault
  | .notMapping _ => "YAMLError"
  | .noCommand => "IndexError"
  | .waiterCancelled => "CancelledError"
  | .unending => "Unending"
  | .unmatchedTag _ _ | .badMarkup _ => "MarkupError"

/-- The failure is a value that cannot be accepted. -/
def isBadValue (failure : Failure) : Bool :=
  ["ValueError", "ConfigurationError", "UnicodeDecodeError"].contains failure.kindName

/-- What is said of an integer with more digits than can be read or written. -/
def tooLongText (detail : String) : String :=
  "Exceeds the limit (" ++ toString Value.digitLimit ++ " digits) for integer string conversion"
    ++ detail ++ "; use sys.set_int_max_str_digits() to increase the limit"

/-- What is said of an integer that is beyond the largest floating point number. -/
def tooLargeText : String := "int too large to convert to float"

/-- The beginning of every message about a configuration file's text. -/
def fileMessage (file : String) : String := "Error parsing config file " ++ file ++ ": "

/-- What is said of a text that is no document; it does not say where the text goes wrong. -/
def malformedText : String := "not a readable document"

/-- How much of a refused integer's literal is shown. -/
def shownLength : Nat := 200

/-- The message of a fault in a document. -/
def documentMessage (file : String) : DocumentFault → String
  | .malformed | .unclosed => fileMessage file ++ malformedText
  | .undecodable error => error.message
  | .calendar fault => fault.message
  | .notInteger base text =>
    "invalid literal for int() with base " ++ toString base ++ ": "
      ++ String.ofList ((Text.quoted text).toList.take shownLength)
  | .notNumber text => "could not convert string to float: " ++ Text.quoted text
  | .emptyNumber => "string index out of range"
  | .notTruth word => Text.quoted word
  | .notTime => "'NoneType' object has no attribute 'groupdict'"
  | .mappingAsTime => ""
  | .tooManyDigits count => tooLongText (": value has " ++ toString count ++ " digits")
  | .weightTooLarge => tooLargeText
  | .endless => "maximum recursion depth exceeded"
  | .codePoint code =>
    if code < codeLimit then "chr() arg not in range(0x110000)"
    else "Python int too large to convert to C int"

/-- The failure in words. -/
def message : Failure → String
  | .notInstalled command hint => "\"" ++ command ++ "\" is not found. " ++ hint
  | .executionFailed _ code errors =>
    let detail := Text.trim errors
    if detail = "" then "exit code " ++ toString code else detail
  | .notStarted command cause => "Could not start \"" ++ command ++ "\": " ++ cause.message
  | .cancelled command => "Formatting with \"" ++ command ++ "\" was cancelled"
  | .timedOut command limit =>
    "\"" ++ command ++ "\" did not finish within " ++ limit.briefText ++ "s"
  | .timedOutAfter command limit => "\"" ++ command ++ "\" did not finish within " ++ limit ++ "s"
  | .invalidOutput command defect =>
    "\"" ++ command ++ "\" produced output that is not valid utf-8: " ++ defect.reason
  | .configuration problem => problem.message
  | .otherFormatting text => text
  | .system cause => cause.message
  | .noConfigFile tried =>
    "No config file found. Tried:\n" ++ String.join (tried.map fun file => "  - " ++ file ++ "\n")
      ++ "Use --config to specify a custom location."
  | .undecodable error => error.message
  | .homeUnknown => "Could not determine home directory."
  | .linkLoop place => "Symlink loop from " ++ Text.quoted place
  | .embeddedNul => "embedded null byte"
  | .numberTooLarge => tooLargeText
  | .numberTooLong => tooLongText ""
  | .incomparableKeys | .wrongKind => ""
  | .document file fault => documentMessage file fault
  | .notMapping file => fileMessage file ++ "top level must be a mapping"
  | .noCommand => "list index out of range"
  | .waiterCancelled => ""
  | .unending => "the run never ends"
  | .unmatchedTag tag position =>
    if tag = "[/]" then
      "closing tag '[/]' at position " ++ toString position ++ " has nothing to close"
    else
      "closing tag '" ++ tag ++ "' at position " ++ toString position
        ++ " doesn't match any open tag"
  | .badMarkup text | .badValue text => text

/-- The one message a user sees.  What the formatter itself printed is shown as it is; where the
failure says nothing about the user's input or settings, the message points to the log. -/
def describe (failure : Failure) : String :=
  match failure with
  | .executionFailed _ code errors =>
    let detail := Text.trim errors
    if detail = "" then "Error: sqlfmt exited with code " ++ toString code else detail
  | .notStarted _ _ | .cancelled _ | .timedOut _ _ | .timedOutAfter _ _ | .otherFormatting _ =>
    "Error: formatting failed. Run with --verbose and see the log for details."
  | other => "Error: " ++ other.message

/-- A run that was over its time, for a limit of any kind.  A number is shown with at most six
digits; a day or a time shows nothing but the letter of that format, and other kinds have no such
form. -/
def overTime (command : String) (limit : Value) : Except Failure Failure :=
  let ofSeconds (limit : Seconds) : Except Failure Failure :=
    if limit.toBinary?.isNone then .error .numberTooLarge else .ok (.timedOut command limit)
  match limit with
  | .bool b => ofSeconds (.flag b)
  | .int n => ofSeconds (.whole n)
  | .float x => ofSeconds (.real x)
  | .date _ | .time _ => .ok (.timedOutAfter command "g")
  | .text _ => .error (.badValue "Unknown format code 'g' for object of type 'str'")
  | _ => .error .wrongKind

end Failure

end FormatLauncher
