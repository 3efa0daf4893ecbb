import ConfigEditor.Text.Quoted
set_option autoImplicit false

/-!
# Faults: what can go wrong, and how it is told

Every failure of the library is a cause, kept as data.  `Refusal` is why a name, key
or value is not accepted, `LineFault` why a line of a file is bad, `FileFailure` which
access to a file failed, and `Fault` is any failure at all.  The wording lives in the
`message` functions and nowhere else; `Fault.code` gives each failure its number, and
`ErrorCode` gives the numbers their names.

Files, patterns and encodings are in the hands of others, and those tell in their own
words why they fail.  Such a failure keeps these words, and its message ends in them.
-/

namespace ConfigEditor

/-! ## Refused names, keys and values -/

/-- Why a section name, a key or a value is not accepted. -/
inductive Refusal where
  | sectionName (text : Text)
  | key (text : Text)
  /-- The value spans more than one line. -/
  | lineBreak (value : Text)
  /-- The value ends in an odd run of backslashes, which would join it to the next line. -/
  | danglingBackslash (value : Text)
  /-- Reading the written value would yield another one. -/
  | unstable (value : Text)
  /-- A reason stated by the caller. -/
  | stated (reason : Text)
  deriving DecidableEq, Repr, Inhabited

/-- The words for a refusal. -/
def Refusal.message : Refusal → Text
  | .sectionName text => "Invalid section name: ".toList ++ text.quoted
  | .key text => "Invalid key: ".toList ++ text.quoted
  | .lineBreak value => "Value must be a single line: ".toList ++ value.quoted
  | .danglingBackslash value =>
    "Value must not end in an unpaired backslash: ".toList ++ value.quoted
  | .unstable value => "Value would not read back unchanged: ".toList ++ value.quoted
  | .stated reason => reason

/-! ## Bad lines -/

/-- Why a line cannot be part of a document. -/
inductive LineFault where
  | unterminatedHeader
  /-- The text between the brackets of a header names no section. -/
  | header (refusal : Refusal)
  | missingKey
  | invalidKey (key : Text)
  /-- An option before the first header. -/
  | outsideSection
  /-- A reason stated by the caller. -/
  | stated (reason : Text)
  deriving DecidableEq, Repr, Inhabited

/-- The words for a bad line. -/
def LineFault.message : LineFault → Text
  | .unterminatedHeader => "Unterminated section header".toList
  | .header refusal => refusal.message
  | .missingKey => "Missing key".toList
  | .invalidKey key => "Invalid key ".toList ++ key.quoted
  | .outsideSection => "Option outside of any section".toList
  | .stated reason => reason

/-- A bad line: its number, its text and what is wrong with it. -/
structure Problem where
  line : Nat
  text : Text
  fault : LineFault
  deriving DecidableEq, Repr, Inhabited

/-- One line of a report on bad lines. -/
def Problem.message (p : Problem) : Text :=
  "  [line ".toList ++ Text.decimal p.line ++ "]: ".toList ++ p.fault.message ++
    ": ".toList ++ p.text.quoted

/-! ## Failed access to files -/

/-- Which access to which path failed, and the words in which the platform tells why. -/
inductive FileFailure where
  | stat (path cause : Text)
  | read (path cause : Text)
  | write (path cause : Text)
  /-- The finished temporary file could not take the place of the target. -/
  | replace (path cause : Text)
  deriving DecidableEq, Repr, Inhabited

namespace FileFailure

/-- What failed, without the reason. -/
def summary : FileFailure → Text
  | stat path _ => "Failed to stat ".toList ++ path
  | read path _ => "Failed to read file ".toList ++ path
  | write path _ => "Failed to write file ".toList ++ path
  | replace path _ => "Failed to atomically write ".toList ++ path

/-- Why it failed. -/
def cause : FileFailure → Text
  | stat _ cause => cause
  | read _ cause => cause
  | write _ cause => cause
  | replace _ cause => cause

end FileFailure

/-! ## All failures -/

/-- A failure of any operation. -/
inductive Fault where
  | fileAccess (failure : FileFailure)
  | configNotFound (path : Text)
  | badLines (problems : List Problem)
  | noSection (name : Text)
  | noOption (name key : Text)
  | refused (refusal : Refusal)
  /-- The engine for patterns cannot read this one. -/
  | invalidPattern (pattern cause : Text)
  | undecodable (encoding cause : Text)
  deriving DecidableEq, Repr, Inhabited

/-- Number of the kinds of failure; a process that fails ends with it. -/
inductive ErrorCode where
  | success
  | generalError
  | invalidArgs
  | configNotFound
  | configParseError
  | noSection
  | noOption
  | invalidOption
  | invalidPattern
  | encodingError
  | fileReadFailed
  | fileWriteFailed
  deriving DecidableEq, Repr, Inhabited

namespace ErrorCode

/-- All codes, in order of their numbers. -/
def all : List ErrorCode :=
  [success, generalError, invalidArgs, configNotFound, configParseError, noSection, noOption,
    invalidOption, invalidPattern, encodingError, fileReadFailed, fileWriteFailed]

def toNat : ErrorCode → Nat
  | success => 0
  | generalError => 1
  | invalidArgs => 2
  | configNotFound => 10
  | configParseError => 11
  | noSection => 12
  | noOption => 13
  | invalidOption => 14
  | invalidPattern => 15
  | encodingError => 16
  | fileReadFailed => 27
  | fileWriteFailed => 28

def name : ErrorCode → Text
  | success => "SUCCESS".toList
  | generalError => "GENERAL_ERROR".toList
  | invalidArgs => "INVALID_ARGS".toList
  | configNotFound => "CONFIG_NOT_FOUND".toList
  | configParseError => "CONFIG_PARSE_ERROR".toList
  | noSection => "NO_SECTION".toList
  | noOption => "NO_OPTION".toList
  | invalidOption => "INVALID_OPTION".toList
  | invalidPattern => "INVALID_PATTERN".toList
  | encodingError => "ENCODING_ERROR".toList
  | fileReadFailed => "FILE_READ_FAILED".toList
  | fileWriteFailed => "FILE_WRITE_FAILED".toList

/-- The code with a given number. -/
def ofInt? (n : Int) : Option ErrorCode := all.find? fun code => (code.toNat : Int) == n

/-- The name that belongs to a number, or `UNKNOWN`. -/
def nameOf (n : Int) : Text :=
  match ofInt? n with
  | some code => code.name
  | none => "UNKNOWN".toList

end ErrorCode

namespace Fault

/-- Heading of a report on bad lines. -/
def countHeading (count : Nat) : Text :=
  "Config contains ".toList ++ Text.decimal count ++ " parsing error".toList ++
    if count = 1 then [] else ['s']

/-- What failed, without the reason that someone else gives for it. -/
def summary : Fault → Text
  | fileAccess failure => failure.summary
  | configNotFound path => "Configuration file not found: ".toList ++ path
  | badLines problems =>
    countHeading problems.length ++ problems.flatMap fun p => '\n' :: p.message
  | noSection name => "No section: ".toList ++ name.quoted
  | noOption name key =>
    "No option ".toList ++ key.quoted ++ " in section: ".toList ++ name.quoted
  | refused refusal => refusal.message
  | invalidPattern pattern _ => "Invalid pattern ".toList ++ pattern.quoted
  | undecodable encoding _ => "Cannot decode config as ".toList ++ encoding

/-- The reason that someone else gives for a failure. -/
def cause? : Fault → Option Text
  | fileAccess failure => some failure.cause
  | invalidPattern _ cause => some cause
  | undecodable _ cause => some cause
  | _ => none

/-- The words for a failure. -/
def message (fault : Fault) : Text :=
  match fault.cause? with
  | some cause => fault.summary ++ ':' :: ' ' :: cause
  | none => fault.summary

/-- The code of a failure. -/
def code : Fault → ErrorCode
  | fileAccess (.stat _ _) => .fileReadFailed
  | fileAccess (.read _ _) => .fileReadFailed
  | fileAccess (.write _ _) => .fileWriteFailed
  | fileAccess (.replace _ _) => .fileWriteFailed
  | configNotFound _ => .configNotFound
  | badLines _ => .configParseError
  | noSection _ => .noSection
  | noOption _ _ => .noOption
  | refused _ => .invalidOption
  | invalidPattern _ _ => .invalidPattern
  | undecodable _ _ => .encodingError

theorem code_toNat_pos (f : Fault) : 0 < f.code.toNat := by
  cases f with
  | fileAccess failure => cases failure <;> exact Nat.succ_pos _
  | _ => exact Nat.succ_pos _

end Fault

end ConfigEditor
