import DialogCodemod.File.Path
import DialogCodemod.Report.ControlSequence
import DialogCodemod.Report.Style

/-!
# Arguments

The command line names the files to convert. Arguments are read from left to right up to the first
flag, which decides. An unknown flag is refused at once, without a guess at what was meant, and so
is a value that is attached to a known one. A flag that asks for help or the version is answered
only if the paths before it are acceptable. After two dashes everything is a path; a single dash is
a path anyway.
-/

namespace DialogCodemod

/-- Why a command line does not lead to a conversion. -/
inductive Refusal where
  | help
  | version
  | unknownFlag (flag : String)
  /-- A value was attached to a flag that takes none. -/
  | attachedValue (flag value : String)
  | emptyPath
  | noPath
  deriving DecidableEq, Repr

namespace Refusal

/-- How the program is called, with these flags. -/
def usage (style : Style) (flags : List String) : String :=
  style.heading "Usage:" ++ " " ++
    " ".intercalate (style.emphasis "notify-migrate" :: flags ++ ["<FILE>..."])

/-- What the program is for, and what it can be given. -/
def helpText (style : Style) : String :=
  "Rewrite alert()/confirm() calls to the async notification manager\n\n" ++ usage style [] ++
    "\n\n" ++ style.heading "Arguments:" ++
    "\n  <FILE>...  Source files to migrate, processed in the order given\n\n" ++
    style.heading "Options:" ++ "\n  " ++ style.emphasis "-h" ++ ", " ++ style.emphasis "--help" ++
    "     Print help\n  " ++ style.emphasis "-V" ++ ", " ++ style.emphasis "--version" ++
    "  Print version\n"

/-- Where to find more. -/
def hint : String := "For more information, try '--help'."

/-- What the user is told, given the style of the help text and how an argument is shown. -/
def messageShowing (style : Style) (shown : String → String) : Refusal → String
  | .help => helpText style
  | .version => "notify-migrate 0.1.0\n"
  | .unknownFlag flag =>
      "error: unexpected argument '" ++ shown flag ++ "' found\n\n  tip: to pass '" ++ shown flag ++
        "' as a value, use '-- " ++ shown flag ++ "'\n\n" ++ usage .plain [] ++ "\n\n" ++ hint ++
        "\n"
  | .attachedValue flag value =>
      "error: unexpected value '" ++ shown value ++ "' for '" ++ flag ++
        "' found; no more were expected\n\n" ++ usage .plain [flag] ++ "\n\n" ++ hint ++ "\n"
  | .emptyPath =>
      "error: a value is required for '<FILE>...' but none was supplied\n\n" ++ hint ++ "\n"
  | .noPath =>
      "error: the following required arguments were not provided:\n  <FILE>...\n\n" ++
        usage .plain [] ++ "\n\n" ++ hint ++ "\n"

/-- An argument without control sequences. -/
def shownArgument (interruption : Interruption) (argument : String) : String :=
  String.ofList (Text.withoutControls interruption argument.toList)

/-- What the user is told, in plain characters. -/
def message (refusal : Refusal) : String :=
  refusal.messageShowing .plain (shownArgument .ends)

/-- What is printed. Only the help text has a style. -/
def printed (style : Style) (refusal : Refusal) : String :=
  refusal.messageShowing style (shownArgument .resumes)

/-- Whether the user got what was asked for. -/
def isRequested : Refusal → Bool
  | .help | .version => true
  | _ => false

/-- The exit code. -/
def exitCode (refusal : Refusal) : Nat :=
  if refusal.isRequested then 0 else 2

end Refusal

namespace Arguments

/-- An argument by its form. -/
inductive Form where
  /-- Two dashes: paths only from here on. -/
  | separator
  /-- A flag of two dashes and a name, with the value after an equals sign, if there is one. -/
  | longFlag (name : Text) (value : Option Text)
  /-- Flags of one letter each, after one dash. -/
  | shortFlags (first : Char)
  | path
  deriving DecidableEq, Repr

/-- The form of an argument. -/
def Form.ofText : Text → Form
  | ['-', '-'] => .separator
  | '-' :: '-' :: flag => .longFlag (flag.takeWhile (· != '=')) (flag.dropWhile (· != '=')).tail?
  | '-' :: first :: _ => .shortFlags first
  | _ => .path

/-- What a long flag means. -/
def longRefusal (name : Text) (value : Option Text) : Refusal :=
  let flag := "--" ++ String.ofList name
  let answer (request : Refusal) : Refusal :=
    match value with
    | none => request
    | some value => .attachedValue flag (String.ofList value)
  if name = "help".toList then answer .help
  else if name = "version".toList then answer .version
  else .unknownFlag flag

/-- What a short flag means. Of several in one argument the first decides. -/
def shortRefusal (first : Char) : Refusal :=
  if first = 'h' then .help
  else if first = 'V' then .version
  else .unknownFlag (String.ofList ['-', first])

/-- The values before the first flag, and what that flag means, if there is one. -/
def valuesAndFlag : List String → List String × Option Refusal
  | [] => ([], none)
  | argument :: later =>
      match Form.ofText argument.toList with
      | .separator => (later, none)
      | .longFlag name value => ([], some (longRefusal name value))
      | .shortFlags first => ([], some (shortRefusal first))
      | .path =>
          let (values, flag) := valuesAndFlag later
          (argument :: values, flag)

/-- Accept values as paths. -/
def acceptPaths (values : List String) : Except Refusal (List Path) :=
  if values.contains "" then .error .emptyPath
  else .ok (values.map fun value => { name := value })

/-- Read the arguments. There must be a path. -/
def read (arguments : List String) : Except Refusal (List Path) := do
  let (values, flag) := valuesAndFlag arguments
  match flag with
  | some refusal =>
      if refusal.isRequested then
        let _ ← acceptPaths values
      .error refusal
  | none =>
      let paths ← acceptPaths values
      if paths.isEmpty then .error .noPath else .ok paths

end Arguments

end DialogCodemod
