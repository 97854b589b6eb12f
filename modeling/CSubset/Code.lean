/-!
# Codes

Every error and every success that is reported has a code; the registry says what a code is about and what to do.
A code that is not registered gets neutral answers.
-/

namespace CSubset

inductive Severity where
  | critical | high | medium | low
  deriving DecidableEq, Repr

def Severity.name : Severity → String
  | critical => "Critical"
  | high => "High"
  | medium => "Medium"
  | low => "Low"

structure CodeInfo where
  code : String
  category : String
  severity : Severity
  description : String
  action : String
  deriving DecidableEq, Repr

namespace Code

/-! ## The registered codes -/

def internalError : String := "ERR001"
def fileNotFound : String := "E005"
def fileTooLarge : String := "E007"
def permissionDenied : String := "E009"
def invalidEncoding : String := "E010"
def ioFailure : String := "E011"
def invalidPath : String := "E012"
def tooManyTokens : String := "E027"
def unexpectedEnd : String := "E040"
def unexpectedToken : String := "E050"
def tokenOutsideMain : String := "E051"
def undeclaredAssignment : String := "E052"
def unknownType : String := "E053"
def unrecognizedStatement : String := "E054"
def invalidPrintArgument : String := "E055"
def missingTerminator : String := "E057"
def usage : String := "E070"
def configuration : String := "E071"
def outputWrite : String := "E072"
def compilationFailed : String := "E073"
def started : String := "I004"
def fileProcessed : String := "I006"
def tokenized : String := "I020"
def compiled : String := "I040"
def outputWritten : String := "I041"

def registry : List CodeInfo :=
  [
    ⟨internalError, "System", .critical,
      "Critical internal compiler error",
      "File a bug report with the input that triggered it"⟩,
    ⟨fileNotFound, "FileProcessing", .high,
      "Input file not found",
      "Check the file path and make sure the file exists"⟩,
    ⟨fileTooLarge, "FileProcessing", .high,
      "Input file exceeds the maximum allowed size",
      "Split the program or raise max_file_size in the build profile"⟩,
    ⟨permissionDenied, "FileProcessing", .medium,
      "Permission denied accessing file",
      "Check file permissions and user access rights"⟩,
    ⟨invalidEncoding, "FileProcessing", .medium,
      "Invalid UTF-8 encoding in file",
      "Convert the file to UTF-8"⟩,
    ⟨ioFailure, "FileProcessing", .medium,
      "I/O error during file operation",
      "Check disk space, permissions, and file system integrity"⟩,
    ⟨invalidPath, "FileProcessing", .medium,
      "Invalid file path provided",
      "Provide a path to a regular file"⟩,
    ⟨tooManyTokens, "Lexical", .high,
      "Token count exceeds the maximum allowed",
      "Reduce program size or raise max_token_count in the build profile"⟩,
    ⟨unexpectedEnd, "Syntax", .medium,
      "Input ended while a token was still expected",
      "Complete the unfinished construct"⟩,
    ⟨unexpectedToken, "Syntax", .medium,
      "Token does not match the grammar at this point",
      "Replace the token with the one the grammar expects"⟩,
    ⟨tokenOutsideMain, "Syntax", .medium,
      "Token found outside of a main function",
      "Move statements inside main() \x7b ... \x7d"⟩,
    ⟨undeclaredAssignment, "Semantic", .medium,
      "Assignment to a variable that was never declared",
      "Declare the variable with int, float, bool or string first"⟩,
    ⟨unknownType, "Semantic", .medium,
      "Declared type is not one of int, float, bool, string",
      "Use one of the supported primitive types"⟩,
    ⟨unrecognizedStatement, "Syntax", .medium,
      "Statement is not a declaration, print, return or assignment",
      "Rewrite the statement using the supported subset"⟩,
    ⟨invalidPrintArgument, "Semantic", .medium,
      "Print argument is neither a string literal nor a declared variable",
      "Quote the text or declare the variable before printing it"⟩,
    ⟨missingTerminator, "Syntax", .low,
      "Statement is missing its ';' terminator",
      "Add ';' at the end of the statement"⟩,
    ⟨usage, "Driver", .high,
      "Invalid command line usage",
      "Run minic --help for usage"⟩,
    ⟨configuration, "Driver", .high,
      "Runtime configuration could not be loaded",
      "Fix the TOML file passed with --config"⟩,
    ⟨outputWrite, "Driver", .high,
      "Output or trace file could not be written",
      "Check that the output directory exists and is writable"⟩,
    ⟨compilationFailed, "Driver", .medium,
      "Compilation produced diagnostics and no output was written",
      "Fix the reported errors and compile again"⟩,
    ⟨started, "System", .low,
      "System initialization completed successfully",
      "Continue normal operation"⟩,
    ⟨fileProcessed, "FileProcessing", .low,
      "File processing completed successfully",
      "Continue to next processing stage"⟩,
    ⟨tokenized, "Lexical", .low,
      "Tokenization completed",
      "Continue to translation"⟩,
    ⟨compiled, "Syntax", .low,
      "Translation completed without diagnostics",
      "Continue normal operation"⟩,
    ⟨outputWritten, "Driver", .low,
      "Generated output written",
      "Continue normal operation"⟩
  ]

def info? (code : String) : Option CodeInfo := registry.find? (·.code = code)

/-! ## What is known of a code -/

def unknownDescription : String := "Unknown error"

def unknownAction : String := "No specific action available"

def severity (code : String) : Severity := ((info? code).map (·.severity)).getD .medium

def category (code : String) : String := ((info? code).map (·.category)).getD "Unknown"

def description (code : String) : String := ((info? code).map (·.description)).getD unknownDescription

def action (code : String) : String := ((info? code).map (·.action)).getD unknownAction

end Code

end CSubset
