import CSubset.Path
import CSubset.Settings

/-!
# Generating the limits

Limits are written in a TOML document for each profile. Before a build they are checked and turned into a source file
of constants.
-/

namespace CSubset

inductive LimitsError where
  | fileSize
  | tokenCount
  | indentWidth
  | productionFileSize
  deriving DecidableEq, Repr

def LimitsError.message : LimitsError → String
  | fileSize => "max_file_size exceeds absolute maximum"
  | tokenCount => "max_token_count must be greater than zero"
  | indentWidth => "default_indent_width must be within 1..=max_indent_width"
  | productionFileSize => "PRODUCTION: max_file_size too high for production"

namespace Limits

def sectionField? (fields : List (String × Toml)) (sectionName : String) (names : List String) (name : String) :
    Option Nat :=
  Toml.required (fun v => (v.members? names).bind (Toml.required Toml.nat? name)) sectionName fields

def ofFields? (fields : List (String × Toml)) : Option Limits := do
  let emission := ["default_indent_width", "max_indent_width"]
  return {
    maxFileSize := ← sectionField? fields "file_processing" ["max_file_size"] "max_file_size"
    maxTokenCount := ← sectionField? fields "lexical" ["max_token_count"] "max_token_count"
    defaultIndentWidth := ← sectionField? fields "emission" emission "default_indent_width"
    maxIndentWidth := ← sectionField? fields "emission" emission "max_indent_width"
    maxLogMessageLength := ← sectionField? fields "logging" ["max_log_message_length"] "max_log_message_length" }

def ofText? (text : String) : Option Limits := (Toml.parse? text).bind ofFields?

def check (l : Limits) (profile : String) : Except LimitsError Unit :=
  if 1000000000 < l.maxFileSize then .error .fileSize
  else if l.maxTokenCount = 0 then .error .tokenCount
  else if l.defaultIndentWidth = 0 ∨ l.maxIndentWidth < l.defaultIndentWidth then .error .indentWidth
  else if profile = "production" ∧ 50000000 < l.maxFileSize then .error .productionFileSize
  else .ok ()

def constantsText (l : Limits) (profile : String) : String :=
  "\n// Generated compile-time constants from TOML configuration\n"
    ++ "// Profile: " ++ profile ++ "\n"
    ++ "// DO NOT EDIT - Generated by build.rs\n"
    ++ "\n"
    ++ "pub mod compile_time \x7b\n"
    ++ "    pub mod file_processing \x7b\n"
    ++ "        pub const MAX_FILE_SIZE: u64 = " ++ toString l.maxFileSize ++ ";\n"
    ++ "    \x7d\n"
    ++ "\n"
    ++ "    pub mod lexical \x7b\n"
    ++ "        pub const MAX_TOKEN_COUNT: usize = " ++ toString l.maxTokenCount ++ ";\n"
    ++ "    \x7d\n"
    ++ "\n"
    ++ "    pub mod emission \x7b\n"
    ++ "        pub const DEFAULT_INDENT_WIDTH: usize = " ++ toString l.defaultIndentWidth ++ ";\n"
    ++ "        pub const MAX_INDENT_WIDTH: usize = " ++ toString l.maxIndentWidth ++ ";\n"
    ++ "    \x7d\n"
    ++ "\n"
    ++ "    pub mod logging \x7b\n"
    ++ "        pub const MAX_LOG_MESSAGE_LENGTH: usize = " ++ toString l.maxLogMessageLength ++ ";\n"
    ++ "    \x7d\n"
    ++ "\x7d\n"

end Limits

inductive GenerateError where
  | variableNotSet
  | noParent
  | documentNotFound (path root directory profile : String)
  | unreadable (path : String) (failure : FileFailure)
  | unusable (path : String)
  | limits (e : LimitsError)
  | unwritable (failure : FileFailure)
  deriving DecidableEq, Repr

def GenerateError.message : GenerateError → String
  | variableNotSet => "called `Result::unwrap()` on an `Err` value: NotPresent"
  | noParent => "Could not find workspace root (parent directory)"
  | documentNotFound path root directory profile =>
    "Configuration file not found: " ++ path ++ "\nWorkspace root: " ++ root ++ "\nLooking for: " ++ root ++ "/"
      ++ directory ++ "/" ++ profile ++ ".toml"
  | unreadable path failure => "Failed to read " ++ path ++ ": " ++ failure.message
  | unusable path => "Invalid TOML in " ++ path ++ ": " ++ Toml.unusable
  | limits e => e.message
  | unwritable failure => "called `Result::unwrap()` on an `Err` value: " ++ failure.debugText

namespace Limits

section
variable {m : Type → Type} [Monad m]

def variableOrFail (env : Environment) (name : String) : ExceptT GenerateError m String :=
  match env name with
  | some value => return value
  | none => throw .variableNotSet

/-- Reads the document of the chosen profile, checks it, and writes the constants. The lines printed on the way tell
what the result depends on. -/
def generate (h : Host m) (env : Environment) : ExceptT GenerateError m Unit := do
  h.print .out "cargo:rerun-if-changed=build.rs"
  h.print .out "cargo:rerun-if-env-changed=MINIC_BUILD_PROFILE"
  h.print .out "cargo:rerun-if-env-changed=MINIC_CONFIG_DIR"
  let profile := (env "MINIC_BUILD_PROFILE").getD "development"
  let directory := (env "MINIC_CONFIG_DIR").getD "config"
  let package ← variableOrFail env "CARGO_MANIFEST_DIR"
  let some root := Path.parent? package | throw .noParent
  let path := Path.join (Path.join root directory) (profile ++ ".toml")
  h.print .out ("cargo:rerun-if-changed=" ++ path)
  if (← h.stat path) matches .error _ then throw (.documentNotFound path root directory profile)
  match ← h.readText path with
  | .error failure => throw (.unreadable path failure)
  | .ok text =>
    let some limits := ofText? text | throw (.unusable path)
    if let .error e := limits.check profile then throw (.limits e)
    let target ← variableOrFail env "OUT_DIR"
    if let .error failure ← h.write (Path.join target "constants.rs") (limits.constantsText profile) then
      throw (.unwritable failure)

end

end Limits

end CSubset
