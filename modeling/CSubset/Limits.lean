/-!
# Limits

Sizes that are fixed when the program is built, and the profile they come from.
-/

namespace CSubset

structure Limits where
  maxFileSize : Nat
  maxTokenCount : Nat
  defaultIndentWidth : Nat
  maxIndentWidth : Nat
  maxLogMessageLength : Nat
  deriving DecidableEq, Repr

namespace Limits

def buildProfile : String := "development"

def configDirectory : String := "config"

def sourceInfo : String := "Generated from " ++ configDirectory ++ "/" ++ buildProfile ++ ".toml"

def current : Limits where
  maxFileSize := 10485760
  maxTokenCount := 1000000
  defaultIndentWidth := 4
  maxIndentWidth := 16
  maxLogMessageLength := 10000

end Limits

end CSubset
