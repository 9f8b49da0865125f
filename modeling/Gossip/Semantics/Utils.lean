import Gossip.Foundation.Occurrence
import Gossip.Foundation.Regex
import Mathlib.Algebra.Ring.Nat

/-! # Utilities for text

Parsing of addresses, splitting and joining. A `std::string` is the list of its
characters. -/

namespace Gossip

open Foundation

/-- A `std::string`. -/
abbrev Text := List Char

inductive OutOfRange
  | outOfRange
deriving DecidableEq, Repr

def Text.substr (text : Text) (pos : Nat) : Except OutOfRange Text :=
  if text.length < pos then .error .outOfRange else .ok (text.drop pos)

namespace Utils

/-! ## Addresses -/

structure ParseError where
  message : Text
deriving DecidableEq, Repr

def isSpace (character : Char) : Bool :=
  character ∈ [' ', '\t', '\n', '\x0b', '\x0c', '\r']

def digit : Regex Char := .one Char.isDigit

def nonSpace : Regex Char := .one fun character => !isSpace character

def character (expected : Char) : Regex Char := .one (· = expected)

def octet : Regex Char := .sequence digit (.atMost 2 digit)

/-- `(\d{1,3}(\.\d{1,3}){3}):(\d+)`. -/
def kIpPortPattern : Regex Char :=
  .sequence
    (.group 1 (.sequence octet (.times 3 (.group 2 (.sequence (character '.') octet)))))
    (.sequence (character ':') (.group 3 (.plus digit)))

def kHostPortPattern : Regex Char :=
  .sequence
    (.group 1 (.sequence (.plus nonSpace)
      (.repeated (.group 2 (.sequence (character '.') (.plus nonSpace))))))
    (.sequence (character ':') (.group 3 (.plus digit)))

def kIpPattern : Regex Char :=
  .sequence octet (.times 3 (.group 1 (.sequence (character '.') octet)))

def parseIp (ip : Text) : Bool := (kIpPattern.fullMatch ip).isSome

def decimalValue (digits : Text) : Nat := Nat.ofDigitChars 10 digits 0

/-- `atoi`, of which nothing is known when the number does not fit an `int`. -/
structure DigitConversion where
  atoi : Text → Int32
  inRange : ∀ digits : Text, digits ≠ [] → (∀ character ∈ digits, character.isDigit = true) →
    decimalValue digits < 2 ^ 31 → (atoi digits).toInt = decimalValue digits

section Parsing

variable (conversion : DigitConversion)

/-- The two parsers, which differ in the pattern and the message. The `int` of `atoi` is
returned as an `unsigned int`. -/
def parsePort (pattern : Regex Char) (message text : Text) :
    Except ParseError (Text × UInt32) :=
  match pattern.fullMatch text with
  | some captures => .ok (captures.read 1, (conversion.atoi (captures.read 3)).toUInt32)
  | none => .error ⟨message ++ text⟩

def parseIpPort (ipPort : Text) : Except ParseError (Text × UInt32) :=
  parsePort conversion kIpPortPattern "Not a valid IP:port string: ".toList ipPort

def parseHostPort (hostPort : Text) : Except ParseError (Text × UInt32) :=
  parsePort conversion kHostPortPattern "Not a valid host:port string: ".toList hostPort

end Parsing

/-! ## Splitting and joining -/

def findLastNotOf (text : Text) (character : Char) : Option Nat :=
  (text.reverse.findIdx? (· ≠ character)).map fun index => text.length - 1 - index

def trim (str : Text) : Text :=
  match str.findIdx? (· ≠ ' '), findLastNotOf str ' ' with
  | some strBegin, some strEnd => (str.drop strBegin).take (strEnd - strBegin + 1)
  | _, _ => []

/-- The loop of `split`. The `substr` at its end throws when nothing is left to skip,
which can only be so for an empty separator. -/
def splitLoop (sep : Text) (trimSpaces preserveEmpty : Bool) (remains : Text)
    (results : List Text) : Except OutOfRange (List Text) :=
  match firstOccurrence sep remains with
  | none => .ok (if remains.isEmpty then results else results ++ [remains])
  | some pos =>
      let value := remains.take pos
      let value := if trimSpaces then trim value else value
      let results := if !value.isEmpty || preserveEmpty then results ++ [value] else results
      if remains.length < pos + 1 then .error .outOfRange
      else splitLoop sep trimSpaces preserveEmpty (remains.drop (pos + 1)) results
termination_by remains.length
decreasing_by
  rw [List.length_drop]
  omega

def split (values sep : Text) (trimSpaces preserveEmpty : Bool) :
    Except OutOfRange (List Text) :=
  splitLoop sep trimSpaces preserveEmpty values []

def vec2StrLoop (sep : Text) : (first : Bool) → (out : Text) → List Text → Text
  | _, out, [] => out
  | true, out, t :: vec => vec2StrLoop sep false (out ++ t) vec
  | false, out, t :: vec => vec2StrLoop sep false (out ++ sep ++ t) vec

def vec2Str (vec : List Text) (sep : Text) : Text := vec2StrLoop sep true [] vec

/-! ## Options -/

/-- `boost::tokenizer` with a `char_separator`. All that is assumed of it is that a text
without separators is one token, or none if it is empty. -/
structure Tokenizer where
  tokenize : Char → Text → List Text
  whole : ∀ separator text, separator ∉ text →
    tokenize separator text = if text.isEmpty then [] else [text]

/-- `validate`, on the values that the option has so far. The position that `find`
returns is used as a truth value. -/
def validate (tokenizer : Tokenizer) (values : List Text) (tokens : List Text) : List Text :=
  tokens.foldl
    (fun values token =>
      if firstOccurrence ",".toList token ≠ some 0 then values ++ tokenizer.tokenize ' ' token
      else values ++ [token])
    values

end Utils

end Gossip
