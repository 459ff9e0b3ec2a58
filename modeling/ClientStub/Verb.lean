/-!
# Verbs

The HTTP verb of a call is the leading word of the server-side method's name: its first run of lower-case
ASCII letters. Names without a leading verb are called with `get`.
-/

namespace ClientStub

inductive Verb where
  | get
  | post
  | put
  | delete
  deriving DecidableEq, Repr

namespace Verb

def name : Verb → String
  | get => "get"
  | post => "post"
  | put => "put"
  | delete => "delete"

def ofName? : String → Option Verb
  | "get" => some get
  | "post" => some post
  | "put" => some put
  | "delete" => some delete
  | _ => none

/-- What is said of a text that names no verb. -/
def unknownMessage (text : String) : String := "Unknown HTTP verb: " ++ text

def isWordChar (c : Char) : Bool := c.isLower

/-- The leading word of a method's name. -/
def leadingWord (method : String) : String := String.ofList (method.toList.takeWhile isWordChar)

/-- The method's name behind its leading word. -/
def afterLeadingWord (method : String) : String := String.ofList (method.toList.dropWhile isWordChar)

/-- The verb that a method's name asks for. -/
def infer (method : String) : Verb := (ofName? (leadingWord method)).getD get

/-- A method's name without a leading verb. -/
def strip (method : String) : String :=
  if (ofName? (leadingWord method)).isSome then afterLeadingWord method else method

end Verb

end ClientStub
