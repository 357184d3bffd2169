/-!
Texts for a terminal, which control sequences colour, and what is left of them where there is none.

A sequence starts with an escape character and runs up to a character that depends on its kind. Besides the
sequences, control characters go as well, all but tabs and the breaks of lines and pages.
-/

namespace StorageConfig

namespace Terminal

/-- A text with styles set before it, by their numbers, and all reset after it. -/
def styled (styles : List Nat) (text : String) : String :=
  String.join (styles.map fun style => "\x1b[" ++ toString style ++ "m") ++ text ++ "\x1b[0m"

/-- A text in bold. -/
def bold (text : String) : String := styled [1] text

/-- How far a text is into a control sequence. -/
inductive Stage where
  /-- Outside of any. -/
  | ground
  /-- After the escape character. -/
  | escape
  /-- After an intermediate character that follows the escape character. -/
  | escapeIntermediate
  /-- Among the parameters of a sequence that ends with a letter or sign. -/
  | parameters
  /-- In a command to the operating system, which a bell ends. -/
  | command
  /-- At the start of a device control string. -/
  | deviceEntry
  /-- Among the parameters of a device control string. -/
  | deviceParameters
  /-- After an intermediate character of a device control string. -/
  | deviceIntermediate
  /-- In a string, which only its own end mark or another sequence ends. -/
  | string
  deriving DecidableEq, Repr

/-- Whether the code of a character lies between two others. -/
def isBetween (low high : Nat) (c : Char) : Bool := low ≤ c.toNat && c.toNat ≤ high

/-- Whether a character is an intermediate one of a sequence. -/
def isIntermediate (c : Char) : Bool := isBetween 0x20 0x2F c

/-- Whether a control character is shown: tabs and the breaks of lines and pages are. -/
def isBreak (c : Char) : Bool := c == '\t' || c == '\n' || c == '\x0c' || c == '\r'

/-- Whether a character is shown outside of sequences. -/
def isShown (c : Char) : Bool := isBreak c || isBetween 0x20 0x7E c || 0x80 ≤ c.toNat

/-- Whether the end mark of strings, the octet 9C, is a continuation octet of a character. -/
def endsString (c : Char) : Bool := 0x80 ≤ c.toNat && c.toString.toUTF8.toList.contains 0x9C

/-- The stage after a character that neither starts nor breaks off a sequence. -/
def Stage.advance (stage : Stage) (c : Char) : Stage :=
  match stage with
  | ground => ground
  | escape =>
    if isIntermediate c then escapeIntermediate
    else if c == '[' then parameters
    else if c == ']' then command
    else if c == 'P' then deviceEntry
    else if c == 'X' || c == '^' || c == '_' then string
    else if isBetween 0x30 0x7E c then ground
    else escape
  | escapeIntermediate => if isBetween 0x30 0x7E c then ground else escapeIntermediate
  | parameters => if isBetween 0x40 0x7E c then ground else parameters
  | command => if c == '\x07' then ground else command
  | deviceEntry =>
    if isIntermediate c then deviceIntermediate
    else if isBetween 0x30 0x3F c then deviceParameters
    else if isBetween 0x40 0x7E c then string
    else deviceEntry
  | deviceParameters =>
    if isIntermediate c then deviceIntermediate
    else if isBetween 0x3C 0x7E c then string
    else deviceParameters
  | deviceIntermediate => if isBetween 0x30 0x7E c then string else deviceIntermediate
  | string => if endsString c then ground else string

/-- The stage after a character; an escape always starts a sequence, and two controls break any off. -/
def Stage.next (stage : Stage) (c : Char) : Stage :=
  if c == '\x1b' then escape
  else if c == '\x18' || c == '\x1a' then ground
  else stage.advance c

/-- Whether a character is shown at a stage: breaks are within the shorter kinds of sequences too. -/
def Stage.shows (stage : Stage) (c : Char) : Bool :=
  match stage with
  | ground => isShown c
  | escape | escapeIntermediate | parameters => isBreak c
  | _ => false

/--
What is shown of a text from a stage on.

A break within a sequence interrupts it: what follows is shown as if outside, until a control character
goes on with the sequence or a character beyond ASCII ends it.
-/
def shownFrom (stage : Stage) (isInterrupted : Bool) : List Char → List Char
  | [] => []
  | c :: rest =>
    if isInterrupted && isShown c then
      c :: shownFrom (if 0x80 ≤ c.toNat then .ground else stage) true rest
    else if stage.shows c then c :: shownFrom (stage.next c) true rest
    else shownFrom (stage.next c) false rest

/-- What is shown of a text where control sequences mean nothing. -/
def plain (text : String) : String := String.ofList (shownFrom .ground false text.toList)

end Terminal

end StorageConfig
