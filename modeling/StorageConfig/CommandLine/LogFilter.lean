import StorageConfig.CommandLine.Output
import StorageConfig.Decimal.Count
import StorageConfig.Text.Alphanumeric
import StorageConfig.Text.Blank

/-!
Which log entries are written, by directives of which the most specific one decides.

A directive such as `store[span]=warn` names the parts of the program it is about by how their names start,
perhaps a span, perhaps in braces a field, and the least important level that is written.
-/

namespace StorageConfig

namespace CommandLine

/-- The least important level that is written, or nothing at all. -/
abbrev LogBound := Option LogLevel

namespace LogBound

/-- Everything is written. -/
def everything : LogBound := some .trace

/-- Whether entries of a level are written. -/
def admits (bound : LogBound) (level : LogLevel) : Bool := bound.any fun least => least.rank ≤ level.rank

/-- The bounds by their numbers. -/
def numbered : List LogBound := [none, some .error, some .warn, some .info, some .debug, some .trace]

/-- The bounds by their names. -/
def named : List (String × LogBound) :=
  [("off", none), ("error", some .error), ("warn", some .warn), ("info", some .info), ("debug", some .debug),
    ("trace", some .trace)]

/-- The bound that a text names, in upper or lower case, or numbers; an empty text names errors. -/
def ofText? (text : String) : Option LogBound :=
  match Count.parse text with
  | .ok number => numbered[number.toNat]?
  | .error _ =>
    if text = "" then some (some .error)
    else (named.find? fun (name, _) => text.map Char.toLower == name).map (·.2)

end LogBound

/-- A rule about which log entries are written. -/
structure LogDirective where
  /-- How the names of the parts it is about start; nothing if it is about all. -/
  target : Option String
  /-- The field that entries must have. -/
  field : Option String
  /-- Whether it is about what happens in a span, or about the value of a field. -/
  isScoped : Bool
  bound : LogBound
  deriving DecidableEq, Repr

/-- Why a text is no directive. -/
inductive LogDirectiveFault where
  | malformed
  | noLevel
  deriving DecidableEq, Repr

/-- The wording of a directive fault. -/
def LogDirectiveFault.message : LogDirectiveFault → String
  | malformed => "invalid filter directive"
  | noLevel =>
    "error parsing level filter: expected one of \"off\", \"error\", \"warn\", \"info\", \"debug\", \"trace\", "
      ++ "or a number 0-5"

namespace LogDirective

/--
A text that is read by one copy and kept from another.

Marks are looked for in the text without the blanks around it, while its parts are cut out of the text as it
stands at the same places; blanks in front thus shift all parts.
-/
abbrev Doubled := List (Char × Char)

/-- The part of a doubled text that is kept. -/
def kept (text : Doubled) : List Char := text.map (·.2)

/-- The bound that a text sets; where there is none, everything is written. -/
def boundOf (text : List Char) : Except LogDirectiveFault LogBound :=
  if text = [] then .ok .everything
  else
    match LogBound.ofText? (String.ofList text) with
    | some bound => .ok bound
    | none => .error .noLevel

/-- A directive whose span has been closed, from what follows. -/
def readBound (directive : LogDirective) (tail : List Char) : Doubled → Except LogDirectiveFault LogDirective
  | [] => .ok directive
  | (mark, _) :: rest =>
    if mark = '=' then (boundOf (kept rest ++ tail)).map fun bound => { directive with bound }
    else .error .malformed

/-- A directive from its opened span on. -/
def readSpan (target : Option String) (tail : List Char) (text : Doubled) :
    Except LogDirectiveFault LogDirective :=
  let (span, rest) := text.span fun (mark, _) => mark != ']' && mark != '\x7b'
  match rest with
  | [] => .error .malformed
  | (mark, _) :: rest =>
    if mark = ']' then readBound ⟨target, none, true, .everything⟩ tail rest
    else
      let (field, rest) := rest.span fun (mark, _) => mark != '\x7d'
      match rest with
      | _ :: (close, _) :: rest =>
        if field = [] ∨ close ≠ ']' then .error .malformed
        else
          let isScoped := span ≠ [] ∨ '=' ∈ kept field
          readBound ⟨target, some (String.ofList (kept field)), isScoped, .everything⟩ tail rest
      | _ => .error .malformed

/-- A directive that is a single word: a bound for all parts, or a part of which everything is written. -/
def ofWord (word : String) : LogDirective :=
  match LogBound.ofText? word with
  | some bound => ⟨none, none, false, bound⟩
  | none => ⟨some word, none, false, .everything⟩

/-- Whether a directive can start with a character. -/
def isStart (c : Char) : Bool := c == '-' || c == ':' || c == '_' || isAlphanumeric c

/-- Read a directive. -/
def parse (text : String) : Except LogDirectiveFault LogDirective :=
  let whole := text.toList
  let marks := trim whole
  let doubled := marks.zip whole
  let tail := whole.drop marks.length
  match doubled with
  | [] => .error .malformed
  | (first, _) :: after =>
    if first = '[' then readSpan none tail after
    else if !isStart first then .error .malformed
    else
      let (head, rest) := doubled.span fun (mark, _) => mark != '=' && mark != '['
      let target := String.ofList (kept head)
      match rest with
      | [] => .ok (ofWord (String.ofList (kept head ++ tail)))
      | (mark, _) :: rest =>
        if mark = '=' then
          (boundOf (kept rest ++ tail)).map fun bound => ⟨some target, none, false, bound⟩
        else readSpan (some target) tail rest

/-- Whether a directive is about an entry outside of any span; entries have a message and no other field. -/
def covers (directive : LogDirective) (entry : LogEntry) : Bool :=
  !directive.isScoped && directive.target.all (·.isPrefixOf entry.source) && directive.field.all (· == "message")

/-- How specific a directive is: first by the length of its target, then by having a field. -/
def weight (directive : LogDirective) : Nat :=
  2 * directive.target.elim 0 (·.utf8ByteSize + 1) + (if directive.field.isSome then 1 else 0)

/-- A directive about the parts whose names start in a certain way. -/
def ofTarget (target : Option String) (level : LogLevel) : LogDirective := ⟨target, none, false, some level⟩

/-- The more specific of two directives; of equally specific ones the later. -/
def prefer (best : Option LogDirective) (directive : LogDirective) : Option LogDirective :=
  match best with
  | some earlier => if directive.weight < earlier.weight then some earlier else some directive
  | none => some directive

end LogDirective

/-- Directives, the later ones over the earlier ones. -/
abbrev LogFilter := List LogDirective

namespace LogFilter

/-- The environment variable with directives. -/
def variableName : String := "RUST_LOG"

/-- The directive that decides on an entry. -/
def decisive (filter : LogFilter) (entry : LogEntry) : Option LogDirective :=
  (filter.filter (·.covers entry)).foldl LogDirective.prefer none

/-- Whether an entry is written. -/
def admits (filter : LogFilter) (entry : LogEntry) : Bool :=
  (filter.decisive entry).any (·.bound.admits entry.level)

/-- The directives of a text, between commas, and a warning for every part that is none. -/
def read (text : String) : LogFilter × List String :=
  let parts := ((splitAtMark ',' text.toList).filter fun part => !part.isEmpty).map String.ofList
  (parts.filterMap fun part => (LogDirective.parse part).toOption,
    parts.filterMap fun part =>
      match LogDirective.parse part with
      | .ok _ => none
      | .error fault => some ("ignoring `" ++ part ++ "`: " ++ fault.message))

/-- The directives that hold beside those of the environment: the level asked for, and quiet libraries. -/
def standing (level : LogLevel) : LogFilter :=
  [.ofTarget none level, .ofTarget (some "hyper") .warn, .ofTarget (some "kube") .info,
    .ofTarget (some "tower") .warn]

end LogFilter

end CommandLine

end StorageConfig
