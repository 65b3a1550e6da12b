import EntityProjection.Log.Event
import EntityProjection.Log.Pattern

/-!
# Log directives

A directive says how much is logged, for what it names: the modules under a target, events with
given fields, or what happens in a span.  Its forms are `level`, `target`, `target=level` and
`target[span{field=value}]=level`, where everything but the bracket or the target may be
missing.

* `LogDirective.parse?`: the directive of a text;
* `LogDirective.listOf?`: the directives of a text in which they are divided by commas.
-/

namespace EntityProjection

/-- A directive. -/
structure LogDirective where
  /-- The verbosity up to which events are logged, zero for none. -/
  limit : Nat := LogLevel.trace.verbosity
  target : Option String := none
  span : Option String := none
  /-- Names of fields, and the texts of their values where they matter. -/
  fields : List (String × Option String) := []
  deriving DecidableEq, Repr, Inhabited

namespace LogDirective

/-- Whether the directive concerns spans. -/
def isDynamic (d : LogDirective) : Bool :=
  d.span.isSome || !d.fields.isEmpty

/-- Whether the directive concerns events wherever they happen. -/
def isStatic (d : LogDirective) : Bool :=
  d.span.isNone && d.fields.all fun field => field.2.isNone

/-! ### Parts -/

/-- The number that digits write, perhaps behind a plus sign. -/
def number? (cs : List Char) : Option Nat :=
  let digits := match cs with
    | '+' :: digits => digits
    | cs => cs
  if digits.isEmpty || !digits.all Char.isDigit then none
  else some (digits.foldl (fun n c => n * 10 + (c.toNat - 48)) 0)

/-- The verbosity that a number or the name of a level stands for. -/
def limit? (text : String) : Option Nat :=
  match number? text.toList with
  | some n => if n ≤ LogLevel.trace.verbosity then some n else none
  | none =>
    if text.toUpper == "OFF" then some 0
    else (LogLevel.ofName? text).map LogLevel.verbosity

/-- The verbosity behind an equals sign, where nothing stands for everything. -/
def limitOrAll? (cs : List Char) : Option Nat :=
  if cs.isEmpty then some LogLevel.trace.verbosity else limit? (String.ofList cs)

/-- A character that a target may start with: a letter, a number or one of three marks. -/
def startsWord (c : Char) : Bool :=
  c == '-' || c == ':' || c == '_' || Text.isAlphanumeric c

/-- A number without sign, perhaps with a fraction and an exponent, or one that is not finite. -/
def isNumber (cs : List Char) : Bool :=
  if ["inf", "infinity", "nan"].contains (String.ofList (cs.map Char.toLower)) then true
  else
    let (mantissa, exponent) := cs.span fun c => c != 'e' && c != 'E'
    let digits := mantissa.erase '.'
    let power := match exponent.drop 1 with
      | '+' :: power => power
      | '-' :: power => power
      | power => power
    !digits.isEmpty && digits.all Char.isDigit &&
      (exponent.isEmpty || (!power.isEmpty && power.all Char.isDigit))

/-- The text of a value: a pattern, or a number with a plus sign. -/
def isValue (cs : List Char) : Bool :=
  Pattern.isWellFormed cs || (cs.head? == some '+' && isNumber (cs.drop 1))

/-- A field, perhaps with the text of its value. -/
def field? (cs : List Char) : Option (String × Option String) :=
  match cs.span (· != '=') with
  | ([], []) => none
  | (name, []) => some (String.ofList name, none)
  | (name, _ :: rest) =>
    let value := rest.takeWhile (· != '=')
    if isValue value then some (String.ofList name, some (String.ofList value)) else none

/-! ### Directives

The parts of a directive are found in the text without the blanks around it, and are taken from the
text itself at the same places; so the readers go through both. -/

/-- The level behind the bracket of a span. -/
def finish? (d : LogDirective) : List Char → List Char → Option LogDirective
  | [], _ => some d
  | '=' :: _, source => do return { d with limit := ← limitOrAll? (source.drop 1) }
  | _, _ => none

/-- The span behind its opening bracket, and the rest of the directive. -/
def readSpan? (d : LogDirective) (cs source : List Char) : Option LogDirective :=
  match cs.span fun c => c != ']' && c != '\x7b' with
  | (name, ']' :: rest) =>
    { d with span := some (String.ofList (source.take name.length)) }.finish? rest
      (source.drop (name.length + 1))
  | (name, '\x7b' :: rest) =>
    let inside := source.drop (name.length + 1)
    match rest.span (· != '\x7d') with
    | (field, '\x7d' :: ']' :: rest) => do
      let entry ← field? (inside.take field.length)
      let span := if name.isEmpty then none else some (String.ofList (source.take name.length))
      { d with span, fields := [entry] }.finish? rest (inside.drop (field.length + 2))
    | _ => none
  | _ => none

/-- The directive of a text, which holds no comma. -/
def parse? (text : String) : Option LogDirective :=
  let source := text.toList
  match (Text.trim text).toList with
  | '[' :: cs => readSpan? {} cs (source.drop 1)
  | cs =>
    if !cs.head?.any startsWord then none
    else
      match cs.span fun c => c != '=' && c != '[' with
      | (_, []) =>
        match limit? text with
        | some limit => some { limit }
        | none => some { target := some text }
      | (word, mark :: rest) =>
        let target := some (String.ofList (source.take word.length))
        let source := source.drop (word.length + 1)
        if mark == '=' then do return { target, limit := ← limitOrAll? source }
        else readSpan? { target } rest source

/-! ### Lists -/

/-- The parts of a text between commas. -/
def splitCommas : List Char → List (List Char)
  | [] => [[]]
  | ',' :: rest => [] :: splitCommas rest
  | c :: rest =>
    match splitCommas rest with
    | [] => [[c]]
    | part :: parts => (c :: part) :: parts

/-- The parts of a text between commas. -/
def partsOf (text : String) : List String :=
  (splitCommas text.toList).map String.ofList

/-- The directives of a text, unless one of them is ill-formed.  Empty parts are passed over. -/
def listOf? (text : String) : Option (List LogDirective) :=
  ((partsOf text).filter fun part => !part.isEmpty).mapM parse?

end LogDirective

end EntityProjection
