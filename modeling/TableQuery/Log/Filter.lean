import TableQuery.Log.Event
import TableQuery.Log.Pattern.Read
import TableQuery.Text.Utf8

/-!
# Filters — which events are logged

A filter is a text of rules with commas between them. It decides of each
event whether it is logged.
-/

namespace TableQuery

namespace Log

/-! ## Rules

A rule names a part of the program, a span with a field, or neither, and
the level for the events it is about:

* `debug` is a level for every event;
* `csvql` lets every event of a part through;
* `csvql=debug` is a level for a part;
* `csvql[span{field=value}]=debug` also asks for a span and a field.

A word alone is a level if it can be one, and else a part. The parts of a
rule are found in the rule without the blanks around it, but are cut out
of the rule as written, so a blank in front moves every cut. Places are
counted in bytes, and a moved cut may fall inside a character. -/

/-- What a rule asks of the fields of an event. -/
structure FieldTest where
  name : String
  hasValue : Bool
  deriving DecidableEq, Repr

/-- One rule of a filter. -/
structure Rule where
  level : Level := .trace
  part : Option String := none
  span : Option String := none
  field : Option FieldTest := none
  deriving DecidableEq, Repr

/-- Why a text cannot be read as a rule. -/
inductive RuleFault
  | unreadable
  /-- A cut falls inside a character. -/
  | splitCharacter
  deriving DecidableEq, Repr

namespace Rule

/-! ### Reading -/

/-- Where in a rule the reading stands, with the place where the piece it
is in began. -/
inductive Stage
  | start
  /-- In a level or the name of a part. -/
  | word (began : Nat)
  | span (began : Nat)
  | field (began : Nat)
  /-- Behind the field. -/
  | fieldEnd
  /-- Behind the span. -/
  | spanEnd
  | level (began : Nat)
  deriving DecidableEq, Repr

/-- The text from one place on. -/
def cutFrom (text : List Char) (i : Nat) : Except RuleFault String :=
  match Text.dropBytes? i text with
  | some cs => .ok (String.ofList cs)
  | none => .error .splitCharacter

/-- The text from one place up to another. -/
def cut (text : List Char) (i j : Nat) : Except RuleFault String :=
  match (Text.dropBytes? i text).bind (Text.takeBytes? (j - i)) with
  | some cs => .ok (String.ofList cs)
  | none => .error .splitCharacter

/-- Whether a rule may start with the character, apart from a bracket. -/
def isStart (c : Char) : Bool :=
  c == '-' || c == ':' || c == '_' || Text.isAlphanumeric c

/-- The field that a text asks for. A value ends before a second equals
sign. -/
def fieldTest (text : String) : Except RuleFault FieldTest :=
  if text = "" then .error .unreadable
  else
    let name := String.ofList (text.toList.takeWhile (· ≠ '='))
    match text.toList.dropWhile (· ≠ '=') with
    | [] => .ok ⟨name, false⟩
    | _ :: cs =>
      if isValueTest (cs.takeWhile (· ≠ '=')) then .ok ⟨name, true⟩ else .error .unreadable

/-- The level that a text names; a missing one lets everything through. -/
def levelOf (text : String) : Except RuleFault Level :=
  if text = "" then .ok .trace
  else
    match Level.ofText? text with
    | some l => .ok l
    | none => .error .unreadable

/-- The rule and the stage behind the character at place `i`. -/
def step (text : List Char) (r : Rule) (i : Nat) (c : Char) :
    Stage → Except RuleFault (Rule × Stage)
  | .start =>
    if c = '[' then .ok (r, .span (i + 1))
    else if isStart c then .ok (r, .word i)
    else .error .unreadable
  | .word began =>
    if c = '=' then do
      let part ← cut text began i
      .ok ({ r with part := some part }, .level (i + 1))
    else if c = '[' then do
      let part ← cut text began i
      .ok ({ r with part := some part }, .span (i + 1))
    else .ok (r, .word began)
  | .span began =>
    if c = ']' then do
      let span ← cut text began i
      .ok ({ r with span := some span }, .spanEnd)
    else if c = '\x7b' then do
      let span ← cut text began i
      .ok ({ r with span := some span |>.filter (· ≠ "") }, .field (i + 1))
    else .ok (r, .span began)
  | .field began =>
    if c = '\x7d' then do
      let field ← fieldTest (← cut text began i)
      .ok ({ r with field := some field }, .fieldEnd)
    else .ok (r, .field began)
  | .fieldEnd => if c = ']' then .ok (r, .spanEnd) else .error .unreadable
  | .spanEnd => if c = '=' then .ok (r, .level (i + 1)) else .error .unreadable
  | .level began => .ok (r, .level began)

/-- The rule at the end of the text. -/
def finish (text : List Char) (r : Rule) : Stage → Except RuleFault Rule
  | .word began => do
    let word ← cutFrom text began
    match Level.ofText? word with
    | some l => .ok { r with level := l }
    | none => .ok { r with part := some word }
  | .level began => do
    let level ← levelOf (← cutFrom text began)
    .ok { r with level := level }
  | .spanEnd => .ok r
  | _ => .error .unreadable

/-- Reads the characters from place `i` on. -/
def read (text : List Char) (r : Rule) (stage : Stage) (i : Nat) :
    List Char → Except RuleFault Rule
  | [] => finish text r stage
  | c :: cs =>
    match step text r i c stage with
    | .error fault => .error fault
    | .ok (r, stage) => read text r stage (i + c.utf8Size) cs

/-- The rule that a text spells. -/
def ofText (text : String) : Except RuleFault Rule :=
  let cs := text.toList
  read cs {} .start 0 (Text.dropBlanks (Text.dropTrailingBlanks cs))

/-! ### Meaning -/

/-- Whether the part of an event belongs to the part of the rule. -/
def coversPart (r : Rule) (e : Event) : Bool :=
  match r.part with
  | none => true
  | some part => part.toList.isPrefixOf e.part.toList

/-- Whether an event has the field the rule asks for. No event carries a
value to compare. -/
def coversFields (r : Rule) (e : Event) : Bool :=
  match r.field with
  | none => true
  | some f => !f.hasValue && e.fields.contains f.name

/-- Whether the rule is about an event. No event lies in a span. -/
def covers (r : Rule) (e : Event) : Bool :=
  r.span.isNone && r.coversPart e && r.coversFields e

/-- How closely a rule looks at the part. -/
def partLength (r : Rule) : Nat :=
  match r.part with
  | none => 0
  | some part => part.length + 1

/-- The field name that orders rules with parts of one length. -/
def fieldName (r : Rule) : String :=
  match r.field with
  | none => ""
  | some f => f.name

/-- Whether `r` is closer to an event than `s`: the longer part first,
then a field, then the later field name. -/
def closer (r s : Rule) : Bool :=
  if r.partLength = s.partLength then
    if r.field.isSome = s.field.isSome then s.fieldName < r.fieldName
    else r.field.isSome
  else s.partLength < r.partLength

end Rule

/-! ## Filters

A filter is a list of rules. Of the rules about an event the closest one
decides, and of two equally close ones the later. An event that no rule is
about is not logged.

The variable with the filter is used if all of its rules can be read. If
not, the settings decide, where unreadable rules are reported and left
out. A rule that would be cut inside a character leaves no filter at all,
unless an unreadable rule of the variable comes before it. -/

/-- The rules of a filter. -/
abbrev Filter :=
  List Rule

namespace Filter

/-- The rule that decides about an event. -/
def deciding? (f : Filter) (e : Event) : Option Rule :=
  (f.filter (·.covers e)).foldl
    (fun best r => if best.any (·.closer r) then best else some r) none

/-- Whether the filter lets an event through. -/
def admits (f : Filter) (e : Event) : Bool :=
  (f.deciding? e).any fun r => e.level.rank ≤ r.level.rank

/-- The filter with the given rules. Without rules, errors are logged. -/
def ofRules : List Rule → Filter
  | [] => [{ level := .error }]
  | rs => rs

/-- The texts of the rules of a filter. -/
def pieces (text : String) : List String :=
  (text.splitOn ",").filter (· ≠ "")

/-- The filter that a text spells, if every rule can be read. -/
def ofText (text : String) : Except RuleFault Filter := do
  let rules ← (pieces text).mapM Rule.ofText
  .ok (ofRules rules)

/-- The filter of the rules that can be read. -/
def ofReadable (text : String) : Filter :=
  ofRules ((pieces text).filterMap fun piece => (Rule.ofText piece).toOption)

/-- The texts that end in a fault. -/
def faulty (fault : RuleFault) (text : String) : List String :=
  (pieces text).filter fun piece =>
    match Rule.ofText piece with
    | .ok _ => false
    | .error f => f == fault

end Filter

/-- The variable whose filter comes before that of the settings. -/
def filterVariable : String :=
  "RUST_LOG"

/-- A filter, and what there is to say, in short, about how it was spelt. -/
structure Setup where
  filter : Filter
  complaints : List String := []
  deriving DecidableEq, Repr

namespace Setup

/-- The filter that the settings spell. None if a rule would be cut inside
a character. -/
def ofSettings (text : String) : Option Setup :=
  if Filter.faulty .splitCharacter text = [] then
    some ⟨.ofReadable text,
      (Filter.faulty .unreadable text).map fun piece => "ignoring rule: " ++ piece⟩
  else none

/-- The filter of the variable, or else that of the settings. None if a
rule would be cut inside a character. -/
def choose (asked : Option String) (text : String) : Option Setup :=
  match asked.map Filter.ofText with
  | some (.ok filter) => some ⟨filter, []⟩
  | some (.error .splitCharacter) => none
  | _ => ofSettings text

/-- The log of the given events. -/
def log (s : Setup) (es : List Event) : List String :=
  s.complaints ++ (es.filter s.filter.admits).map Event.line

end Setup

end Log

end TableQuery
