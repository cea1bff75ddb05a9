import AuthorNames.Log.Event
import AuthorNames.Text.Blank
import AuthorNames.Unicode.StepTable
/-!
Which events are shown. A filter is a list of rules, each for the sources whose names begin in a
certain way; the rule with the longest beginning decides, and of two with the same the later one.
-/

namespace AuthorNames.Log

open AuthorNames.Text AuthorNames.Unicode

/-- The events shown of the sources whose names begin with `beginning`: those of the first `depth`
levels. -/
structure Rule where
  beginning : List Char
  depth : Nat
  deriving DecidableEq, Repr

/-- The rules that say which events are shown. -/
structure Filter where
  rules : List Rule
  deriving DecidableEq, Repr

namespace Filter

/-- The filter that shows events up to a level, whatever their source. -/
def upTo (level : Level) : Filter :=
  ⟨[⟨[], level.rank⟩]⟩

/-- The number of levels that a number or the name of a level stands for. -/
def depthOf? (text : List Char) : Option Nat :=
  let digits := match text with
    | '+' :: rest => rest
    | _ => text
  if !digits.isEmpty ∧ digits.all Char.isDigit then
    let value := digits.foldl (fun n d => min (n * 10 + (d.toNat - 48)) 6) 0
    if value ≤ 5 then some value else none
  else
    match String.ofList (text.map Char.toLower) with
    | "off" => some 0
    | "error" => some 1
    | "warn" => some 2
    | "info" => some 3
    | "debug" => some 4
    | "trace" => some 5
    | _ => none

/-- Whether a rule may begin with the character. -/
def mayBegin (c : Char) : Bool :=
  c.isAlphanum || c == '-' || c == ':' || c == '_' || c.toNat ≥ 0x80

/-- The rule that a text writes: a level for all sources, a source for all levels, or a source, an
equals sign and a level. Where brackets follow the source the rule is for a stretch of the run of
that name, and there is none. -/
def rulesOf? (text : List Char) : Option (List Rule) :=
  match trimmed text with
  | [] => none
  | first :: rest =>
    let name := (first :: rest).takeWhile fun c => c ≠ '=' ∧ c ≠ '['
    if first = '[' then some []
    else if !mayBegin first then none
    else
      match (first :: rest).drop name.length with
      | [] => some [match depthOf? text with
        | some depth => ⟨[], depth⟩
        | none => ⟨text, 5⟩]
      | '[' :: _ => some []
      | _ =>
        match text.drop (name.length + 1) with
        | [] => some [⟨text.take name.length, 5⟩]
        | level => (depthOf? level).map fun depth => [⟨text.take name.length, depth⟩]

/-- The filter that a text writes, rule by rule with commas between them. A text without any rule
shows errors only, and one with a rule that cannot be read is no filter. -/
def ofText? (text : String) : Option Filter := do
  let parts := (splitWhere (· == ',') text.toList).filter (· ≠ [])
  if parts.isEmpty then return upTo .error
  return ⟨(← parts.mapM rulesOf?).flatten⟩

/-- The filter of a run: the one that its environment asks for, if it can be read, or else the one
that its command line asks for. -/
def ofRun (environment : Option String) (verbosity : UInt8) : Filter :=
  (environment.bind ofText?).getD (upTo (.ofVerbosity verbosity))

/-- The better of two rules for a source: the one with the longer beginning, or the later one. -/
def better (best : Option Rule) (rule : Rule) : Option Rule :=
  match best with
  | some b => if b.beginning.length ≤ rule.beginning.length then some rule else some b
  | none => some rule

/-- The rule that decides about a source. -/
def ruleFor? (filter : Filter) (source : String) : Option Rule :=
  (filter.rules.filter fun rule => rule.beginning.isPrefixOf source.toList).foldl better none

/-- Whether an event is shown. -/
def shows (filter : Filter) (e : Event) : Bool :=
  (filter.ruleFor? e.source).any fun rule => e.level.rank ≤ rule.depth

end Filter

end AuthorNames.Log
