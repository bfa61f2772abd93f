import SourceCookie.Log
import SourceCookie.Number.Binary64
import SourceCookie.Text.Blank
import SourceCookie.Text.Offset
import SourceCookie.Text.Pattern

/-!
Directives of a log filter: a level, a target, or `target[span{field=value}]=level`, where every part may
be missing. Blanks around a directive are passed over, but the offsets of the parts do not count them,
so after a leading blank every part is cut out too early.
-/

namespace SourceCookie.Log

inductive Threshold where
  | off
  | upTo (level : Level)
  deriving DecidableEq

namespace Threshold

def rank : Threshold → Nat
  | off => 0
  | upTo level => level.rank

def all : List Threshold := [off, upTo .error, upTo .warn, upTo .info, upTo .debug, upTo .trace]

def name : Threshold → String
  | off => "off"
  | upTo level => level.name

def parse? (s : List Char) : Option Threshold :=
  let digits := match s with
    | '+' :: rest => rest
    | _ => s
  match Digits.decimal? digits with
  | some n => all.find? (·.rank = n)
  | none => all.find? (·.name.toList = s.map Char.toLower)

end Threshold

structure FieldMatch where
  name : String
  /-- Whether the field must have a certain value, which only spans can meet. -/
  hasValue : Bool
  deriving DecidableEq

structure Directive where
  target : Option String := none
  span : Option String := none
  field : Option FieldMatch := none
  threshold : Threshold := .upTo .trace
  deriving DecidableEq

namespace Directive

inductive Fault where
  | malformed
  | unknownLevel
  | badPattern (fault : Pattern.Fault)
  deriving DecidableEq

def Fault.render : Fault → String
  | malformed => "invalid filter directive"
  | unknownLevel =>
    "error parsing level filter: expected one of \x22off\x22, \x22error\x22, \x22warn\x22, "
      ++ "\x22info\x22, \x22debug\x22, \x22trace\x22, or a number 0-5"
  | badPattern fault => "invalid field filter: " ++ fault.render

def readThreshold (s : List Char) : Except Fault Threshold :=
  if s = [] then .ok (.upTo .trace)
  else match Threshold.parse? s with
    | some t => .ok t
    | none => .error .unknownLevel

def readField (s : List Char) : Except Fault FieldMatch :=
  let name := s.takeWhile (· != '=')
  match s.drop name.length with
  | [] => if name = [] then .error .malformed else .ok ⟨String.ofList name, false⟩
  | _ :: value =>
    let value := value.takeWhile (· != '=')
    if (Binary64.parse? value).isSome then .ok ⟨String.ofList name, true⟩
    else match Pattern.fault? value with
      | none => .ok ⟨String.ofList name, true⟩
      | some fault => .error (.badPattern fault)

inductive Place where
  | start
  | word (first : Nat)
  | span (first : Nat)
  | field (first : Nat)
  | afterField
  | afterSpan
  | level (first : Nat)

def isStart (c : Char) : Bool :=
  c == '-' || c == ':' || c == '_' || CharClass.isAlphanumeric c

def cut (first last : Nat) (whole : List Char) : Except Fault (List Char) :=
  match Offset.cut? first last whole with
  | some part => .ok part
  | none => .error .malformed

def next (whole : List Char) (d : Directive) (p : Place) (offset : Nat) (c : Char)
    : Except Fault (Directive × Place) :=
  match p with
  | .start =>
    if c = '[' then .ok (d, .span (offset + 1))
    else if isStart c then .ok (d, .word offset)
    else .error .malformed
  | .word first =>
    if c = '=' ∨ c = '[' then do
      let target ← cut first offset whole
      return ({ d with target := some (String.ofList target) },
        if c = '=' then .level (offset + 1) else .span (offset + 1))
    else .ok (d, p)
  | .span first =>
    if c = ']' then do
      let span ← cut first offset whole
      return ({ d with span := some (String.ofList span) }, .afterSpan)
    else if c = '\x7b' then do
      let span ← cut first offset whole
      return ({ d with span := if span = [] then none else some (String.ofList span) },
        .field (offset + 1))
    else .ok (d, p)
  | .field first =>
    if c = '\x7d' then do
      let field ← readField (← cut first offset whole)
      return ({ d with field := some field }, .afterField)
    else .ok (d, p)
  | .afterField => if c = ']' then .ok (d, .afterSpan) else .error .malformed
  | .afterSpan => if c = '=' then .ok (d, .level (offset + 1)) else .error .malformed
  | .level _ => .ok (d, p)

def finish (whole : List Char) (d : Directive) : Place → Except Fault Directive
  | .word first => do
    let word ← cut first (Offset.size whole) whole
    match Threshold.parse? word with
    | some threshold => return { d with threshold }
    | none => return { d with target := some (String.ofList word) }
  | .level first => do
    let threshold ← readThreshold (← cut first (Offset.size whole) whole)
    return { d with threshold }
  | .afterSpan => .ok d
  | _ => .error .malformed

def parse (s : List Char) : Except Fault Directive := do
  let (d, p) ← (Offset.withOffsets 0 (Blank.trim s)).foldlM
    (fun (d, p) (offset, c) => next s d p offset c) ({}, .start)
  finish s d p

/-- Whether the directive can decide about records that are in no span. -/
def isStatic (d : Directive) : Bool :=
  d.span.isNone && !(d.field.any FieldMatch.hasValue)

def covers (d : Directive) (r : Record) : Bool :=
  d.isStatic
    && d.target.all (fun target => target.toList.isPrefixOf r.target.toList)
    && d.field.all (fun field => field.name = "message" || (r.fields.lookup field.name).isSome)

/-- Whether one of two directives about the same record describes it at least as closely as the other. -/
def atLeastAsClose (d other : Directive) : Bool :=
  let size (d : Directive) := d.target.map String.utf8ByteSize
  if size d ≠ size other then
    match size d, size other with
    | some n, some m => m < n
    | some _, none => true
    | none, _ => false
  else match d.field, other.field with
    | _, none => true
    | none, some _ => false
    | some f, some g => g.name ≤ f.name

end Directive

end SourceCookie.Log
