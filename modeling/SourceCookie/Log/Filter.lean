import SourceCookie.Log.Directive

/-!
Which log records are shown. A filter is a list of directives with commas between them. Of those that are
about a record, the one that describes it most closely decides; a record without one is not shown.
-/

namespace SourceCookie.Log

abbrev Filter := List Directive

namespace Filter

def default : Filter := [{ threshold := .upTo .error }]

def parts (s : String) : List (List Char) :=
  ((s.splitOn ",").map String.toList).filter (· ≠ [])

def ofDirectives (directives : List Directive) : Filter :=
  if directives = [] then default else directives

def parse? (s : String) : Option Filter :=
  match (parts s).mapM Directive.parse with
  | .ok directives => some (ofDirectives directives)
  | .error _ => none

def parseLenient (s : String) : Filter × List (String × Directive.Fault) :=
  let read := (parts s).map fun part => (String.ofList part, Directive.parse part)
  (ofDirectives (read.filterMap fun (_, d) => d.toOption),
    read.filterMap fun (part, d) =>
      match d with
      | .ok _ => none
      | .error fault => some (part, fault))

/-- The directive that decides about a record; of equally close ones, the last. -/
def decisive? (f : Filter) (r : Record) : Option Directive :=
  (f.filter (·.covers r)).foldl
    (fun best d =>
      match best with
      | some b => if d.atLeastAsClose b then some d else some b
      | none => some d)
    none

def shows (f : Filter) (r : Record) : Bool :=
  match f.decisive? r with
  | some d => r.level.rank ≤ d.threshold.rank
  | none => false

end Filter

end SourceCookie.Log
