import TaskRunner.Host.Shell.Pattern

/-! Words from expanded text. Values that stood without quotes are cut into fields at separators.
Separators that are blank count once however many there are, with one that is not blank among them;
they make no field at the front. The gap between parameters separates everywhere. -/

namespace TaskRunner.Host.Shell

inductive Splitting where
  | never
  | atSeparators
  | atGaps
  deriving DecidableEq, Repr

structure Segment where
  splitting : Splitting
  glyphs : List Glyph
  deriving Repr

/-- A text while it is cut. The glyphs of the open field stand with the last one first. -/
structure Cutting where
  fields : List (List Glyph) := []
  field : List Glyph := []
  afterBlank : Bool := false
  wanted : Option Nat := none
  kept : Option Nat := none
  inGaps : Bool := false

namespace Cutting

def isBlankSeparator : Glyph → Bool
  | .gap => true
  | .char c | .guarded c => c = ' ' || c = '\t' || c = '\n'
  | .mark => false

def isSeparator (separators : List Char) : Glyph → Bool
  | .gap => true
  | .char c | .guarded c => separators.contains c
  | .mark => false

def keep (c : Cutting) (glyph : Glyph) : Cutting := { c with field := glyph :: c.field }

def keepLast (c : Cutting) (separator blank : Bool) (glyph : Glyph) : Cutting :=
  if blank then ({ c with kept := c.kept.or (some c.field.length) }).keep glyph
  else
    ({ c with
      kept := if separator && c.afterBlank then c.kept else none
      afterBlank := false }).keep glyph

def cut (c : Cutting) (cutsGaps blank : Bool) (glyph : Glyph) : Cutting :=
  let afterBlank := !cutsGaps && blank
  if c.field.isEmpty && afterBlank then { c with afterBlank := false }
  else
    match c.wanted with
    | some 1 =>
      ({ c with wanted := some 0, kept := some c.field.length, afterBlank }).keep glyph
    | wanted =>
      { c with
        wanted := wanted.map (· - 1), fields := c.field.reverse :: c.fields, field := []
        afterBlank }

def glyph (separators : List Char) (cutsGaps : Bool) (c : Cutting) (g : Glyph) : Cutting :=
  let separator := isSeparator separators g
  let blank := separator && isBlankSeparator g
  if c.wanted = some 0 then c.keepLast separator blank g
  else if c.afterBlank then
    let c := { c with field := [] }
    if blank then c
    else if separator then { c with afterBlank := false }
    else ({ c with afterBlank := false }).keep g
  else if separator then c.cut cutsGaps blank g
  else c.keep g

def segment (separators : List Char) (c : Cutting) (s : Segment) : Cutting :=
  match s.splitting with
  | .never => { c with field := s.glyphs.reverse ++ c.field }
  | .atSeparators =>
    s.glyphs.foldl (glyph separators c.inGaps) { c with afterBlank := false, inGaps := false }
  | .atGaps => s.glyphs.foldl (glyph [] true) { c with afterBlank := false, inGaps := true }

def close (c : Cutting) : List (List Glyph) :=
  let field := c.field.reverse
  let all (last : List (List Glyph)) : List (List Glyph) := c.fields.reverse ++ last
  if c.inGaps then all [field]
  else
    let field :=
      match c.kept with
      | some size => field.take size
      | none => field
    match field with
    | [] | .gap :: _ => all []
    | field => all [field]

end Cutting

def fields (separators : List Char) (text : List Segment) (wanted : Option Nat := none) :
    List (List Glyph) :=
  (text.foldl (Cutting.segment separators) { wanted }).close

end TaskRunner.Host.Shell
