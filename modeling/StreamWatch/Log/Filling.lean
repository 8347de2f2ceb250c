import StreamWatch.Log.Conversion
import StreamWatch.Log.Template

namespace StreamWatch.Log

/-! # Filling templates

The directives of a template take arguments one after the other, or by a key from a record:

* `Supply`: the arguments that a template is filled with;
* `fill`: the text of a template with its arguments.

Everything is looked at from left to right, so the first thing that is wrong is the fault. -/

/-- Where the directives of a template take their arguments from. -/
structure Supply where
  /-- What keys are looked up in. -/
  source : Option Datum
  /-- The arguments that have not been taken yet. -/
  waiting : List Datum

namespace Supply

/-- One datum as the only argument. Keys are looked up in it if it has parts. -/
def ofDatum (d : Datum) : Supply :=
  match d with
  | .list _ | .record _ => ⟨some d, [d]⟩
  | _ => ⟨none, [d]⟩

/-- Arguments one after the other. A single record with entries is there for its keys. -/
def ofList : List Datum → Supply
  | [.record (entry :: others)] => ofDatum (.record (entry :: others))
  | arguments => ⟨none, arguments⟩

/-- Is an argument left over? What keys are looked up in never is. -/
def isLeft (s : Supply) : Bool := s.source.isNone && !s.waiting.isEmpty

end Supply

/-- A text that is written from a supply. -/
abbrev Filling := StateT Supply (Except LogFault)

namespace Filling

/-- Takes the next argument. -/
def next : Filling Datum := do
  match (← get).waiting with
  | [] => throw .tooFewArguments
  | argument :: others =>
    modify fun s => { s with waiting := others }
    return argument

/-- Puts what stands under a key in the place of the arguments. -/
def lookUp (key : Key) : Filling Unit := do
  match key, (← get).source with
  | .absent, _ => return
  | _, none => throw .recordExpected
  | .unclosed, _ => throw .unclosedKey
  | .named name, some (.record entries) =>
    match Table.get? name entries with
    | some value => modify fun s => { s with waiting := [value] }
    | none => throw (.unknownKey name)
  | .named _, some _ => throw (.misuse (.noKeys "str"))

/-- Takes an argument that has to be an integer. -/
def nextInteger : Filling Int := do
  match ← next with
  | .int n => return n
  | .bool b => return if b then 1 else 0
  | _ => throw .integerExpected

/-- The greatest width. -/
def greatestWidth : Nat := 0x7FFFFFFFFFFFFFFF

/-- The greatest precision. -/
def greatestPrecision : Nat := 0x7FFFFFFF

/-- The value of a measure, if there is one. -/
def measured (greatest : Nat) (tooGreat outOfRange : LogFault) :
    Measure → Filling (Option Int)
  | .absent => return none
  | .written n => if greatest < n then throw tooGreat else return some n
  | .argument => do
    let n ← nextInteger
    if (greatest : Int) < n ∨ n < -(greatest : Int) - 1 then throw outOfRange
    else return some n

/-- What a directive says, and the letter it ends in. A negative width means that the argument
    stands on the left, and a negative precision is zero. -/
def mannerOf (d : Directive) : Filling Manner := do
  let width ← measured greatestWidth .tooWide .widthOutOfRange d.width
  let precision ← measured greatestPrecision .tooPrecise .precisionOutOfRange d.precision
  match d.letter with
  | none => throw .unfinishedDirective
  | some letter =>
    return {
      letter := letter
      flags := d.flags
      onLeft := d.flags.contains '-' || width.any (· < 0)
      width := (width.getD 0).natAbs
      precision := precision.map Int.toNat }

/-- Writes the argument of a directive that ends at a place. -/
def writeDirective (place : Nat) (d : Directive) : Filling (List Char) := do
  lookUp d.key
  let manner ← mannerOf d
  let argument ← next
  match Conversion.ofLetter? manner.letter with
  | some conversion => manner.write argument conversion
  | none => throw (.unknownLetter manner.letter place)

/-- Writes the pieces of a template. -/
def writePieces : List Piece → Filling (List Char)
  | [] => return []
  | .literal c :: rest => return c :: (← writePieces rest)
  | .directive place d :: rest => do
    let text ← writeDirective place d
    return text ++ (← writePieces rest)

end Filling

/-- The text of a template with its arguments, all of which it has to use. -/
def fill (template : String) (supply : Supply) : Except LogFault String := do
  let (text, left) ← (Filling.writePieces (pieces template.toList)).run supply
  if left.isLeft then throw .tooManyArguments
  return String.ofList text

end StreamWatch.Log
