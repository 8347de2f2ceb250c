import StreamWatch.Text.Case

namespace StreamWatch.Text

/-! # Lower-casing a text

Every letter with a lower-case letter is replaced by it, whatever its script. Two letters
need more than a table of single letters:

* the dotted capital I becomes an i and a combining dot;
* the capital sigma becomes a final sigma where it ends a word (`endsWord`).

The main definitions are `lowercase` and the search `occursIn`, which looks for a text
inside another one.
-/

/-- The lower-case letter of a single run, if the character is in it. -/
def LowerRun.apply? (run : LowerRun) (c : Char) : Option Char :=
  if run.first ≤ c.toNat ∧ c.toNat ≤ run.last ∧ (c.toNat - run.first) % run.step = 0 then
    some (Char.ofNat ((c.toNat : Int) + run.shift).toNat)
  else none

/-- The lower-case form of a character that stands alone. -/
def lowerChar (c : Char) : List Char :=
  if c.toNat < 0x80 then [c.toLower]
  else if c = '\u0130' then ['i', '\u0307']
  else [(lowerRuns.findSome? fun run => run.apply? c).getD c]

/-- Does the nearest character that is no case-neutral mark have case? -/
def nearestIsCased (cs : List Char) : Bool :=
  match cs.dropWhile (inRanges caseNeutralRanges) with
  | [] => false
  | c :: _ => inRanges casedRanges c

/-- Does a letter end a word, given what stands before it, nearest first, and after it? -/
def endsWord (before after : List Char) : Bool :=
  nearestIsCased before && !nearestIsCased after

/-- Lower-cases what follows `before`, which is given nearest first. -/
def lowerAfter (before : List Char) : List Char → List Char
  | [] => []
  | c :: rest =>
    let low :=
      if c = '\u03A3' then [if endsWord before rest then '\u03C2' else '\u03C3']
      else lowerChar c
    low ++ lowerAfter (c :: before) rest

/-- The lower-case form of a text. -/
def lowercase (s : String) : String := String.ofList (lowerAfter [] s.toList)

/-- Does `needle` stand somewhere in a list of characters? -/
def standsIn (needle : List Char) : List Char → Bool
  | [] => needle.isEmpty
  | c :: rest => needle.isPrefixOf (c :: rest) || standsIn needle rest

/-- Does `needle` stand somewhere in `text`? -/
def occursIn (needle text : String) : Bool := standsIn needle.toList text.toList

end StreamWatch.Text
