import StreamWatch.Text.Fields

namespace StreamWatch.Log

/-! # Templates

The text of an event may hold directives such as `%s`, each of which stands for one of the
arguments that come with the event. A directive is a percent sign and then, in this order and
all but the last as wanted:

* a key in parentheses;
* flags, of `-`, `+`, a blank, `#` and `0`;
* a width: a number, or a star for one that is an argument;
* a point and a precision, which is written like a width and is zero where it is missing;
* one of the letters `h`, `l` and `L`, which says nothing;
* a letter that says how the argument is written.

Two percent signs stand for one. `pieces` cuts a template into its characters and directives. -/

/-- A width or a precision. -/
inductive Measure where
  | absent
  | written (value : Nat)
  | argument
  deriving Repr, DecidableEq

/-- The key of a directive. -/
inductive Key where
  | absent
  | named (name : String)
  | unclosed
  deriving Repr, DecidableEq

/-- How one argument is written into a template. Without a letter the template has ended. -/
structure Directive where
  key : Key
  flags : List Char
  width : Measure
  precision : Measure
  letter : Option Char
  deriving Repr, DecidableEq

/-- A character of a template, or a directive with the place of its last character. -/
inductive Piece where
  | literal (c : Char)
  | directive (place : Nat) (d : Directive)
  deriving Repr, DecidableEq

/-! ### Reading a directive -/

/-- Reads a key up to its closing parenthesis. Parentheses inside a key come in pairs, of which
    `depth` are open. -/
def readName (depth : Nat) (read : List Char) : List Char → Option (List Char × List Char)
  | [] => none
  | c :: rest =>
    if c = ')' then
      match depth with
      | 0 => some (read.reverse, rest)
      | outer + 1 => readName outer (c :: read) rest
    else readName (if c = '(' then depth + 1 else depth) (c :: read) rest

/-- Reads a key, if there is one. -/
def readKey (text : List Char) : Key × List Char :=
  match text with
  | '(' :: rest =>
    match readName 0 [] rest with
    | some (name, after) => (.named (String.ofList name), after)
    | none => (.unclosed, [])
  | _ => (.absent, text)

/-- Is a character a flag? -/
def isFlag (c : Char) : Bool := "-+ #0".toList.contains c

/-- Reads a number or a star, if there is one. -/
def readMeasure (text : List Char) : Measure × List Char :=
  match text with
  | '*' :: rest => (.argument, rest)
  | _ =>
    let digits := text.takeWhile Char.isDigit
    (if digits.isEmpty then .absent else .written (Text.digitsValue digits),
      text.dropWhile Char.isDigit)

/-- Reads a point and a precision, if there is a point. -/
def readPrecision (text : List Char) : Measure × List Char :=
  match text with
  | '.' :: rest =>
    let found := readMeasure rest
    (if found.1 = .absent then .written 0 else found.1, found.2)
  | _ => (.absent, text)

/-- Drops a letter that says nothing, if there is one. -/
def dropSize (text : List Char) : List Char :=
  match text with
  | c :: rest => if "hlL".toList.contains c then rest else text
  | [] => []

/-- Reads what follows a percent sign. -/
def readDirective (text : List Char) : Directive × List Char :=
  let key := readKey text
  let width := readMeasure (key.2.dropWhile isFlag)
  let precision := readPrecision width.2
  let ending := dropSize precision.2
  (⟨key.1, key.2.takeWhile isFlag, width.1, precision.1, ending.head?⟩, ending.drop 1)

/-! ### What is read gets shorter -/

/-- What follows a key is shorter than the key with what follows it. -/
theorem length_readName {depth : Nat} {read text name rest : List Char}
    (h : readName depth read text = some (name, rest)) : rest.length ≤ text.length := by
  induction text generalizing depth read with
  | nil => simp [readName] at h
  | cons c text ih =>
    have shorter {d r} (h : readName d r text = some (name, rest)) :
        rest.length ≤ (c :: text).length := Nat.le_succ_of_le (ih h)
    by_cases hc : c = ')'
    · cases depth with
      | zero =>
        simp only [readName, if_pos hc, Option.some.injEq, Prod.mk.injEq] at h
        simp [h.2]
      | succ outer => exact shorter (by simpa [readName, hc] using h)
    · exact shorter (by simpa [readName, hc] using h)

/-- What follows a key is no longer than the text. -/
theorem length_readKey (text : List Char) : (readKey text).2.length ≤ text.length := by
  unfold readKey
  split
  · split
    · next h => exact Nat.le_succ_of_le (length_readName h)
    · simp
  · simp

/-- What a condition stops at is no longer than the text. -/
theorem length_dropWhile (p : Char → Bool) (text : List Char) :
    (text.dropWhile p).length ≤ text.length :=
  (List.dropWhile_sublist p).length_le

/-- What follows a width is no longer than the text. -/
theorem length_readMeasure (text : List Char) : (readMeasure text).2.length ≤ text.length := by
  unfold readMeasure
  split
  · simp
  · exact length_dropWhile _ _

/-- What follows a precision is no longer than the text. -/
theorem length_readPrecision (text : List Char) :
    (readPrecision text).2.length ≤ text.length := by
  unfold readPrecision
  split
  · exact Nat.le_succ_of_le (length_readMeasure _)
  · simp

/-- What follows a letter that says nothing is no longer than the text. -/
theorem length_dropSize (text : List Char) : (dropSize text).length ≤ text.length := by
  unfold dropSize
  split
  · split <;> simp
  · simp

/-- What follows a directive is no longer than the text. -/
theorem length_readDirective (text : List Char) :
    (readDirective text).2.length ≤ text.length := by
  have key := length_readKey text
  have flags := length_dropWhile isFlag (readKey text).2
  have width := length_readMeasure ((readKey text).2.dropWhile isFlag)
  have precision := length_readPrecision (readMeasure ((readKey text).2.dropWhile isFlag)).2
  have size := length_dropSize
    (readPrecision (readMeasure ((readKey text).2.dropWhile isFlag)).2).2
  simp only [readDirective, List.length_drop]
  omega

/-! ### Reading a template -/

/-- The pieces of a template that begins at a place. -/
def piecesFrom (place : Nat) (template : List Char) : List Piece :=
  match template with
  | [] => []
  | '%' :: '%' :: rest => .literal '%' :: piecesFrom (place + 2) rest
  | '%' :: text =>
    let found := readDirective text
    let last := place + (text.length - found.2.length)
    have := length_readDirective text
    .directive last found.1 :: piecesFrom (last + 1) found.2
  | c :: rest => .literal c :: piecesFrom (place + 1) rest
termination_by template.length
decreasing_by all_goals (simp only [List.length_cons]; omega)

/-- The pieces of a template. -/
def pieces (template : List Char) : List Piece := piecesFrom 0 template

end StreamWatch.Log
