import StreamWatch.Log.Entry
import StreamWatch.Log.Fault
import StreamWatch.Table

namespace StreamWatch

/-! # Levels by name

The level of a log is set by a name in any case: `Level.thresholdOf` says from which urgency on
entries are written. -/

namespace Level

/-- A letter in capitals. Outside ASCII there are four letters whose capitals lie in it. -/
def capitals (c : Char) : List Char :=
  if c = '\u0131' then ['I']
  else if c = '\u017f' then ['S']
  else if c = '\ufb05' ∨ c = '\ufb06' then ['S', 'T']
  else [c.toUpper]

/-- The urgencies by their names. -/
def urgencies : Table Nat :=
  [("CRITICAL", 50), ("FATAL", 50), ("ERROR", 40), ("WARNING", 30), ("WARN", 30), ("INFO", 20),
   ("DEBUG", 10), ("NOTSET", 0)]

/-- Names that stand for something else than an urgency. -/
def misnomers : Table LogFault :=
  [("BASIC_FORMAT", .unknownLevel "%(levelname)s:%(name)s:%(message)s"),
   ("_STYLES", .unusableLevel
     ("\x7b'%': (<class 'logging.PercentStyle'>, '%(levelname)s:%(name)s:%(message)s'), " ++
      "'\x7b': (<class 'logging.StrFormatStyle'>, " ++
      "'\x7blevelname\x7d:\x7bname\x7d:\x7bmessage\x7d'), " ++
      "'$': (<class 'logging.StringTemplateStyle'>, " ++
      "'$\x7blevelname\x7d:$\x7bname\x7d:$\x7bmessage\x7d')\x7d"))]

/-- The urgency from which on entries are written, by the name of a level in any case. An
    unknown name stands for `info`. -/
def thresholdOf (name : String) : Except LogFault Nat :=
  let name := String.ofList (name.toList.flatMap capitals)
  match Table.get? name misnomers with
  | some fault => .error fault
  | none => .ok ((Table.get? name urgencies).getD info.urgency)

end Level

end StreamWatch
