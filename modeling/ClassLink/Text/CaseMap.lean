import ClassLink.Text.CaseTable
/-!
# Capital and small forms of a text

Each character is mapped by itself, with two exceptions: a character may become several, and a
capital sigma becomes the final small sigma where it ends a word. The word ends there when the
nearest character before it that is not looked past has a case, and the nearest one after it has
none.
-/

namespace ClassLink.Text

/-- The counterpart of a code point in a table of runs. -/
def counterpart? (runs : List CaseRun) (n : Nat) : Option Nat :=
  (runs.find? fun r => r.first ≤ n && n ≤ r.last && (n - r.first) % r.step == 0).map
    fun r => ((n : Int) + r.shift).toNat

/-- The capital form of one character. -/
def capital (c : Char) : List Char :=
  match capitalSequences.lookup c.toNat with
  | some ns => ns.map Char.ofNat
  | none =>
    match counterpart? capitalRuns c.toNat with
    | some n => [Char.ofNat n]
    | none => [c]

/-- The small form of one character, its place in a word aside. A dotted capital I keeps the
dot as a mark of its own. -/
def small (c : Char) : List Char :=
  if c.toNat = 0x130 then ['i', Char.ofNat 0x307]
  else
    match counterpart? smallRuns c.toNat with
    | some n => [Char.ofNat n]
    | none => [c]

/-- The first character that is not looked past has a case. -/
def startsCased (cs : List Char) : Bool :=
  match cs.dropWhile caseIgnorableChars.contains with
  | [] => false
  | c :: _ => casedChars.contains c

/-- The small form of a capital sigma between the characters before it, nearest first, and those
after it. -/
def smallSigma (before after : List Char) : Char :=
  if startsCased before && !startsCased after then Char.ofNat 0x3c2 else Char.ofNat 0x3c3

/-- The small forms of the characters that follow `before`, which is nearest first. -/
def smallAfter (before : List Char) : List Char → List Char
  | [] => []
  | c :: r =>
    (if c.toNat = 0x3a3 then [smallSigma before r] else small c) ++ smallAfter (c :: before) r

/-- The text in capitals. -/
def toCapitals (s : String) : String := String.ofList (s.toList.flatMap capital)

/-- The text in small letters. -/
def toSmall (s : String) : String := String.ofList (smallAfter [] s.toList)

end ClassLink.Text
