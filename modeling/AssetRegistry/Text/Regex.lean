namespace AssetRegistry.Text

/-- A regular expression of the kinds that the registry writes: characters, ranges of them, the two ends of the text,
and parts that stand once or more, or not at all. -/
inductive Regex where
  | nothing
  | start
  | finish
  | literal (c : Char)
  | range (first last : Char)
  | seq (first second : Regex)
  | optional (r : Regex)
  | repeated (r : Regex)
  deriving DecidableEq, Repr

namespace Regex

/-- The characters that may have a meaning in the text of a regular expression. -/
def isMark (c : Char) : Bool :=
  ['\\', '.', '+', '*', '?', '(', ')', '|', '[', ']', '\x7b', '\x7d', '^', '$', '#', '&', '-', '~'].contains c

/-- A text as a regular expression in which each of its characters stands for itself. -/
def escape (s : String) : String := .ofList (s.toList.flatMap fun c => if isMark c then ['\\', c] else [c])

/-- A character of the text of a regular expression, with its meaning or without. -/
inductive Sign where
  | mark (c : Char)
  | literal (c : Char)
  deriving DecidableEq, Repr

/-- A backslash takes the meaning away from the mark behind it. Before anything else it is not read. -/
def signs? : List Char → Option (List Sign)
  | [] => some []
  | ['\\'] => none
  | '\\' :: c :: rest => if isMark c then (signs? rest).map (.literal c :: ·) else none
  | c :: rest => (signs? rest).map ((if isMark c then .mark c else .literal c) :: ·)

/-- One after the other, the last one first. -/
def inTurn (parts : List Regex) : Regex := parts.foldl (fun rest part => .seq part rest) .nothing

/-- Reads signs behind the parts read so far, within the groups that are still open. There is no meaning here for marks
that stand elsewhere, nor for a question mark that follows a sign of repetition. -/
def build? : List Sign → List Regex → List (List Regex) → Option Regex
  | [], parts, [] => some (inTurn parts)
  | [], _, _ :: _ => none
  | .literal c :: rest, parts, groups => build? rest (.literal c :: parts) groups
  | .mark '^' :: rest, parts, groups => build? rest (.start :: parts) groups
  | .mark '$' :: rest, parts, groups => build? rest (.finish :: parts) groups
  | .mark '[' :: .literal first :: .mark '-' :: .literal last :: .mark ']' :: rest, parts, groups =>
    if first ≤ last then build? rest (.range first last :: parts) groups else none
  | .mark '(' :: rest, parts, groups => build? rest [] (parts :: groups)
  | .mark ')' :: rest, parts, outer :: groups => build? rest (inTurn parts :: outer) groups
  | .mark '+' :: .mark '?' :: _, _, _ => none
  | .mark '?' :: .mark '?' :: _, _, _ => none
  | .mark '+' :: rest, part :: parts, groups => build? rest (.repeated part :: parts) groups
  | .mark '?' :: rest, part :: parts, groups => build? rest (.optional part :: parts) groups
  | .mark _ :: _, _, _ => none

/-- The regular expression that a text writes, if it is of the kinds that are read here. -/
def ofText? (s : String) : Option Regex := (signs? s.toList).bind (build? · [] [])

/-- The expression matches where nothing is read, at the start of the text or not and at its end or not. -/
def skips (fresh final : Bool) : Regex → Bool
  | nothing => true
  | start => fresh
  | finish => final
  | literal _ => false
  | range _ _ => false
  | seq r s => r.skips fresh final && s.skips fresh final
  | optional _ => true
  | repeated r => r.skips fresh final

/-- What may be left to match of an expression when a character of it has been read. -/
def step (fresh : Bool) (c : Char) : Regex → List Regex
  | nothing => []
  | start => []
  | finish => []
  | literal d => if c = d then [nothing] else []
  | range first last => if first ≤ c ∧ c ≤ last then [nothing] else []
  | seq r s => (r.step fresh c).map (.seq · s) ++ if r.skips fresh false then s.step fresh c else []
  | optional r => r.step fresh c
  | repeated r => (r.step fresh c).map (.seq · (.optional (.repeated r)))

/-- Some beginning of the text matches one of the expressions. -/
def begins (fresh : Bool) (threads : List Regex) : List Char → Bool
  | [] => threads.any (·.skips fresh true)
  | c :: rest => threads.any (·.skips fresh false) || begins false (threads.flatMap (·.step fresh c)) rest

/-- A part of the text that starts here or later matches. -/
def findsFrom (r : Regex) (fresh : Bool) : List Char → Bool
  | [] => begins fresh [r] []
  | c :: rest => begins fresh [r] (c :: rest) || r.findsFrom false rest

/-- Some part of the text matches. -/
def isFoundIn (r : Regex) (s : String) : Bool := r.findsFrom true s.toList

end Regex

end AssetRegistry.Text
