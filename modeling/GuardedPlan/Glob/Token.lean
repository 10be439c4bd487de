/-!
# Glob tokens

A glob is read from left to right into tokens. A double star is recursive only when it stands for whole path segments: at the start of the glob or of a branch, before a slash or the end; or after a slash, before a slash or an end. Any other double star is two single stars.
-/

namespace GuardedPlan.Glob

inductive Fault where
  | unclosedClass
  | invalidRange (first last : Char)
  | unopenedGroup
  | unclosedGroup
  | danglingEscape
deriving DecidableEq, Repr

def Fault.message : Fault → String
  | unclosedClass => "unclosed character class; missing ']'"
  | invalidRange first last => "invalid range; '" ++ first.toString ++ "' > '" ++ last.toString ++ "'"
  | unopenedGroup => "unopened alternate group; missing '\x7b' (maybe escape '\x7d' with '[\x7d]'?)"
  | unclosedGroup => "unclosed alternate group; missing '\x7d' (maybe escape '\x7b' with '[\x7b]'?)"
  | danglingEscape => "dangling '\\'"

inductive Token where
  | literal (c : Char)
  | anyChar
  | star
  | recursivePrefix
  | recursiveSuffix
  | recursiveMiddle
  | charClass (negated : Bool) (ranges : List (Char × Char))
  | branches (alternatives : List (List Token))
deriving Repr

/-- Reads a class after its opening bracket and negation. `ranges` holds what was read in reverse; `isFirst` says that nothing was, and `inRange` that a dash waits for its upper end. -/
def readClass (isFirst inRange : Bool) (ranges : List (Char × Char)) :
    List Char → Except Fault (List (Char × Char) × List Char)
  | [] => .error .unclosedClass
  | c :: rest =>
    if c = ']' ∧ isFirst = false then
      .ok ((if inRange then ('-', '-') :: ranges else ranges).reverse, rest)
    else if c = '-' ∧ isFirst = false ∧ inRange = false then readClass false true ranges rest
    else
      match inRange, ranges with
      | true, (low, _) :: earlier =>
        if c < low then .error (.invalidRange low c) else readClass false false ((low, c) :: earlier) rest
      | _, _ => readClass false false ((c, c) :: ranges) rest

theorem readClass_length {isFirst inRange : Bool} {ranges found : List (Char × Char)} {input rest : List Char}
    (h : readClass isFirst inRange ranges input = .ok (found, rest)) : rest.length < input.length := by
  induction input generalizing isFirst inRange ranges with
  | nil => simp [readClass] at h
  | cons c tail ih =>
    simp only [readClass] at h
    repeat' split at h
    all_goals first
      | (simp only [Except.ok.injEq, Prod.mk.injEq] at h; obtain ⟨_, rfl⟩ := h; simp)
      | exact Nat.lt_succ_of_lt (ih h)
      | simp at h

/-- Takes the mark of negation off the front of a class. -/
def takeNegation : List Char → Bool × List Char
  | '!' :: rest => (true, rest)
  | '^' :: rest => (true, rest)
  | rest => (false, rest)

theorem takeNegation_length (input : List Char) : (takeNegation input).2.length ≤ input.length := by
  unfold takeNegation
  split <;> simp

/-- A group that is still open: the tokens before it, in reverse, and its finished branches, in reverse. -/
structure Group where
  outer : List Token
  finished : List (List Token)

/-- What a double star makes of the tokens before it, in reverse, and whether it takes the slash after it. -/
def doubleStar (inGroup : Bool) (tokens : List Token) (previous next : Option Char) : List Token × Bool :=
  let plain := (.star :: .star :: tokens, false)
  match tokens with
  | [] => if next = none ∨ next = some '/' then ([.recursivePrefix], true) else plain
  | top :: below =>
    let opened := previous = some '/' ∨ (inGroup ∧ (previous = some ',' ∨ previous = some '\x7b'))
    let closed := next = none ∨ (inGroup ∧ (next = some ',' ∨ next = some '\x7d'))
    let replaced (token : Token) : List Token :=
      match top with
      | .recursivePrefix => top :: below
      | .recursiveSuffix => top :: below
      | _ => token :: below
    if ¬opened then plain
    else if closed then (replaced .recursiveSuffix, false)
    else if next = some '/' then (replaced .recursiveMiddle, true)
    else plain

/-- Reads the rest of a glob. `tokens` holds the tokens of the branch being read in reverse, `previous` the character before. -/
def readTokens (groups : List Group) (tokens : List Token) (previous : Option Char) (input : List Char) :
    Except Fault (List Token) :=
  match input with
  | [] => if groups.isEmpty then .ok tokens.reverse else .error .unclosedGroup
  | '?' :: rest => readTokens groups (.anyChar :: tokens) (some '?') rest
  | '*' :: '*' :: rest =>
    match doubleStar (!groups.isEmpty) tokens previous rest.head?, rest with
    | (tokens, true), _ :: rest => readTokens groups tokens (some '/') rest
    | (tokens, _), rest => readTokens groups tokens (some '*') rest
  | '*' :: rest => readTokens groups (.star :: tokens) (some '*') rest
  | '[' :: rest =>
    match h : readClass true false [] (takeNegation rest).2 with
    | .error fault => .error fault
    | .ok (ranges, after) =>
      have : after.length < rest.length + 1 := by
        have := readClass_length h
        have := takeNegation_length rest
        omega
      readTokens groups (.charClass (takeNegation rest).1 ranges :: tokens) (some ']') after
  | '\x7b' :: rest => readTokens (⟨tokens, []⟩ :: groups) [] (some '\x7b') rest
  | '\x7d' :: rest =>
    match groups with
    | [] => .error .unopenedGroup
    | group :: groups =>
      readTokens groups (.branches (tokens.reverse :: group.finished).reverse :: group.outer) (some '\x7d') rest
  | ',' :: rest =>
    match groups with
    | [] => readTokens [] (.literal ',' :: tokens) (some ',') rest
    | group :: groups => readTokens (⟨group.outer, tokens.reverse :: group.finished⟩ :: groups) [] (some ',') rest
  | '\\' :: rest =>
    match rest with
    | [] => .error .danglingEscape
    | c :: rest => readTokens groups (.literal c :: tokens) (some c) rest
  | c :: rest => readTokens groups (.literal c :: tokens) (some c) rest
termination_by input.length

def tokensOf (glob : String) : Except Fault (List Token) :=
  readTokens [] [] none glob.toList

end GuardedPlan.Glob
