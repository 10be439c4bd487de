import GuardedPlan.Glob.Basic
import GuardedPlan.Proofs.Base.Bytes
import GuardedPlan.Proofs.Glob.Language

/-!
# Globs for one path and for all

With a backslash before each of its characters a text is a glob that matches that text and nothing else, whatever the characters are; a double star is a glob that matches everything. So every set of one path, and its complement, is in reach of the lists of a policy.
-/

namespace GuardedPlan.Glob

/-- A text as a glob, every character of it escaped. -/
def escaped (text : String) : String :=
  String.ofList (text.toList.flatMap fun c => ['\\', c])

theorem readTokens_escaped (tokens : List Token) (previous : Option Char) (chars : List Char) :
    readTokens [] tokens previous (chars.flatMap fun c => ['\\', c]) = .ok (tokens.reverse ++ chars.map .literal) := by
  induction chars generalizing tokens previous with
  | nil => simp [readTokens]
  | cons c rest ih =>
    rw [List.flatMap_cons]
    simp only [List.cons_append, List.nil_append]
    rw [readTokens, ih]
    simp

theorem read_escaped (text : String) : read (escaped text) = .ok (text.toList.map .literal) := by
  have htokens : tokensOf (escaped text) = .ok (text.toList.map .literal) := by
    rw [tokensOf, escaped, String.toList_ofList, readTokens_escaped, List.reverse_nil, List.nil_append]
  rw [read, htokens]
  rfl

theorem literals?_literal (chars : List Char) : literals? (chars.map .literal) = some chars := by
  induction chars with
  | nil => rfl
  | cons c rest ih => rw [List.map_cons, literals?, ih, Option.map_some]

/-- A glob of literals is compared with the whole path. -/
theorem method_literal {chars : List Char} (h : chars ≠ []) :
    Method.ofTokens (chars.map Token.literal) = .wholePath := by
  obtain ⟨c, rest, rfl⟩ := List.exists_cons_of_ne_nil h
  have hname : isNameOnly ((c :: rest).map Token.literal) = false := rfl
  have hlast : ∀ token, ((c :: rest).map Token.literal).getLast? = some token → ∃ d, token = .literal d := by
    intro token htoken
    obtain ⟨d, _, rfl⟩ := List.mem_map.1 (List.mem_of_getLast? htoken)
    exact ⟨d, rfl⟩
  have htext : isTextOnly ((c :: rest).map Token.literal) = true := by
    rw [List.map_cons, isTextOnly, ← List.map_cons]
    · split
      · rename_i hsuffix
        obtain ⟨d, hd⟩ := hlast _ hsuffix
        cases hd
      · rw [literals?_literal]
        rfl
    all_goals simp
  rw [Method.ofTokens, hname, htext]
  rfl

theorem denotes_listPattern_literal (chars : List Char) (bytes : List UInt8) :
    (listPattern (chars.map .literal)).Denotes bytes ↔ bytes = chars.flatMap String.utf8EncodeChar := by
  induction chars generalizing bytes with
  | nil => simp [listPattern]
  | cons c rest ih =>
    rw [List.map_cons, listPattern, Token.pattern, literalPattern, BytePattern.denotes_both_iff, List.flatMap_cons]
    simp only [BytePattern.denotes_sequence_byte_iff, ih]
    constructor
    · rintro ⟨left, right, rfl, rfl, rfl⟩
      rfl
    · rintro rfl
      exact ⟨_, _, rfl, rfl, rfl⟩

/-- An escaped text matches itself and nothing else. -/
theorem accepts_escaped_iff {text : String} (h : text ≠ "") (path : String) :
    (ofTokens (escaped text) (text.toList.map .literal)).accepts path = true ↔ path = text := by
  have hchars : text.toList ≠ [] := by simpa using h
  have hpattern : wholePattern (text.toList.map .literal) = listPattern (text.toList.map .literal) := by
    obtain ⟨c, rest, hcons⟩ := List.exists_cons_of_ne_nil hchars
    rw [hcons]
    rfl
  have hmethod : (ofTokens (escaped text) (text.toList.map .literal)).method.usesName = false := by
    rw [ofTokens, method_literal hchars]
    rfl
  rw [accepts, hmethod, Bool.not_false, Bool.true_or, Bool.true_and, ofTokens, hpattern, BytePattern.accepts_iff,
    denotes_listPattern_literal, ← toUTF8_toList, toUTF8_toList_inj]

theorem parseAll_escaped {text : String} (h : text ≠ "") :
    parseAll [escaped text] = .ok [ofTokens (escaped text) (text.toList.map .literal)] := by
  have hmethod : Method.ofTokens (text.toList.map Token.literal) = .wholePath := method_literal (by simpa using h)
  have hexcess : excess? [text.toList.map Token.literal] = none := by
    rw [excess?]
    simp [hmethod]
  rw [parseAll, List.mapM_cons, read_escaped]
  simp [bind, Except.bind, pure, Except.pure, hexcess]

/-! ### The double star -/

/-- The glob that is nothing but a double star. -/
def everything : Glob := ofTokens "**" [.recursivePrefix]

theorem parseAll_doubleStar : parseAll ["**"] = .ok [everything] := by
  have htokens : tokensOf "**" = .ok [.recursivePrefix] := by
    have hchars : "**".toList = ['*', '*'] := rfl
    rw [tokensOf, hchars]
    unfold readTokens
    dsimp only [doubleStar]
    simp [readTokens]
  have hread : read "**" = .ok [.recursivePrefix] := by
    rw [read, htokens]
    rfl
  have hexcess : excess? [[.recursivePrefix]] = none := rfl
  rw [parseAll, List.mapM_cons, hread]
  simp [bind, Except.bind, pure, Except.pure, hexcess, everything]

theorem accepts_everything (path : String) : everything.accepts path = true := by
  have hmethod : everything.method.usesName = false := rfl
  have hpattern : everything.pattern = anything := rfl
  rw [accepts, hmethod, Bool.not_false, Bool.true_or, Bool.true_and, hpattern, BytePattern.accepts_iff, anything,
    BytePattern.denotes_many_iff]
  intro byte _
  simp [ByteSet.has, ByteSet.all]

end GuardedPlan.Glob
