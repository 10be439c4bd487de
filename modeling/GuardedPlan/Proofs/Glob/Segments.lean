import GuardedPlan.Glob.Basic
import GuardedPlan.Proofs.Base.Bytes
import GuardedPlan.Proofs.Base.Lists
import GuardedPlan.Proofs.Glob.Language
import GuardedPlan.Proofs.Path.Segments
import GuardedPlan.Proofs.Policy.Permission
import Mathlib.Data.List.Forall2

/-!
# Globs segment by segment

A plain glob has literal characters, question marks and single stars and nothing else. None of these reads a slash unless it is one, so such a glob matches a path exactly if it has as many segments and each of them, as a wildcard over bytes, describes the segment of the path in its place.
-/

namespace GuardedPlan.Glob

/-! ### Wildcards -/

/-- What a character of a wildcard stands for: a question mark for any byte, a star for any bytes, every other character for itself. -/
inductive Stands : Char → List UInt8 → Prop
  | anyByte (byte : UInt8) : Stands '?' [byte]
  | anyBytes (bytes : List UInt8) : Stands '*' bytes
  | itself {c : Char} : c ≠ '?' → c ≠ '*' → Stands c (String.utf8EncodeChar c)

/-- The bytes that a wildcard describes: those that its characters stand for, one after another. -/
inductive Describes : List Char → List UInt8 → Prop
  | nil : Describes [] []
  | cons {c : Char} {rest : List Char} {front bytes : List UInt8} :
    Stands c front → Describes rest bytes → Describes (c :: rest) (front ++ bytes)

/-- A segment of a glob, as a wildcard, describes a segment of a path. -/
def MatchesSegment (wildcard segment : String) : Prop :=
  Describes wildcard.toList segment.toUTF8.toList

theorem describes_nil_iff {bytes : List UInt8} : Describes [] bytes ↔ bytes = [] := by
  constructor
  · rintro ⟨⟩
    rfl
  · rintro rfl
    exact .nil

theorem describes_cons_iff {c : Char} {rest : List Char} {bytes : List UInt8} :
    Describes (c :: rest) bytes ↔ ∃ front back, bytes = front ++ back ∧ Stands c front ∧ Describes rest back := by
  constructor
  · rintro ⟨⟩
    exact ⟨_, _, rfl, ‹_›, ‹_›⟩
  · rintro ⟨front, back, rfl, hfront, hback⟩
    exact .cons hfront hback

/-- Without question marks and stars a wildcard describes its own bytes alone. -/
theorem describes_literal_iff {chars : List Char} (hbyte : '?' ∉ chars) (hstar : '*' ∉ chars) (bytes : List UInt8) :
    Describes chars bytes ↔ bytes = chars.flatMap String.utf8EncodeChar := by
  induction chars generalizing bytes with
  | nil => exact describes_nil_iff
  | cons c rest ih =>
    have hitself : ∀ front, Stands c front ↔ front = String.utf8EncodeChar c := by
      intro front
      constructor
      · rintro (_ | _)
        · exact absurd List.mem_cons_self hbyte
        · exact absurd List.mem_cons_self hstar
        · rfl
      · rintro rfl
        exact .itself (fun hsame => hbyte (by simp [hsame])) (fun hsame => hstar (by simp [hsame]))
    rw [describes_cons_iff, List.flatMap_cons]
    simp only [hitself, ih (List.not_mem_of_not_mem_cons hbyte) (List.not_mem_of_not_mem_cons hstar)]
    constructor
    · rintro ⟨_, _, rfl, rfl, rfl⟩
      rfl
    · rintro rfl
      exact ⟨_, _, rfl, rfl, rfl⟩

theorem stands_slash_iff {bytes : List UInt8} : Stands '/' bytes ↔ bytes = [ByteSet.slashByte] := by
  have hencoded : String.utf8EncodeChar '/' = [ByteSet.slashByte] := rfl
  constructor
  · rintro ⟨⟩
    exact hencoded
  · rintro rfl
    exact hencoded ▸ .itself (by decide) (by decide)

/-! ### Plain globs -/

/-- A glob of literal characters, question marks and stars, no two of them in a row. -/
structure Plain (glob : List Char) : Prop where
  unbracketed : ∀ c ∈ glob, c ∉ ['[', ']', '\x7b', '\x7d', '\\']
  single : ¬ ['*', '*'] <:+: glob

theorem Plain.tail {c : Char} {rest : List Char} (h : Plain (c :: rest)) : Plain rest :=
  ⟨fun d hd => h.unbracketed d (List.mem_cons_of_mem c hd), fun hstars => h.single (List.infix_cons hstars)⟩

def plainToken (c : Char) : Token :=
  if c = '?' then .anyChar else if c = '*' then .star else .literal c

theorem readTokens_plain {glob : List Char} (h : Plain glob) (tokens : List Token) (previous : Option Char) :
    readTokens [] tokens previous glob = .ok (tokens.reverse ++ glob.map plainToken) := by
  induction glob generalizing tokens previous with
  | nil => simp [readTokens]
  | cons c rest ih =>
    have hplain := h.unbracketed c List.mem_cons_self
    simp only [List.mem_cons, List.not_mem_nil, or_false, not_or] at hplain
    have hrest : readTokens [] (plainToken c :: tokens) (some c) rest =
        .ok (tokens.reverse ++ (c :: rest).map plainToken) := by
      rw [ih h.tail, List.reverse_cons, List.append_assoc, List.map_cons, List.singleton_append]
    rw [← hrest]
    by_cases hbyte : c = '?'
    · subst c
      rw [readTokens]
      rfl
    · by_cases hstar : c = '*'
      · subst c
        rw [readTokens]
        · rfl
        · rintro more rfl
          exact h.single ⟨[], more, rfl⟩
      · have htoken : plainToken c = .literal c := by rw [plainToken, if_neg hbyte, if_neg hstar]
        rw [htoken]
        by_cases hcomma : c = ','
        · subst c
          rw [readTokens]
        · rw [readTokens]
          all_goals simp_all

theorem read_plain {source : String} (h : Plain source.toList) : read source = .ok (source.toList.map plainToken) := by
  rw [read, tokensOf, readTokens_plain h, List.reverse_nil, List.nil_append]
  rfl

/-- A character of a plain glob stands for the same as in a wildcard, but for slashes. -/
theorem denotes_plainToken_iff (c : Char) (bytes : List UInt8) :
    (plainToken c).pattern.Denotes bytes ↔ Stands c bytes ∧ (c ≠ '/' → ByteSet.slashByte ∉ bytes) := by
  by_cases hbyte : c = '?'
  · subst c
    have htoken : (plainToken '?').pattern = .one ByteSet.segment := rfl
    rw [htoken, BytePattern.denotes_one_iff]
    constructor
    · rintro ⟨byte, hbyte, rfl⟩
      exact ⟨.anyByte byte, fun _ => by simpa [eq_comm] using BytePattern.has_segment_iff.1 hbyte⟩
    · rintro ⟨hstands, hslash⟩
      cases hstands with
      | anyByte byte =>
        exact ⟨byte, BytePattern.has_segment_iff.2 fun hsame => hslash (by decide) (by simp [hsame]), rfl⟩
      | itself hbyte _ => exact absurd rfl hbyte
  · by_cases hstar : c = '*'
    · subst c
      have htoken : (plainToken '*').pattern = .many ByteSet.segment := rfl
      rw [htoken, BytePattern.denotes_many_iff]
      constructor
      · intro hall
        exact ⟨.anyBytes bytes, fun _ hslash => BytePattern.has_segment_iff.1 (hall _ hslash) rfl⟩
      · rintro ⟨-, hslash⟩ byte hmem
        exact BytePattern.has_segment_iff.2 fun hsame => hslash (by decide) (hsame ▸ hmem)
    · have htoken : (plainToken c).pattern = literalPattern c := by
        rw [plainToken, if_neg hbyte, if_neg hstar, Token.pattern]
      rw [htoken, literalPattern, BytePattern.denotes_sequence_byte_iff]
      constructor
      · rintro rfl
        exact ⟨.itself hbyte hstar, fun hslash hmem => hslash (eq_slash_of_mem_utf8EncodeChar hmem)⟩
      · rintro ⟨hstands, -⟩
        cases hstands with
        | anyByte byte => exact absurd rfl hbyte
        | anyBytes bytes => exact absurd rfl hstar
        | itself _ _ => rfl

/-! ### Segments -/

/-- What follows the first segment, with a longer first segment. -/
theorem intercalate_append_cons {α : Type} (separator front first : List α) (rest : List (List α)) :
    separator.intercalate ((front ++ first) :: rest) = front ++ separator.intercalate (first :: rest) := by
  cases rest with
  | nil => simp
  | cons next more =>
    rw [List.intercalate_cons_cons, List.intercalate_cons_cons]
    simp

/-- A plain glob describes the pieces between slashes that its own segments describe. -/
theorem denotes_plain_iff (glob : List Char) (bytes : List UInt8) :
    (listPattern (glob.map plainToken)).Denotes bytes ↔
      ∃ pieces, List.Forall₂ Describes (glob.splitOn '/') pieces ∧ (∀ piece ∈ pieces, ByteSet.slashByte ∉ piece) ∧
        bytes = [ByteSet.slashByte].intercalate pieces := by
  induction glob generalizing bytes with
  | nil =>
    rw [List.map_nil, listPattern, BytePattern.denotes_empty_iff, List.splitOn_nil]
    constructor
    · rintro rfl
      exact ⟨[[]], .cons .nil .nil, by simp, rfl⟩
    · rintro ⟨pieces, hmatch, -, rfl⟩
      obtain ⟨piece, more, hpiece, hmore, rfl⟩ := List.forall₂_cons_left_iff.1 hmatch
      rw [describes_nil_iff.1 hpiece, List.forall₂_nil_left_iff.1 hmore]
      rfl
  | cons c rest ih =>
    rw [List.map_cons, listPattern, BytePattern.denotes_both_iff, List.splitOn_cons_eq_if_modifyHead]
    simp only [denotes_plainToken_iff, ih]
    obtain ⟨first, others, hsplit⟩ := List.exists_cons_of_ne_nil (List.splitOn_ne_nil '/' rest)
    rw [hsplit]
    by_cases hslash : c = '/'
    · subst c
      rw [if_pos (beq_self_eq_true _)]
      constructor
      · rintro ⟨left, right, rfl, ⟨hstands, -⟩, pieces, hmatch, hfree, rfl⟩
        rw [stands_slash_iff.1 hstands]
        obtain ⟨piece, more, hpiece, hmore, rfl⟩ := List.forall₂_cons_left_iff.1 hmatch
        refine ⟨[] :: piece :: more, .cons .nil hmatch, ?_, ?_⟩
        · exact List.forall_mem_cons.2 ⟨List.not_mem_nil, hfree⟩
        · rw [List.intercalate_cons_cons, List.nil_append]
      · rintro ⟨pieces, hmatch, hfree, rfl⟩
        obtain ⟨empty, more, hempty, hmore, rfl⟩ := List.forall₂_cons_left_iff.1 hmatch
        obtain ⟨piece, others, -, -, rfl⟩ := List.forall₂_cons_left_iff.1 hmore
        refine ⟨[ByteSet.slashByte], _, ?_, ⟨stands_slash_iff.2 rfl, fun h => absurd rfl h⟩, _, hmore,
          (List.forall_mem_cons.1 hfree).2, rfl⟩
        rw [describes_nil_iff.1 hempty, List.intercalate_cons_cons, List.nil_append]
    · rw [if_neg (by simpa using hslash), List.modifyHead_cons]
      constructor
      · rintro ⟨left, right, rfl, ⟨hstands, hleft⟩, pieces, hmatch, hfree, rfl⟩
        obtain ⟨piece, more, hpiece, hmore, rfl⟩ := List.forall₂_cons_left_iff.1 hmatch
        obtain ⟨hown, hlater⟩ := List.forall_mem_cons.1 hfree
        refine ⟨(left ++ piece) :: more, .cons (.cons hstands hpiece) hmore, ?_, (intercalate_append_cons _ _ _ _).symm⟩
        exact List.forall_mem_cons.2 ⟨by simp [hleft hslash, hown], hlater⟩
      · rintro ⟨pieces, hmatch, hfree, rfl⟩
        obtain ⟨whole, more, hwhole, hmore, rfl⟩ := List.forall₂_cons_left_iff.1 hmatch
        obtain ⟨left, piece, rfl, hstands, hpiece⟩ := describes_cons_iff.1 hwhole
        obtain ⟨hown, hlater⟩ := List.forall_mem_cons.1 hfree
        rw [List.mem_append, not_or] at hown
        exact ⟨left, _, intercalate_append_cons _ _ _ _, ⟨hstands, fun _ => hown.1⟩, piece :: more, .cons hpiece hmore,
          List.forall_mem_cons.2 ⟨hown.2, hlater⟩, rfl⟩

/-- The bytes of a path are those of its segments with slashes between them. -/
theorem bytes_eq_intercalate (path : String) :
    path.toUTF8.toList = [ByteSet.slashByte].intercalate ((Path.segments path).map fun segment => segment.toUTF8.toList) := by
  have hslash : String.utf8EncodeChar '/' = [ByteSet.slashByte] := rfl
  have hparts : ((Path.segments path).map fun segment => segment.toUTF8.toList) =
      (path.toList.splitOn '/').map fun part => part.flatMap String.utf8EncodeChar := by
    rw [Path.segments, List.map_map]
    refine List.map_congr_left fun part _ => ?_
    rw [Function.comp_apply, toUTF8_toList, String.toList_ofList]
  rw [hparts, toUTF8_toList, ← hslash, ← List.flatMap_singleton String.utf8EncodeChar '/', ← flatMap_intercalate,
    List.intercalate_splitOn]

/-- A piece between slashes has no slash among its bytes. -/
theorem slash_not_mem_of_mem_segments {path segment : String} (h : segment ∈ Path.segments path) :
    ByteSet.slashByte ∉ segment.toUTF8.toList := by
  intro hmem
  rw [toUTF8_toList] at hmem
  obtain ⟨c, hc, hbyte⟩ := List.mem_flatMap.1 hmem
  exact Path.slash_not_mem_of_mem_segments h (eq_slash_of_mem_utf8EncodeChar hbyte ▸ hc)

/-- A plain glob describes the paths whose segments its own segments match, each the one in its place. -/
theorem denotes_plain_iff_segments (source path : String) :
    (listPattern (source.toList.map plainToken)).Denotes path.toUTF8.toList ↔
      List.Forall₂ MatchesSegment (Path.segments source) (Path.segments path) := by
  have hfree : ∀ piece ∈ (Path.segments path).map fun segment => segment.toUTF8.toList, ByteSet.slashByte ∉ piece := by
    intro piece hpiece
    obtain ⟨segment, hsegment, rfl⟩ := List.mem_map.1 hpiece
    exact slash_not_mem_of_mem_segments hsegment
  have hmatch : List.Forall₂ MatchesSegment (Path.segments source) (Path.segments path) ↔
      List.Forall₂ Describes (source.toList.splitOn '/') ((Path.segments path).map fun segment => segment.toUTF8.toList) := by
    rw [Path.segments, List.forall₂_map_left_iff, List.forall₂_map_right_iff]
    simp only [MatchesSegment, String.toList_ofList]
  rw [hmatch, denotes_plain_iff, bytes_eq_intercalate]
  constructor
  · rintro ⟨pieces, hpieces, hown, hbytes⟩
    -- slash-free pieces can be told from what they are joined to
    have hsame : pieces = (Path.segments path).map fun segment => segment.toUTF8.toList := by
      rw [← List.splitOn_intercalate ByteSet.slashByte hown (by rintro rfl; simp at hpieces), ← hbytes,
        List.splitOn_intercalate ByteSet.slashByte hfree (by simp [Path.segments_ne_nil])]
    rwa [← hsame]
  · intro hpieces
    exact ⟨_, hpieces, hfree, rfl⟩

/-! ### Coverage -/

theorem wholePattern_plain (glob : List Char) : wholePattern (glob.map plainToken) = listPattern (glob.map plainToken) := by
  cases glob with
  | nil => rfl
  | cons c rest =>
    rw [List.map_cons, plainToken]
    split
    · rfl
    · split <;> rfl

/-- A plain glob covers the paths whose segments its own segments match, as long as they do not climb at their end. -/
theorem covers_plain_iff {source path : String} (h : Plain source.toList) (hname : hasName path = true) :
    Covers source path ↔ List.Forall₂ MatchesSegment (Path.segments source) (Path.segments path) := by
  have hcovers : Covers source path ↔ (ofTokens source (source.toList.map plainToken)).accepts path = true := by
    simp [Covers, read_plain h]
  rw [hcovers, accepts, hname, Bool.or_true, Bool.true_and, ofTokens, wholePattern_plain, BytePattern.accepts_iff,
    denotes_plain_iff_segments]

/-! ### Depth -/

theorem depths_plainToken_le (c : Char) : ∀ level ∈ (plainToken c).depths, level ≤ 2 := by
  have hbyte : Token.anyChar.depths = [1] := rfl
  have hstar : Token.star.depths = [2] := rfl
  have hliteral : (Token.literal c).depths = (String.utf8EncodeChar c).map fun _ => 0 := rfl
  rw [plainToken]
  split
  · simp [hbyte]
  · split
    · simp [hstar]
    · simp [hliteral]

theorem depth_plain_le (glob : List Char) : depth (glob.map plainToken) ≤ 3 := by
  have hdepths : ∀ level ∈ listDepths (glob.map plainToken), level ≤ 2 := by
    induction glob with
    | nil => simp [listDepths]
    | cons c rest ih =>
      rw [List.map_cons, listDepths]
      exact List.forall_mem_append.2 ⟨depths_plainToken_le c, ih⟩
  have hmax : (listDepths (glob.map plainToken)).foldl max 0 ≤ 2 := List.foldlRecOn (motive := (· ≤ 2)) _ max (Nat.zero_le 2)
    fun deepest hdeepest level hlevel => Nat.max_le.2 ⟨hdeepest, hdepths level hlevel⟩
  rw [depth]
  omega

/-- Plain globs are never refused. -/
theorem exists_parseAll_plain {sources : List String} (h : ∀ source ∈ sources, Plain source.toList) :
    ∃ globs, parseAll sources = .ok globs := by
  obtain ⟨tokens, htokens⟩ := exists_mapM_eq_ok fun source hsource => ⟨_, read_plain (h source hsource)⟩
  have hshallow : ∀ glob ∈ tokens, depth glob ≤ 3 := by
    intro glob hglob
    obtain ⟨source, hsource, hread⟩ := exists_of_mem_mapM htokens hglob
    rw [read_plain (h source hsource)] at hread
    cases hread
    exact depth_plain_le source.toList
  have hexcess : excess? tokens = none := by
    have hpasses : ∀ glob ∈ tokens, ¬ nestingLimit < depth glob := fun glob hglob =>
      Nat.not_lt.2 (Nat.le_trans (hshallow glob hglob) (by decide))
    rw [excess?]
    dsimp only
    rw [List.find?_eq_none.2 fun glob hglob => by simpa using hpasses glob (List.mem_of_mem_filter hglob)]
    dsimp only
    rw [Option.map_eq_none_iff, List.findIdx?_eq_none_iff]
    intro glob hglob
    simpa using hpasses glob (List.mem_of_mem_filter hglob)
  exact ⟨_, parseAll_eq_ok_iff.2 ⟨tokens, htokens, hexcess, rfl⟩⟩

end GuardedPlan.Glob
