/-
MetricAudit.Proofs.Rendering.Tag — where marked-up text has tags.

A text without an opening bracket is plain: it has no tags
(`tags_of_not_mem`). Between a tag and the one that closes it plain text
changes nothing (`tags_enclosed`), and the closing tag has its match
(`hasUnmatched_pair`).
-/
import Mathlib.Data.List.TakeWhile
import MetricAudit.Rendering.Tag

namespace MetricAudit.Rendering.Markup

/-! ## Tags -/

/-- The characters that a tag goes on with. -/
def staysInTag (c : Char) : Bool := c != ']' && c != '['

theorem staysInTag_eq_false_iff {c : Char} : staysInTag c = false ↔ c = ']' ∨ c = '[' := by
  by_cases h : c = ']' <;> simp [staysInTag, h]

theorem staysInTag_of_startsTag {c : Char} (hc : startsTag c = true) : staysInTag c = true := by
  cases h : staysInTag c with
  | true => rfl
  | false => rcases staysInTag_eq_false_iff.mp h with rfl | rfl <;> cases hc

theorem tag?_cons (c : Char) (cs : Text) :
    tag? (c :: cs) =
      if startsTag c && (cs.dropWhile staysInTag).head? = some ']' then
        some (c :: cs.takeWhile staysInTag)
      else none := by
  have hdrop : (cs.takeWhile staysInTag ++ cs.dropWhile staysInTag).drop
      (cs.takeWhile staysInTag).length = cs.dropWhile staysInTag := List.drop_left
  rw [List.takeWhile_append_dropWhile] at hdrop
  rw [← hdrop]
  rfl

/-- A tag reaches to the first bracket, which closes it, and starts with
a character that can start one. -/
theorem tag?_eq_some_iff {s content : Text} :
    tag? s = some content ↔
      s.takeWhile staysInTag = content ∧ (s.dropWhile staysInTag).head? = some ']' ∧
        ∃ c ∈ content.head?, startsTag c = true := by
  cases s with
  | nil => simp [tag?]
  | cons c cs =>
    rw [tag?_cons]
    cases hstarts : startsTag c with
    | true =>
      have hstays := staysInTag_of_startsTag hstarts
      rw [List.takeWhile_cons_of_pos hstays, List.dropWhile_cons_of_pos hstays]
      constructor
      · intro h
        split at h
        · rename_i hclosed
          obtain rfl := Option.some.inj h
          exact ⟨rfl, by simpa using hclosed, c, rfl, hstarts⟩
        · cases h
      · rintro ⟨rfl, hclosed, -⟩
        simp [hclosed]
    | false =>
      refine iff_of_false (by simp) ?_
      rintro ⟨rfl, -, d, hd, hdstarts⟩
      cases hstays : staysInTag c with
      | true =>
        rw [List.takeWhile_cons_of_pos hstays] at hd
        obtain rfl : c = d := by simpa using hd
        rw [hstarts] at hdstarts
        cases hdstarts
      | false =>
        rw [List.takeWhile_cons_of_neg (by simp [hstays])] at hd
        cases hd

/-- A text is its tag, the bracket that closes it, and a rest. -/
theorem exists_eq_of_tag? {s content : Text} (h : tag? s = some content) :
    (∀ c ∈ content, c ≠ '[') ∧ ∃ rest, s = content ++ ']' :: rest := by
  obtain ⟨rfl, hclosed, -⟩ := tag?_eq_some_iff.mp h
  obtain ⟨rest, hrest⟩ := List.head?_eq_some_iff.mp hclosed
  refine ⟨?_, rest, ?_⟩
  · rintro c hc rfl
    have hstays := List.mem_takeWhile_imp hc
    cases hstays
  · rw [← hrest, List.takeWhile_append_dropWhile]

/-! ## Plain pieces -/

/-- All parts of a marked-up text are plain text. -/
def AllPlain (ps : List Piece) : Prop := ∀ p ∈ ps, ∃ s, p = .plain s

theorem allPlain_cons {s : Text} {ps : List Piece} :
    AllPlain (.plain s :: ps) ↔ AllPlain ps := by
  simp [AllPlain]

/-! ## Pieces of texts put together -/

/-- Backslashes are passed and counted. -/
theorem pieces_backslashes_append (position n k : Nat) (s : Text) :
    pieces position 0 n (backslashes k ++ s) = pieces (position + k) 0 (n + k) s := by
  induction k generalizing position n with
  | zero => rfl
  | succ k ih =>
    rw [backslashes, List.replicate_succ, List.cons_append, ← backslashes, pieces,
      if_neg (Nat.lt_irrefl 0), if_pos rfl, ih]
    congr 1 <;> omega

theorem pieces_cons_of_ne {c : Char} (hc : c ≠ '[') (position n : Nat) (cs : Text) :
    pieces position 0 n (c :: cs) =
      if c = '\\' then pieces (position + 1) 0 (n + 1) cs
      else .plain (backslashes n ++ [c]) :: pieces (position + 1) 0 0 cs := by
  rw [pieces, if_neg (Nat.lt_irrefl 0), if_neg hc]

/-- A text without a bracket is plain. -/
theorem allPlain_of_not_mem {s : Text} (h : '[' ∉ s) (position n : Nat) :
    AllPlain (pieces position 0 n s) := by
  induction s generalizing position n with
  | nil => simp [pieces, AllPlain]
  | cons c cs ih =>
    have hc : c ≠ '[' := by
      rintro rfl
      exact h List.mem_cons_self
    have hcs := ih fun hmem => h (List.mem_cons_of_mem c hmem)
    rw [pieces_cons_of_ne hc]
    split
    · exact hcs _ _
    · exact allPlain_cons.mpr (hcs _ _)

/-- A character that neither opens a tag nor keeps one from being open. -/
def isPlain (c : Char) : Bool := c != '[' && c != '\\'

theorem pieces_cons_of_isPlain {c : Char} (hc : isPlain c = true) (position : Nat) (cs : Text) :
    pieces position 0 0 (c :: cs) = .plain [c] :: pieces (position + 1) 0 0 cs := by
  rw [isPlain, Bool.and_eq_true, bne_iff_ne, bne_iff_ne] at hc
  rw [pieces_cons_of_ne hc.1, if_neg hc.2]
  rfl

/-- A text of plain characters leaves it to what follows whether all is
plain. -/
theorem allPlain_append {s rest : Text} (h : ∀ c ∈ s, isPlain c = true)
    (hrest : ∀ position, AllPlain (pieces position 0 0 rest)) (position : Nat) :
    AllPlain (pieces position 0 0 (s ++ rest)) := by
  induction s generalizing position with
  | nil => exact hrest position
  | cons c cs ih =>
    obtain ⟨hc, hcs⟩ := List.forall_mem_cons.mp h
    rw [List.cons_append, pieces_cons_of_isPlain hc, allPlain_cons]
    exact ih hcs (position + 1)

/-- The characters of a tag are skipped. -/
theorem pieces_skip (position : Nat) (skipped rest : Text) :
    pieces position skipped.length 0 (skipped ++ rest) =
      pieces (position + skipped.length) 0 0 rest := by
  induction skipped generalizing position with
  | nil => rfl
  | cons c cs ih =>
    rw [List.cons_append, pieces, if_pos (by simp), List.length_cons, Nat.add_sub_cancel, ih]
    congr 1
    omega

/-- A tag is skipped with the bracket that closes it. -/
theorem pieces_skip_tag (position : Nat) (content rest : Text) :
    pieces position (content.length + 1) 0 (content ++ ']' :: rest) =
      pieces (position + (content.length + 1)) 0 0 rest := by
  have hskip := pieces_skip position (content ++ [']']) rest
  rwa [List.append_assoc, List.singleton_append, List.length_append,
    List.length_singleton] at hskip

/-- What follows a text without brackets has pieces of its own, if it
does not follow a backslash. -/
theorem allPlain_rest {passed rest : Text} (h : '[' ∉ passed) {c : Char} (hc : c ≠ '\\')
    (hbracket : c ≠ '[') {position n : Nat}
    (hall : AllPlain (pieces position 0 n (passed ++ c :: rest))) :
    AllPlain (pieces (position + passed.length + 1) 0 0 rest) := by
  induction passed generalizing position n with
  | nil =>
    rw [List.nil_append, pieces_cons_of_ne hbracket, if_neg hc, allPlain_cons] at hall
    exact hall
  | cons d ds ih =>
    have hd : d ≠ '[' := by
      rintro rfl
      exact h List.mem_cons_self
    have hds : ∀ n, AllPlain (pieces (position + 1) 0 n (ds ++ c :: rest)) →
        AllPlain (pieces (position + 1 + ds.length + 1) 0 0 rest) :=
      fun n hall => ih (fun hmem => h (List.mem_cons_of_mem d hmem)) hall
    rw [List.length_cons, Nat.add_comm ds.length, ← Nat.add_assoc]
    rw [List.cons_append, pieces_cons_of_ne hd] at hall
    split at hall
    · exact hds _ hall
    · exact hds _ (allPlain_cons.mp hall)

/-- Of a plain text the characters of a tag may be skipped. -/
theorem allPlain_skip {s content : Text} (h : tag? s = some content) {position : Nat}
    (hall : AllPlain (pieces position 0 0 s)) :
    AllPlain (pieces position (content.length + 1) 0 s) := by
  obtain ⟨hcontent, rest, rfl⟩ := exists_eq_of_tag? h
  have hrest := allPlain_rest (fun hmem => hcontent '[' hmem rfl) (by decide) (by decide) hall
  rwa [pieces_skip_tag, ← Nat.add_assoc]

/-! ## Tags in a text -/

theorem tags_of_allPlain {s : Text} (h : AllPlain (pieces 0 0 0 s)) : tags s = [] := by
  refine List.filterMap_eq_nil_iff.mpr fun p hp => ?_
  obtain ⟨t, rfl⟩ := h p hp
  rfl

/-- A text without an opening bracket has no tags. -/
theorem tags_of_not_mem {s : Text} (h : '[' ∉ s) : tags s = [] :=
  tags_of_allPlain (allPlain_of_not_mem h 0 0)

/-- Plain characters are passed over. -/
theorem content?_pieces_append {s : Text} (h : ∀ c ∈ s, isPlain c = true) (rest : Text)
    (position : Nat) :
    (pieces position 0 0 (s ++ rest)).filterMap Piece.content? =
      (pieces (position + s.length) 0 0 rest).filterMap Piece.content? := by
  induction s generalizing position with
  | nil => rfl
  | cons c cs ih =>
    obtain ⟨hc, hcs⟩ := List.forall_mem_cons.mp h
    rw [List.cons_append, pieces_cons_of_isPlain hc, List.filterMap_cons_none rfl, ih hcs,
      List.length_cons, Nat.add_assoc, Nat.add_comm 1]

/-- What can stand in a tag. -/
def isTag (content : Text) : Bool := content.head?.any startsTag && content.all staysInTag

theorem content?_pieces_tag {content : Text} (h : isTag content = true) (rest : Text)
    (position : Nat) :
    (pieces position 0 0 ('[' :: (content ++ ']' :: rest))).filterMap Piece.content? =
      content :: (pieces (position + 1 + (content.length + 1)) 0 0 rest).filterMap
        Piece.content? := by
  rw [isTag, Bool.and_eq_true, Option.any_eq_true, List.all_eq_true] at h
  obtain ⟨hstart, hstays⟩ := h
  have htag : tag? (content ++ ']' :: rest) = some content := by
    have hstop : ¬staysInTag ']' = true := by decide
    rw [tag?_eq_some_iff, List.takeWhile_append_of_pos hstays, List.dropWhile_append_of_pos hstays,
      List.takeWhile_cons_of_neg hstop, List.dropWhile_cons_of_neg hstop, List.append_nil]
    exact ⟨rfl, rfl, hstart⟩
  rw [pieces, if_neg (Nat.lt_irrefl 0), if_neg (by decide), if_pos rfl, htag]
  dsimp only
  rw [if_pos rfl, pieces_skip_tag, List.filterMap_cons_none rfl]
  rfl

/-- The tags of a plain text between a tag and the one that closes it. -/
theorem tags_enclosed (name : Text) {s : Text} (hopen : isTag name = true)
    (hclose : isTag ('/' :: name) = true)
    (hs : ∀ c ∈ s, isPlain c = true) :
    tags ('[' :: (name ++ ']' :: (s ++ '[' :: ('/' :: name ++ [']'])))) =
      [name, '/' :: name] := by
  rw [tags, content?_pieces_tag hopen, content?_pieces_append hs, content?_pieces_tag hclose]
  rfl

/-! ## Matching -/

/-- A name that is a style of its own, and no closing one. -/
def isStyleName (name : Text) : Bool :=
  tagName name == name && Text.strip name == name && name.head?.any (· != '/')

/-- A closing tag behind the tag that it closes has its match. -/
theorem hasUnmatched_pair (canonical : Text → Text) {name : Text} (h : isStyleName name = true) :
    hasUnmatched canonical [] [name, '/' :: name] = false := by
  rw [isStyleName, Bool.and_eq_true, Bool.and_eq_true, beq_iff_eq, beq_iff_eq,
    Option.any_eq_true] at h
  obtain ⟨⟨hname, hstrip⟩, c, hc, hslash⟩ := h
  obtain ⟨cs, rfl⟩ := List.head?_eq_some_iff.mp hc
  have hclosing : tagName ('/' :: c :: cs) = '/' :: c :: cs := by
    rw [tagName, List.takeWhile_cons_of_pos (by decide)]
    exact congrArg _ hname
  have hne : c ≠ '/' := by simpa using hslash
  simp [hasUnmatched, hname, hclosing, hstrip, hne]

end MetricAudit.Rendering.Markup
