/-
MetricAudit.Proofs.Rendering.Markup — escaped text has no tags.

Only tags can be at fault in marked-up text, and styles come from tags
only. So text of plain pieces renders, and in no style
(`render_of_allPlain`).

Escaped text is such text, also with a text without brackets after it
(`allPlain_escape`). Escaping puts an odd number of backslashes before
every tag and no tag comes into being by it: what a bracket opens in the
escaped text it opened before (`tag?_of_escapeTags`), for a tag ends
before the next bracket, and up to there nothing is escaped.

The console escapes literal text. So it prints any line of literal text
between texts that are plain (`print_literal`).
-/
import MetricAudit.Proofs.Rendering.Tag
import MetricAudit.Rendering.Console

namespace MetricAudit.Rendering

namespace Markup

/-! ## Plain pieces -/

theorem advance_of_allPlain {ps : List Piece} (h : AllPlain ps) (p : Progress) :
    ∃ length, advance p ps = .ok { p with length } := by
  induction ps generalizing p with
  | nil => exact ⟨p.length, rfl⟩
  | cons piece ps ih =>
    obtain ⟨s, rfl⟩ := h piece List.mem_cons_self
    obtain ⟨length, hlength⟩ := ih (allPlain_cons.mp h) { p with length := p.length + s.length }
    exact ⟨length, hlength⟩

/-- A text of plain pieces renders, in no style. -/
theorem render_of_allPlain {markup : Text} (h : AllPlain (pieces 0 0 0 markup)) :
    ∃ s, render markup = .ok ⟨s, []⟩ := by
  obtain ⟨length, hadvance⟩ := advance_of_allPlain h {}
  refine ⟨(pieces 0 0 0 markup).flatMap (·.text), ?_⟩
  simp [render, hadvance, bind, Except.bind, pure, Except.pure]

/-! ## Escaped texts -/

/-- There is no bracket in the text. -/
def NoBrackets (s : Text) : Prop := ∀ c ∈ s, staysInTag c = true

theorem noBrackets_backslashes (n : Nat) : NoBrackets (backslashes n) := by
  intro c hc
  rw [List.eq_of_mem_replicate hc]
  rfl

/-- Where the first bracket after an escaped text closes, it is the first
one of the text as it was, and the same stands before it. -/
theorem takeWhile_escapeTags (n : Nat) (s : Text) {rest : Text} (hrest : NoBrackets rest)
    (h : ((escapeTags n s ++ rest).dropWhile staysInTag).head? = some ']') :
    (escapeTags n s ++ rest).takeWhile staysInTag = (backslashes n ++ s).takeWhile staysInTag ∧
      ((backslashes n ++ s).dropWhile staysInTag).head? = some ']' := by
  fun_induction escapeTags n s with
  | case1 n =>
    have hall : ∀ c ∈ backslashes n ++ rest, staysInTag c = true := by
      intro c hc
      rcases List.mem_append.mp hc with hc | hc
      · exact noBrackets_backslashes n c hc
      · exact hrest c hc
    rw [List.dropWhile_eq_nil_iff.mpr hall] at h
    cases h
  | case2 n cs ih =>
    have hshift : backslashes (n + 1) ++ cs = backslashes n ++ '\\' :: cs := by
      rw [backslashes, List.replicate_succ', List.append_assoc]
      rfl
    rw [← hshift]
    exact ih h
  | case3 n c cs hc htag ih =>
    -- The first bracket opens a tag, and so it does not close one.
    obtain ⟨hbracket, -⟩ := Bool.and_eq_true_iff.mp htag
    obtain rfl := of_decide_eq_true hbracket
    rw [List.append_assoc, List.dropWhile_append_of_pos (noBrackets_backslashes _)] at h
    cases h
  | case4 n c cs hc htag ih =>
    rw [List.append_assoc, List.dropWhile_append_of_pos (noBrackets_backslashes _),
      List.cons_append] at h
    rw [List.append_assoc, List.takeWhile_append_of_pos (noBrackets_backslashes _),
      List.takeWhile_append_of_pos (noBrackets_backslashes _),
      List.dropWhile_append_of_pos (noBrackets_backslashes _), List.cons_append]
    cases hstays : staysInTag c with
    | true =>
      rw [List.dropWhile_cons_of_pos hstays] at h
      obtain ⟨hsame, hclosed⟩ := ih h
      rw [List.takeWhile_cons_of_pos hstays, List.takeWhile_cons_of_pos hstays,
        List.dropWhile_cons_of_pos hstays, hsame]
      exact ⟨rfl, hclosed⟩
    | false =>
      have hstop : ¬staysInTag c = true := by simp [hstays]
      rw [List.dropWhile_cons_of_neg hstop] at h
      rw [List.takeWhile_cons_of_neg hstop, List.takeWhile_cons_of_neg hstop,
        List.dropWhile_cons_of_neg hstop]
      exact ⟨rfl, h⟩

/-- What a bracket before an escaped text opens, it opened before. -/
theorem tag?_of_escapeTags {s rest content : Text} (hrest : NoBrackets rest)
    (h : tag? (escapeTags 0 s ++ rest) = some content) : tag? s = some content := by
  obtain ⟨rfl, hclosed, hstarts⟩ := tag?_eq_some_iff.mp h
  obtain ⟨hsame, hclosed'⟩ := takeWhile_escapeTags 0 s hrest hclosed
  exact tag?_eq_some_iff.mpr ⟨hsame.symm, hclosed', hstarts⟩

theorem allPlain_escapeTags (n : Nat) (s : Text) {rest : Text} (hrest : NoBrackets rest)
    (position : Nat) : AllPlain (pieces position 0 0 (escapeTags n s ++ rest)) := by
  fun_induction escapeTags n s generalizing position with
  | case1 n =>
    refine allPlain_of_not_mem ?_ position 0
    intro hmem
    have hstays : staysInTag '[' = true := by
      rcases List.mem_append.mp hmem with hmem | hmem
      · exact noBrackets_backslashes n '[' hmem
      · exact hrest '[' hmem
    cases hstays
  | case2 n cs ih => exact ih position
  | case3 n c cs hc htag ih =>
    -- The number of backslashes is odd, whatever the bracket opens now.
    obtain ⟨hbracket, -⟩ := Bool.and_eq_true_iff.mp htag
    obtain rfl := of_decide_eq_true hbracket
    rw [List.append_assoc, pieces_backslashes_append, List.cons_append, pieces,
      if_neg (Nat.lt_irrefl 0), if_neg (by decide), if_pos rfl]
    split
    · rename_i content hcontent
      rw [if_neg (by omega), allPlain_cons]
      exact allPlain_skip hcontent (ih _)
    · exact allPlain_cons.mpr (ih _)
  | case4 n c cs hc htag ih =>
    rw [List.append_assoc, pieces_backslashes_append, List.cons_append]
    by_cases hbracket : c = '['
    · -- The bracket opens nothing, and so it does after escaping.
      subst hbracket
      have hnone : tag? (escapeTags 0 cs ++ rest) = none := by
        refine Option.eq_none_iff_forall_ne_some.mpr fun content hcontent => ?_
        rw [tag?_of_escapeTags hrest hcontent] at htag
        exact htag rfl
      rw [pieces, if_neg (Nat.lt_irrefl 0), if_neg hc, if_pos rfl, hnone]
      exact allPlain_cons.mpr (ih _)
    · rw [pieces_cons_of_ne hbracket, if_neg hc, allPlain_cons]
      exact ih _

/-- Escaped text is plain, also before a text without brackets. -/
theorem allPlain_escape (s : Text) {rest : Text} (hrest : NoBrackets rest) (position : Nat) :
    AllPlain (pieces position 0 0 (escape s ++ rest)) := by
  unfold escape
  dsimp only
  split
  · rw [List.append_assoc]
    refine allPlain_escapeTags 0 s ?_ position
    intro c hc
    rcases List.mem_append.mp hc with hc | hc
    · rw [List.mem_singleton.mp hc]
      rfl
    · exact hrest c hc
  · exact allPlain_escapeTags 0 s hrest position

/-- Escaped text between plain texts renders, in no style. -/
theorem render_append_escape {before : Text} (hbefore : ∀ c ∈ before, isPlain c = true)
    (s : Text) {after : Text} (hafter : NoBrackets after) :
    ∃ shown, render (before ++ (escape s ++ after)) = .ok ⟨shown, []⟩ :=
  render_of_allPlain (allPlain_append hbefore (allPlain_escape s hafter) 0)

end Markup

/-- **Literal text is printed.** The console prints a line of literal text
between texts that are plain, in every width and whatever the literal text
holds. -/
theorem Console.print_literal (color : Bool) (width : Nat) {before after : Text}
    (hbefore : ∀ c ∈ before, Markup.isPlain c = true) (s : Text)
    (hafter : Markup.NoBrackets after) :
    ∃ out, Console.renderer.print color width
      (.line [.markup before, .literal s, .markup after]) = .ok out := by
  obtain ⟨shown, hrender⟩ := Markup.render_append_escape hbefore s hafter
  have hcontent : Console.render [.markup before, .literal s, .markup after] =
      .ok ⟨shown, []⟩ := by
    simpa [Console.render, Console.source] using hrender
  have hfault : Markup.Marked.fault? ⟨shown, []⟩ shown.length = none := rfl
  have hlines : Console.lines width (.line [.markup before, .literal s, .markup after]) =
      .ok (Console.textLines width shown) := by
    rw [Console.lines, Console.lineLines, hcontent]
    simp only [bind, Except.bind, hfault]
    rfl
  exact ⟨_, by simp only [Console.renderer, hlines]; rfl⟩

end MetricAudit.Rendering
