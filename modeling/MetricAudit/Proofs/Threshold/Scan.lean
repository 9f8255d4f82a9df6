/-
MetricAudit.Proofs.Threshold.Scan — the pieces of a threshold text.

* `exists_strip_eq_of_scan`: the stripped text is the sign of the lead,
  a part that squeezes to the body, and the token of the unit.
* `scan_of_strip_eq`: conversely, a stripped text that is written as a
  sign, a part and a token is scanned into just these, where the part
  holds blanks and characters of magnitudes and is not blank.
* `lead_eq_typo_iff`: the lead is a misspelling exactly when the
  stripped text starts with one.
* `scan_loses_nothing`: for every text, blanks aside, the pieces put
  together are the text, and the sign and the token are the longest that
  there are.

The signs start with one another and so do the tokens end. Longer ones
are tried before shorter ones, so the first that fits is the longest
(`isLongestFit_findSome?`). Where a magnitude is written, its first
character extends no sign and its last one no token; there the order in
which they are tried does not even matter.
-/
import Mathlib.Data.List.Basic
import MetricAudit.Proofs.Number.Numeral
import MetricAudit.Proofs.Text.Strip
import MetricAudit.Threshold.Parse

namespace MetricAudit.Threshold

open Text (AllBlank isBlank squeeze strip stripEnd)

/-- The sign of a comparison, nothing for want of one. -/
def signText (o : Option Operator) : Text := (o.map (·.sign)).getD []

/-- The token of a unit, nothing for want of one. -/
def tokenText (u : Option MeasureUnit) : Text := (u.map (·.token)).getD []

/-- A misspelt sign, nothing for want of one. -/
def typoText (t : Option Typo) : Text := (t.map (·.sign)).getD []

/-! ## Characters -/

/-- The characters of signs. -/
def isSignChar (c : Char) : Bool := c == '<' || c == '=' || c == '>'

/-- The characters that end a token or stand before the end of one that
is a token itself. -/
def isTokenEnd (c : Char) : Bool :=
  c == 'n' || c == 'g' || c == 'm' || c == 's' || c == 'h' || c == '%'

/-- The characters of magnitudes. -/
def isMagnitudeChar (c : Char) : Bool := Numeral.isNumeralChar c || c == '/'

theorem isSignChar_iff {c : Char} :
    isSignChar c = true ↔ c = '<' ∨ c = '=' ∨ c = '>' := by
  simp [isSignChar, or_assoc]

theorem isTokenEnd_iff {c : Char} :
    isTokenEnd c = true ↔ c = 'n' ∨ c = 'g' ∨ c = 'm' ∨ c = 's' ∨ c = 'h' ∨ c = '%' := by
  simp [isTokenEnd, or_assoc]

/-- No character of a sign stands in the body of a threshold. -/
theorem isSignChar_eq_false {c : Char} (hc : isBlank c = true ∨ isMagnitudeChar c = true) :
    isSignChar c = false := by
  cases h : isSignChar c with
  | false => rfl
  | true => rcases isSignChar_iff.mp h with rfl | rfl | rfl <;> revert hc <;> decide

/-- Nor does a character that ends a token. -/
theorem isTokenEnd_eq_false {c : Char} (hc : isBlank c = true ∨ isMagnitudeChar c = true) :
    isTokenEnd c = false := by
  cases h : isTokenEnd c with
  | false => rfl
  | true =>
    rcases isTokenEnd_iff.mp h with rfl | rfl | rfl | rfl | rfl | rfl <;> revert hc <;> decide

/-- A piece that may be missing holds no blank where none of its texts
does. -/
theorem isBlank_of_mem_piece {α : Type} {written : α → Text}
    (h : ∀ x, (written x).all (fun c => !isBlank c) = true) (piece : Option α) :
    ∀ c ∈ (piece.map written).getD [], isBlank c = false := by
  cases piece with
  | none => exact List.forall_mem_nil _
  | some x => simpa using h x

theorem isBlank_of_mem_signText {o : Option Operator} : ∀ c ∈ signText o, isBlank c = false :=
  isBlank_of_mem_piece (fun o => by cases o <;> decide) o

theorem isBlank_of_mem_typoText {t : Option Typo} : ∀ c ∈ typoText t, isBlank c = false :=
  isBlank_of_mem_piece (fun t => by cases t <;> decide) t

theorem isBlank_of_mem_tokenText {u : Option MeasureUnit} :
    ∀ c ∈ tokenText u, isBlank c = false :=
  isBlank_of_mem_piece (fun u => by cases u <;> decide) u

/-! ## The longest of several -/

/-- Of several candidates the longest whose text fits is picked, and none
where no text fits. -/
def IsLongestFit {α : Type} (written : α → Text) (Fits : Text → Prop) : Option α → Prop
  | none => ∀ x, ¬Fits (written x)
  | some x => Fits (written x) ∧ ∀ y, Fits (written y) → (written y).length ≤ (written x).length

/-- Where longer candidates are tried before shorter ones, the first that
can be taken off a text is the longest. -/
theorem isLongestFit_findSome? {α : Type} {written : α → Text} {Fits : Text → Prop}
    {take? : Text → Option Text} (hfits : ∀ t, (take? t).isSome = true ↔ Fits t) {xs : List α}
    (hall : ∀ x, x ∈ xs)
    (hsorted : xs.Pairwise fun x y => (written y).length ≤ (written x).length) :
    IsLongestFit written Fits
      ((xs.findSome? fun x => (take? (written x)).map (x, ·)).map Prod.fst) := by
  cases h : xs.findSome? fun x => (take? (written x)).map (x, ·) with
  | none =>
    intro x hx
    have hnone := Option.map_eq_none_iff.mp (List.findSome?_eq_none_iff.mp h x (hall x))
    rw [← hfits, hnone] at hx
    cases hx
  | some taken =>
    obtain ⟨before, x, after, rfl, htake, hbefore⟩ := List.findSome?_eq_some_iff.mp h
    obtain ⟨rest, hrest, rfl⟩ := Option.map_eq_some_iff.mp htake
    refine ⟨(hfits _).mp (by rw [hrest]; rfl), fun y hy => ?_⟩
    rw [List.pairwise_append, List.pairwise_cons] at hsorted
    obtain ⟨-, ⟨hafter, -⟩, -⟩ := hsorted
    rcases List.mem_append.mp (hall y) with hmem | hmem
    · -- what was tried before does not fit
      have hnone := Option.map_eq_none_iff.mp (hbefore y hmem)
      rw [← hfits, hnone] at hy
      cases hy
    · rcases List.mem_cons.mp hmem with rfl | hmem
      · exact le_rfl
      · exact hafter y hmem

/-! ## The lead -/

/-- Taking the lead off a text loses nothing. -/
theorem Lead.sign_append_take (s : Text) : (Lead.take s).1.sign ++ (Lead.take s).2 = s := by
  unfold Lead.take
  cases h : Lead.all.findSome? fun lead => (lead.sign.isPrefixOf? s).map (lead, ·) with
  | none => rfl
  | some taken =>
    obtain ⟨lead, _, hl⟩ := List.exists_of_findSome?_eq_some h
    obtain ⟨rest, hr, rfl⟩ := Option.map_eq_some_iff.mp hl
    exact List.append_eq_of_isPrefixOf?_eq_some hr

theorem Lead.mem_all (lead : Lead) : lead ∈ all := by
  cases lead with
  | bare => decide
  | typo t => cases t <;> decide
  | operator o => cases o <;> decide

/-- The lead of a text is the longest that the text starts with. -/
theorem Lead.isLongestFit_take (s : Text) :
    IsLongestFit Lead.sign (· <+: s) (some (Lead.take s).1) := by
  have hsorted : all.Pairwise fun l l' => l'.sign.length ≤ l.sign.length := by decide
  have hfits : ∀ t : Text, (t.isPrefixOf? s).isSome = true ↔ t <+: s := by simp
  have hlongest := isLongestFit_findSome? hfits mem_all hsorted
  unfold Lead.take
  cases h : Lead.all.findSome? fun lead => (lead.sign.isPrefixOf? s).map (lead, ·) with
  | none =>
    rw [h] at hlongest
    exact absurd List.nil_prefix (hlongest .bare)
  | some taken =>
    rw [h] at hlongest
    exact hlongest

/-- Where the lead is no misspelling, its comparison is the one with the
longest sign that the text starts with. -/
theorem Lead.isLongestFit_operator? {s : Text} (h : (Lead.take s).1.typo? = none) :
    IsLongestFit Operator.sign (· <+: s) (Lead.take s).1.operator? := by
  obtain ⟨hfits, hlongest⟩ := isLongestFit_take s
  cases hlead : (Lead.take s).1 with
  | bare =>
    intro o ho
    have hle := hlongest (.operator o) ho
    rw [hlead] at hle
    cases o <;> exact absurd hle (by decide)
  | typo t =>
    rw [hlead] at h
    cases h
  | operator o =>
    rw [hlead] at hfits hlongest
    exact ⟨hfits, fun o' ho' => hlongest (.operator o') ho'⟩

/-- The sign of a lead is that of its comparison, or of its misspelling. -/
theorem Lead.sign_eq (lead : Lead) :
    lead.sign = signText lead.operator? ++ typoText lead.typo? := by
  cases lead <;> simp [Lead.sign, Lead.operator?, Lead.typo?, signText, typoText]

/-- A sign is taken whole and alone where no character of a sign
follows it. -/
theorem Lead.take_sign_append (lead : Lead) {c : Char} (hc : isSignChar c = false)
    (s : Text) : Lead.take (lead.sign ++ c :: s) = (lead, c :: s) := by
  simp only [isSignChar, Bool.or_eq_false_iff, beq_eq_false_iff_ne, ne_eq] at hc
  obtain ⟨⟨hlt, heq⟩, hgt⟩ := hc
  have hlt' := Ne.symm hlt
  have heq' := Ne.symm heq
  have hgt' := Ne.symm hgt
  cases lead with
  | bare =>
    simp [Lead.take, Lead.all, Typo.all, Operator.all, Lead.sign, Typo.sign, Operator.sign,
      List.isPrefixOf?, hlt', heq', hgt']
  | typo t => cases t <;> rfl
  | operator o =>
    cases o <;>
      simp [Lead.take, Lead.all, Typo.all, Operator.all, Lead.sign, Typo.sign, Operator.sign,
        List.isPrefixOf?, hlt', heq', hgt']

/-- The lead of a text is a misspelling exactly when the text starts
with it. -/
theorem Lead.take_eq_typo_iff {s : Text} {t : Typo} :
    (Lead.take s).1 = .typo t ↔ t.sign <+: s := by
  constructor
  · intro h
    exact ⟨(Lead.take s).2, by simpa [h, Lead.sign] using Lead.sign_append_take s⟩
  · rintro ⟨rest, rfl⟩
    cases t <;> rfl

/-! ## The unit -/

/-- Taking the unit off a text loses nothing but blanks. -/
theorem exists_eq_takeUnit (s : Text) :
    ∃ part, s = part ++ tokenText (takeUnit s).1 ∧ squeeze (takeUnit s).2 = squeeze part := by
  unfold takeUnit
  cases h : MeasureUnit.all.findSome? fun u => (u.token.isSuffixOf? s).map (u, ·) with
  | none => exact ⟨s, by simp [tokenText], rfl⟩
  | some taken =>
    obtain ⟨u, _, hu⟩ := List.exists_of_findSome?_eq_some h
    obtain ⟨part, hp, rfl⟩ := Option.map_eq_some_iff.mp hu
    exact ⟨part, (List.append_eq_of_isSuffixOf?_eq_some hp).symm, Text.squeeze_stripEnd part⟩

/-- The unit of a text is the one with the longest token that the text
ends with. -/
theorem isLongestFit_takeUnit (s : Text) :
    IsLongestFit MeasureUnit.token (· <:+ s) (takeUnit s).1 := by
  have hall : ∀ u : MeasureUnit, u ∈ MeasureUnit.all := fun u => by cases u <;> decide
  have hsorted : MeasureUnit.all.Pairwise fun u v => v.token.length ≤ u.token.length := by decide
  have hfits : ∀ t : Text, (t.isSuffixOf? s).isSome = true ↔ t <:+ s := by simp
  have hlongest := isLongestFit_findSome? hfits hall hsorted
  unfold takeUnit
  cases h : MeasureUnit.all.findSome? fun u => (u.token.isSuffixOf? s).map (u, ·) with
  | none => rwa [h] at hlongest
  | some taken => rwa [h] at hlongest

/-- A token is taken whole and alone where no end of a token stands
before it. -/
theorem takeUnit_append_tokenText (s : Text) {c : Char} (hc : isTokenEnd c = false)
    (u : Option MeasureUnit) :
    (takeUnit (s ++ c :: tokenText u)).1 = u ∧
      squeeze (takeUnit (s ++ c :: tokenText u)).2 = squeeze (s ++ [c]) := by
  simp only [isTokenEnd, Bool.or_eq_false_iff, beq_eq_false_iff_ne, ne_eq] at hc
  obtain ⟨⟨⟨⟨⟨hn, hg⟩, hm⟩, hs⟩, hh⟩, hp⟩ := hc
  have hm' := Ne.symm hm
  cases u with
  | none =>
    simp [takeUnit, tokenText, MeasureUnit.all, MeasureUnit.token, List.isSuffixOf?,
      List.isPrefixOf?, Ne.symm hn, Ne.symm hg, Ne.symm hs, Ne.symm hh, Ne.symm hp]
  | some u =>
    cases u <;>
      simp [takeUnit, tokenText, MeasureUnit.all, MeasureUnit.token, List.isSuffixOf?,
        List.isPrefixOf?, hm', Text.squeeze_stripEnd]

/-! ## The scan -/

/-- The blanks around a text are not scanned. -/
theorem scan_strip (entry : Text) : scan (strip entry) = scan entry := by
  simp only [scan, Text.strip_strip]

/-- What follows the lead ends in no blank. -/
theorem scan_fragment_eq (entry : Text) :
    (scan entry).fragment = (Lead.take (strip entry)).2.dropWhile isBlank := by
  have hsuffix : (Lead.take (strip entry)).2 <:+ strip entry :=
    ⟨_, Lead.sign_append_take (strip entry)⟩
  exact Text.strip_of_suffix (Text.stripEnd_strip entry) hsuffix

/-- The stripped text is the sign of the lead, a part that squeezes to
the body, and the token of the unit. -/
theorem exists_strip_eq_of_scan (entry : Text) :
    ∃ part, strip entry = (scan entry).lead.sign ++ part ++ tokenText (scan entry).unit ∧
      squeeze part = (scan entry).body := by
  obtain ⟨part, hpart, hbody⟩ := exists_eq_takeUnit (scan entry).fragment
  let blanks := (Lead.take (strip entry)).2.takeWhile isBlank
  have hrest : (Lead.take (strip entry)).2 = blanks ++ (scan entry).fragment := by
    rw [scan_fragment_eq, List.takeWhile_append_dropWhile]
  refine ⟨blanks ++ part, ?_, ?_⟩
  · calc strip entry
        = (scan entry).lead.sign ++ (Lead.take (strip entry)).2 :=
          (Lead.sign_append_take (strip entry)).symm
      _ = (scan entry).lead.sign ++ (blanks ++ (scan entry).fragment) := by rw [hrest]
      _ = (scan entry).lead.sign ++ (blanks ++ part) ++ tokenText (scan entry).unit := by
          rw [hpart]
          simp only [List.append_assoc]
          rfl
  · rw [Text.squeeze_append, Text.squeeze_of_allBlank (Text.allBlank_takeWhile _),
      List.nil_append, ← hbody]
    rfl

/-- A text that is written as a sign, a part and a token is scanned into
these. -/
theorem scan_of_strip_eq {entry part : Text} {lead : Lead} {u : Option MeasureUnit}
    (hs : strip entry = lead.sign ++ part ++ tokenText u)
    (hpart : ∀ c ∈ part, isBlank c = true ∨ isMagnitudeChar c = true)
    (hne : squeeze part ≠ []) :
    (scan entry).lead = lead ∧ (scan entry).unit = u ∧ (scan entry).body = squeeze part := by
  have htake : Lead.take (strip entry) = (lead, part ++ tokenText u) := by
    cases part with
    | nil => exact absurd rfl hne
    | cons c cs =>
      rw [hs, List.append_assoc, List.cons_append]
      exact Lead.take_sign_append lead (isSignChar_eq_false (hpart c List.mem_cons_self)) _
  have hfragment : (scan entry).fragment = part.dropWhile isBlank ++ tokenText u := by
    rw [scan_fragment_eq, htake, List.dropWhile_append, if_neg]
    rw [List.isEmpty_iff]
    intro hnil
    rw [← Text.squeeze_dropWhile, hnil] at hne
    exact hne rfl
  rcases List.eq_nil_or_concat (part.dropWhile isBlank) with hnil | ⟨front, c, hc⟩
  · rw [← Text.squeeze_dropWhile, hnil] at hne
    exact absurd rfl hne
  · have hmem : c ∈ part := by
      apply (List.dropWhile_sublist isBlank).subset
      rw [hc]
      simp
    have hunit := takeUnit_append_tokenText front (isTokenEnd_eq_false (hpart c hmem)) u
    have hfront : front ++ c :: tokenText u = (scan entry).fragment := by
      rw [hfragment, hc]
      simp
    rw [hfront] at hunit
    refine ⟨congrArg Prod.fst htake, hunit.1, ?_⟩
    calc (scan entry).body
        = squeeze (takeUnit (scan entry).fragment).2 := rfl
      _ = squeeze (part.dropWhile isBlank) := by rw [hunit.2, hc, List.concat_eq_append]
      _ = squeeze part := Text.squeeze_dropWhile part

/-- The lead of a text is a misspelling exactly when the stripped text
starts with it. -/
theorem lead_eq_typo_iff {entry : Text} {t : Typo} :
    (scan entry).lead = .typo t ↔ t.sign <+: strip entry :=
  Lead.take_eq_typo_iff

/-- The fragment is the body and the token of the unit, with blanks. -/
theorem squeeze_fragment (entry : Text) :
    squeeze (scan entry).fragment = (scan entry).body ++ tokenText (scan entry).unit := by
  obtain ⟨part, hpart, hbody⟩ := exists_eq_takeUnit (scan entry).fragment
  calc squeeze (scan entry).fragment
      = squeeze part ++ squeeze (tokenText (scan entry).unit) := by
        rw [← Text.squeeze_append]
        exact congrArg squeeze hpart
    _ = (scan entry).body ++ tokenText (scan entry).unit := by
        rw [← hbody, Text.squeeze_of_not_blank isBlank_of_mem_tokenText]
        rfl

/-- A text is the sign of its lead and the fragment, with blanks. -/
theorem squeeze_eq_sign_append (entry : Text) :
    squeeze entry = (scan entry).lead.sign ++ squeeze (scan entry).fragment := by
  have hsign : ∀ c ∈ (scan entry).lead.sign, isBlank c = false := by
    rw [Lead.sign_eq]
    exact List.forall_mem_append.mpr ⟨isBlank_of_mem_signText, isBlank_of_mem_typoText⟩
  calc squeeze entry
      = squeeze ((scan entry).lead.sign ++ (Lead.take (strip entry)).2) := by
        rw [← Text.squeeze_strip]
        exact congrArg squeeze (Lead.sign_append_take (strip entry)).symm
    _ = (scan entry).lead.sign ++ squeeze (scan entry).fragment := by
        rw [Text.squeeze_append, Text.squeeze_of_not_blank hsign, ← Text.squeeze_strip]
        rfl

/-- **A scan loses nothing and makes nothing up.** Blanks aside, a text is
the sign of its comparison or of its misspelling, the body, and the token
of its unit; the fragment is the last two. A text has no comparison and
misspelling at once. It has the misspelling that it starts with; without
one, the comparison is the longest that it starts with, and in any case
the unit is the longest that the fragment ends with. No blank is left in
the body, and a scan of the stripped text has the same pieces. -/
theorem scan_loses_nothing (entry : Text) :
    let s := scan entry
    squeeze entry =
        signText s.lead.operator? ++ typoText s.lead.typo? ++ s.body ++ tokenText s.unit ∧
      squeeze s.fragment = s.body ++ tokenText s.unit ∧
      (s.lead.operator? = none ∨ s.lead.typo? = none) ∧
      (∀ t, s.lead.typo? = some t ↔ t.sign <+: strip entry) ∧
      (s.lead.typo? = none → IsLongestFit Operator.sign (· <+: strip entry) s.lead.operator?) ∧
      IsLongestFit MeasureUnit.token (· <:+ s.fragment) s.unit ∧
      (∀ c ∈ s.body, isBlank c = false) ∧
      scan s.text = s := by
  intro s
  refine ⟨?_, squeeze_fragment entry, ?_, fun t => ?_, Lead.isLongestFit_operator?,
    isLongestFit_takeUnit s.fragment, fun c => Text.not_isBlank_of_mem_squeeze, scan_strip entry⟩
  · rw [squeeze_eq_sign_append, squeeze_fragment, Lead.sign_eq, List.append_assoc _ s.body]
  · cases s.lead with
    | bare => exact Or.inl rfl
    | typo t => exact Or.inl rfl
    | operator o => exact Or.inr rfl
  · rw [← lead_eq_typo_iff]
    cases h : s.lead with
    | bare => simp [Lead.typo?]
    | typo t' => simp [Lead.typo?]
    | operator o => simp [Lead.typo?]

/-- The sign is not cut short to `>`, nor the token to `s`. -/
theorem scan_loses_nothing_milliseconds :
    (scan ">= 2 0 ms").lead.typo? = none ∧ '2' ∈ (scan ">= 2 0 ms").body ∧
      squeeze ">= 2 0 ms" = (">=" ++ "20" ++ "ms" : Text) ∧
      IsLongestFit Operator.sign (· <+: strip ">= 2 0 ms") (some .atLeast) ∧
      IsLongestFit MeasureUnit.token (· <:+ (scan ">= 2 0 ms").fragment) (some .milliseconds) ∧
      isBlank '2' = false := by
  have htypo : (scan ">= 2 0 ms").lead.typo? = none := by decide +kernel
  have hoperator : (scan ">= 2 0 ms").lead.operator? = some .atLeast := by decide +kernel
  have hunit : (scan ">= 2 0 ms").unit = some .milliseconds := by decide +kernel
  have hbody : (scan ">= 2 0 ms").body = "20" := by decide +kernel
  have htwo : '2' ∈ (scan ">= 2 0 ms").body := by
    rw [hbody]
    decide
  obtain ⟨hpieces, -, -, -, hsign, htoken, hblank, -⟩ := scan_loses_nothing ">= 2 0 ms"
  refine ⟨htypo, htwo, ?_, ?_, ?_, hblank '2' htwo⟩
  · rw [hpieces, htypo, hoperator, hunit, hbody]
    rfl
  · rw [← hoperator]
    exact hsign htypo
  · rw [← hunit]
    exact htoken

end MetricAudit.Threshold
