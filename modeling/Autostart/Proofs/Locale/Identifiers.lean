import Autostart.Locale
import Autostart.Proofs.Text.Splitting
import Autostart.Proofs.Text.Trimming

/-!
# Locale identifiers come back

An identifier is cut at the first at sign, then at the first dot before it, then at the first
underscore before that, so each separator may stand again in a later part. What is read from a text
is the locale that is written as this text, less the blanks around it. The candidates of a locale
are different, from the suffix of the locale to its language.
-/

namespace Autostart.Locale

/-! ## Identifiers -/

/-- A text is cut into what makes it up again with the mark of the separator between, where the part
before has no separator. -/
theorem cut_eq_iff {sep : Char} {mark : String} (hmark : mark.toList = [sep]) {s before : String}
    {after? : Option String} :
    cut sep s = (before, after?) ↔ sep ∉ before.toList ∧ s = before ++ part mark after? := by
  have hnone : before ++ part mark none = before := String.append_empty
  have hsome : ∀ after, (before ++ part mark (some after)).toList =
      before.toList ++ sep :: after.toList := fun after => by simp [part, hmark]
  unfold cut Text.splitFirst?
  rcases hcut : Chars.splitFirst sep s.toList with _ | ⟨front, back⟩
  · -- Without a separator the text is the part before, and nothing comes after it.
    have hsep := Chars.splitFirst_eq_none_iff.1 hcut
    rw [Option.map_none]
    constructor
    · rintro ⟨rfl, rfl⟩
      exact ⟨hsep, hnone.symm⟩
    · rintro ⟨-, rfl⟩
      cases after? with
      | none => rw [hnone]
      | some after => exact absurd (by simp [hsome]) hsep
  · obtain ⟨hs, hfront⟩ := Chars.eq_append_of_splitFirst hcut
    rw [Option.map_some]
    constructor
    · rintro ⟨rfl, rfl⟩
      refine ⟨by rwa [String.toList_ofList], String.toList_inj.1 ?_⟩
      rw [hs, hsome, String.toList_ofList, String.toList_ofList]
    · rintro ⟨hbefore, rfl⟩
      cases after? with
      | none =>
        rw [hnone] at hs
        exact absurd (by simp [hs]) hbefore
      | some after =>
        obtain ⟨rfl, rfl⟩ := Chars.append_cons_inj hbefore hfront ((hsome after).symm.trans hs)
        simp

/-- A locale that an identifier can name: its language means something, and no part of it goes on
behind the separator that ends it. -/
structure IsNameable (l : Locale) : Prop where
  /-- The language means that texts are localized. -/
  localizes : ¬(l.lang = "" ∨ l.lang = "C" ∨ l.lang = "POSIX")
  /-- An underscore ends the language. -/
  lang : '_' ∉ l.lang.toList
  /-- A dot ends the language and the country. -/
  country : '.' ∉ (l.lang ++ part "_" l.country?).toList
  /-- An at sign ends all but the modifier. -/
  encoding : '@' ∉ (l.lang ++ part "_" l.country? ++ part "." l.encoding?).toList

/-- The locale of a text is made from the parts that the three cuts leave. -/
theorem parse_of_cuts {s named place lang : String} {encoding? country? modifier? : Option String}
    (hat : cut '@' (Text.trim s) = (named, modifier?)) (hdot : cut '.' named = (place, encoding?))
    (hline : cut '_' place = (lang, country?)) :
    parse s = if lang = "" ∨ lang = "C" ∨ lang = "POSIX" then none
      else some ⟨lang, country?, encoding?, modifier?⟩ := by
  unfold parse
  simp only [hat, hdot, hline]

/-- The locale of a text is the nameable one whose identifier is the text without the blanks around
it. -/
theorem parse_eq_some_iff {s : String} {l : Locale} :
    parse s = some l ↔ l.IsNameable ∧ l.identifier = Text.trim s := by
  have hmarkAt : "@".toList = ['@'] := by decide
  have hmarkDot : ".".toList = ['.'] := by decide
  have hmarkLine : "_".toList = ['_'] := by decide
  constructor
  · -- Put together again, the parts that the cuts leave are the identifier.
    intro h
    rcases hat : cut '@' (Text.trim s) with ⟨named, modifier?⟩
    rcases hdot : cut '.' named with ⟨place, encoding?⟩
    rcases hline : cut '_' place with ⟨lang, country?⟩
    rw [parse_of_cuts hat hdot hline] at h
    obtain ⟨hnamed, htrim⟩ := (cut_eq_iff hmarkAt).1 hat
    obtain ⟨hplace, rfl⟩ := (cut_eq_iff hmarkDot).1 hdot
    obtain ⟨hlang, rfl⟩ := (cut_eq_iff hmarkLine).1 hline
    split at h
    · cases h
    · next hlocalizes =>
      obtain rfl := Option.some.inj h
      exact ⟨⟨hlocalizes, hlang, hplace, hnamed⟩, htrim.symm⟩
  · -- No part before a separator has it, so the cuts are made where the identifier was put together.
    rintro ⟨h, hidentifier⟩
    rw [parse_of_cuts ((cut_eq_iff hmarkAt).2 ⟨h.encoding, hidentifier.symm⟩)
      ((cut_eq_iff hmarkDot).2 ⟨h.country, rfl⟩) ((cut_eq_iff hmarkLine).2 ⟨h.lang, rfl⟩),
      if_neg h.localizes]

/-- The identifier of a locale that a text names is read as this locale. -/
theorem parse_identifier {s : String} {l : Locale} (h : parse s = some l) :
    parse l.identifier = some l := by
  obtain ⟨hnameable, hidentifier⟩ := parse_eq_some_iff.1 h
  have htrim : Text.trim (Text.trim s) = Text.trim s := by
    unfold Text.trim
    rw [String.toList_ofList, Chars.trim_trim]
  refine parse_eq_some_iff.2 ⟨hnameable, ?_⟩
  rw [hidentifier, htrim]

/-! ## Candidates -/

/-- The candidates of a locale are different: each one goes on behind the language in a way of its
own. -/
theorem nodup_candidates (l : Locale) : l.candidates.Nodup := by
  -- Behind the language, two candidates differ in their first character or in their length.
  obtain ⟨lang, country?, encoding?, modifier?⟩ := l
  cases country? <;> cases modifier? <;> simp [candidates, ← String.toList_inj]

/-- What is read from a text comes back: its identifier is the text without the blanks around it and
is read as the same locale. The candidates of the locale are different, the first one is its suffix
and the last one its language alone. -/
theorem identifiers_roundTrip {s : String} {l : Locale} (h : parse s = some l) :
    l.identifier = Text.trim s ∧ parse l.identifier = some l ∧
      l.candidates.head? = some l.suffix ∧ l.candidates.Nodup ∧
      l.candidates.getLast? = some l.lang :=
  ⟨(parse_eq_some_iff.1 h).2, parse_identifier h, l.head?_candidates, l.nodup_candidates,
    l.getLast?_candidates⟩

/-- An identifier with an empty country, and with separators again in later parts. -/
def nestedSeparators : String :=
  "\tsr_.UTF-8_.y@La@t_n.x \n"

/-- An identifier with nested separators names the language before the first of them, and comes back
without the blanks around it. -/
theorem identifiers_roundTrip_nestedSeparators :
    ∃ l, parse nestedSeparators = some l ∧ l.identifier = "sr_.UTF-8_.y@La@t_n.x" ∧
      parse l.identifier = some l ∧ l.candidates = ["sr_@La@t_n.x", "sr_", "sr@La@t_n.x", "sr"] ∧
      l.candidates.Nodup ∧ l.candidates.getLast? = some "sr" := by
  have hparse : parse nestedSeparators =
      some ⟨"sr", some "", some "UTF-8_.y", some "La@t_n.x"⟩ := by rfl
  obtain ⟨hidentifier, hback, -, hnodup, hlast⟩ := identifiers_roundTrip hparse
  exact ⟨_, hparse, hidentifier.trans (by rfl), hback, by rfl, hnodup, hlast⟩

end Autostart.Locale
