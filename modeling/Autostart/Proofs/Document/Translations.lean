import Autostart.Proofs.Document.Values

/-!
# Translating a text

A text is looked up for a locale under the suffixes of the locale first, which gives its
translation, and under the key alone when it has none. To translate a text is to store it under the
suffix of one locale, and under the key alone too when nobody would see a text there. The locale
sees its translation then, a locale that does not look under this suffix sees the text that it saw,
and one without a translation of its own sees some text.
-/

namespace Autostart.Document

/-- The suffixes under which a text is looked up before the key alone. -/
def suffixesOf : Option Locale → List String
  | some l => l.candidates
  | none => []

/-- The translation of the text of a key that a locale sees, as it is written. -/
def translation? (d : Document) (key : String) (locale? : Option Locale) : Option String :=
  (suffixesOf locale?).findSome? fun suffix => d.rawValue? key (some suffix)

/-- The document with a text for one locale, and for all others when they would see none. -/
def translate (d : Document) (key : String) (l : Locale) (value : String) : Document :=
  (d.setLocalText key (some l) value).fillUntranslated key (some l)

variable {d : Document} {key value : String} {l : Locale} {locale? : Option Locale}

/-- The text of a key for a locale is its translation, or else the text of the key. -/
theorem localText?_eq (d : Document) (key : String) (locale? : Option Locale) :
    d.localText? key locale? = ((d.translation? key locale?).map unescape).or (d.text? key) := by
  cases locale? with
  | none => rfl
  | some l =>
    have htranslation : d.translation? key (some l) =
        l.candidates.findSome? fun suffix => d.rawValue? key (some suffix) := rfl
    unfold localText?
    rw [htranslation]
    dsimp only
    cases l.candidates.findSome? fun suffix => d.rawValue? key (some suffix) <;> rfl

/-- A text stored for a locale is no translation for who does not look under its suffix. -/
theorem translation?_setLocalText (h : l.suffix ∉ suffixesOf locale?) (d : Document)
    (key value : String) :
    (d.setLocalText key (some l) value).translation? key locale? = d.translation? key locale? := by
  -- The values under all suffixes of the other locale are those from before.
  have hvalues : (suffixesOf locale?).map (fun suffix =>
      (d.setLocalText key (some l) value).rawValue? key (some suffix)) =
      (suffixesOf locale?).map fun suffix => d.rawValue? key (some suffix) := by
    refine List.map_congr_left fun suffix hsuffix => ?_
    have hne : ¬(key = key ∧ some suffix = some l.suffix) := by
      rintro ⟨-, heq⟩
      exact h (Option.some.inj heq ▸ hsuffix)
    exact (rawValue?_store d key key (some l.suffix) (some suffix) (escape value)).trans
      (if_neg hne)
  have hfirst := congrArg (List.findSome? id) hvalues
  rw [List.findSome?_map, List.findSome?_map] at hfirst
  exact hfirst

/-- A text stored under the key alone is no translation. -/
theorem translation?_setText (d : Document) (key value : String) (locale? : Option Locale) :
    (d.setText key value).translation? key locale? = d.translation? key locale? := by
  unfold translation?
  simp only [rawValue?_setText_some]

/-- A text stored for a locale is not the one of the key alone. -/
theorem text?_setLocalText (d : Document) (key : String) (l : Locale) (value : String) :
    (d.setLocalText key (some l) value).text? key = d.text? key := by
  unfold text? setLocalText
  rw [rawValue?_store, if_neg (by simp)]

/-- Filling in the text under the key alone leaves a document that has one there. -/
theorem fillUntranslated_of_text? {text : String} (h : d.text? key = some text) (hne : text ≠ "") :
    d.fillUntranslated key locale? = d := by
  unfold fillUntranslated
  rw [h, if_neg (by simpa using hne)]

/-- Otherwise it stores the text that the locale sees. -/
theorem fillUntranslated_of_empty (h : ∀ text, d.text? key = some text → text = "")
    (hvalue : d.localText? key locale? = some value) :
    d.fillUntranslated key locale? = d.setText key value := by
  have hempty : ((d.text? key).getD "").isEmpty = true := by
    rcases htext : d.text? key with _ | text
    · rfl
    · rw [h text htext]
      rfl
  unfold fillUntranslated
  rw [if_pos hempty, hvalue]

/-- A translation is stored under its suffix only when there is a text under the key alone, and in
both places otherwise. -/
theorem translate_cases (d : Document) (key : String) (l : Locale) (value : String) :
    (∃ text, text ≠ "" ∧ d.text? key = some text ∧
      d.translate key l value = d.setLocalText key (some l) value) ∨
    (∀ text, d.text? key = some text → text = "") ∧
      d.translate key l value = (d.setLocalText key (some l) value).setText key value := by
  have hsame := text?_setLocalText d key l value
  by_cases htext : ∃ text, text ≠ "" ∧ d.text? key = some text
  · obtain ⟨text, hne, htext⟩ := htext
    exact .inl ⟨text, hne, htext, fillUntranslated_of_text? (hsame.trans htext) hne⟩
  · have hempty : ∀ text, d.text? key = some text → text = "" := fun text h => by
      by_contra hne
      exact htext ⟨text, hne, h⟩
    have hlocal := localText?_setLocalText d key (some l) value
    exact .inr ⟨hempty, fillUntranslated_of_empty (fun text h => hempty text (hsame ▸ h)) hlocal⟩

/-- There is a text under the key alone once a text is translated. -/
theorem exists_text?_translate (d : Document) (key : String) (l : Locale) (hne : value ≠ "") :
    ∃ text, text ≠ "" ∧ (d.translate key l value).text? key = some text := by
  rcases translate_cases d key l value with ⟨text, htext, hsame, heq⟩ | ⟨-, heq⟩
  · exact ⟨text, htext, by rw [heq, text?_setLocalText, hsame]⟩
  · exact ⟨value, hne, by rw [heq, text?_setText]⟩

/-- A translation leaves the texts that others see. -/
theorem localText?_translate_of_notMem (h : l.suffix ∉ suffixesOf locale?) {text : String}
    (htext : text ≠ "") (hsees : d.localText? key locale? = some text) :
    (d.translate key l value).localText? key locale? = some text := by
  rw [localText?_eq] at hsees ⊢
  have hown : (d.translate key l value).translation? key locale? = d.translation? key locale? := by
    rcases translate_cases d key l value with ⟨-, -, -, heq⟩ | ⟨-, heq⟩
    · rw [heq, translation?_setLocalText h]
    · rw [heq, translation?_setText, translation?_setLocalText h]
  rw [hown]
  rcases hraw : d.translation? key locale? with _ | raw
  · -- Who has no translation sees the text of the key alone, which is then not filled in.
    rw [hraw, Option.map_none, Option.none_or] at hsees
    rw [Option.map_none, Option.none_or]
    rcases translate_cases d key l value with ⟨-, -, -, heq⟩ | ⟨hempty, -⟩
    · rw [heq, text?_setLocalText, hsees]
    · exact absurd (hempty text hsees) htext
  · rw [hraw] at hsees
    exact hsees

/-- A locale sees its translation. Any other locale that does not look under its suffix, and no
locale at all, sees the text that it saw before, if it saw one. The key alone has a text then, so a
locale without a translation of its own sees neither none nor an empty one. -/
theorem translation_leaves_others (d : Document) (key : String) (l : Locale)
    (hvalue : value ≠ "") :
    (d.translate key l value).localText? key (some l) = some value ∧
    (∀ locale? text, l.suffix ∉ suffixesOf locale? → text ≠ "" →
      d.localText? key locale? = some text →
        (d.translate key l value).localText? key locale? = some text) ∧
    (∃ text, text ≠ "" ∧ (d.translate key l value).text? key = some text) ∧
    ∀ locale?, (d.translate key l value).translation? key locale? = none →
      ∃ text, text ≠ "" ∧ (d.translate key l value).localText? key locale? = some text := by
  have hall := exists_text?_translate d key l hvalue
  refine ⟨?_, fun locale? text h => localText?_translate_of_notMem h, hall, fun locale? hnone => ?_⟩
  · exact localText?_fillUntranslated (localText?_setLocalText d key (some l) value)
  · rw [localText?_eq, hnone, Option.map_none, Option.none_or]
    exact hall

/-- A document with a French name, and none for anybody else. -/
def frenchOnly : Document :=
  ⟨[], [⟨"Desktop Entry", "[Desktop Entry]", [.entry (.plain "Name" (some "fr") "F")]⟩]⟩

/-- The Austrian locale of German, with a modifier. -/
def austrian : Locale :=
  ⟨"de", some "AT", some "UTF-8", some "euro"⟩

/-- An Austrian name leaves the French one, and everybody else sees it where there was no name. -/
theorem translation_leaves_others_frenchOnly :
    let translated := frenchOnly.translate "Name" austrian "Ö"
    "Ö" ≠ "" ∧ translated.localText? "Name" (some austrian) = some "Ö" ∧
    translated.localText? "Name" (some ⟨"fr", some "CH", none, none⟩) = some "F" ∧
    ∃ text, text ≠ "" ∧
      translated.localText? "Name" (some ⟨"de", none, none, none⟩) = some text := by
  have hne : "Ö" ≠ "" := by decide
  obtain ⟨hown, hothers, -, heverybody⟩ :=
    translation_leaves_others frenchOnly "Name" austrian hne
  refine ⟨hne, hown, ?_, ?_⟩
  · exact hothers (some ⟨"fr", some "CH", none, none⟩) "F" (by decide) (by decide) (by rfl)
  · exact heverybody (some ⟨"de", none, none, none⟩) (by rfl)

end Autostart.Document
