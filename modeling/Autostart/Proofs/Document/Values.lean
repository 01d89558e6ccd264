import Autostart.Proofs.Document.Delays
import Autostart.Proofs.Document.Writing

/-!
# Values that come back

What each setter stores is what its getter gives. A setter changes the values of its own key only,
and keeps a document one that comes back from its text.
-/

namespace Autostart

namespace Document

/-- A document that comes back from its text: its parts are what their lines read as, and its lines
can be told apart. -/
structure Stable (d : Document) : Prop where
  /-- The parts are what their lines read as. -/
  isRead : d.IsRead
  /-- The lines can be told apart. -/
  isLine : ∀ line ∈ d.lines, Text.IsLine line

/-- A stable document comes back from its text. -/
theorem Stable.parse_text {d : Document} (h : d.Stable) : parse d.text = .ok d :=
  h.isRead.parse_text h.isLine

/-- The document of a text is stable when no line of it ends in a carriage return. -/
theorem stable_of_parse {s : String} {d : Document} (h : parse s = .ok d)
    (hreturn : ∀ line ∈ d.lines, line.toList.getLast? ≠ some '\r') : d.Stable := by
  obtain ⟨hread, hlines⟩ := isRead_of_parse h
  refine ⟨hread, fun line hline => ⟨?_, hreturn line hline⟩⟩
  rw [hlines] at hline
  exact Text.notMem_of_mem_lines hline

/-- A stable document stays one when a value that can be written is stored. -/
theorem Stable.store {d : Document} (h : d.Stable) {key : String} {locale? : Option String}
    {value : String} (hline : KeyLine.IsWritable key locale? value) :
    (d.store key locale? value).Stable :=
  ⟨h.isRead.store hline, isLine_store h.isLine hline⟩

/-- The document without any line is stable. -/
theorem stable_empty : empty.Stable :=
  ⟨isRead_empty, by simp [empty, lines]⟩

/-! ## Values that can be written -/

/-- An escaped text can stand after the equals sign. -/
theorem isValue_escape {value : String} (h : Text.IsStorable value) : IsValue (escape value) :=
  ⟨trimStart_escape h, fun _ hc => isLineEnd_of_mem_escape hc⟩

/-- A new launcher comes back from its text. -/
theorem stable_application : application.Stable :=
  stable_empty.store (.of_none (isPlainKey_of_all rfl rfl) (isValue_escape fun c hc => by
    obtain rfl : c = 'A' := by simpa using hc.symm
    decide))

/-- A truth value can stand after the equals sign. -/
theorem isValue_flag (value : Bool) : IsValue (if value then "true" else "false") := by
  have hall : (if value then "true" else "false").toList.all (fun c => !isLineEnd c) = true := by
    cases value <;> rfl
  refine ⟨by cases value <;> rfl, fun c hc => ?_⟩
  simpa using List.all_eq_true.1 hall c hc

/-- A decimal digit is no end of a line. -/
theorem isLineEnd_of_isDigit {c : Char} (h : c.isDigit = true) : isLineEnd c = false := by
  have hfeed : c ≠ '\n' := by
    rintro rfl
    cases h
  have hreturn : c ≠ '\r' := by
    rintro rfl
    cases h
  simp [isLineEnd, hfeed, hreturn]

/-- A number can stand after the equals sign. -/
theorem isValue_toString (n : Nat) : IsValue (toString n) := by
  have hlist : (toString n).toList = Nat.toDigits 10 n := by simp
  constructor
  · have hne : Nat.toDigits 10 n ≠ [] := Nat.toDigits_ne_nil
    have hhead :=
      Digits.isBlank_of_isDigit (Digits.isDigit_of_mem_toDigits (List.head_mem hne))
    unfold Text.trimStart
    rw [hlist]
    rcases hdigits : Nat.toDigits 10 n with _ | ⟨c, rest⟩
    · exact absurd hdigits hne
    · simp only [hdigits, List.head_cons] at hhead
      rw [Chars.trimStart_cons hhead, ← hdigits, ← hlist, String.ofList_toList]
  · intro c hc
    rw [hlist] at hc
    exact isLineEnd_of_isDigit (Digits.isDigit_of_mem_toDigits hc)

/-! ## What setters store -/

/-- The text of a key is what was stored as its text. -/
theorem text?_setText (d : Document) (key value : String) :
    (d.setText key value).text? key = some value := by
  unfold text? setText
  rw [rawValue?_store, if_pos ⟨rfl, rfl⟩, Option.map_some, unescape_escape_eq]

/-- The truth value of a key is the one that was stored. -/
theorem flag_setFlag (d : Document) (key : String) (value default : Bool) :
    (d.setFlag key value).flag key default = value := by
  unfold flag setFlag
  rw [rawValue?_store, if_pos ⟨rfl, rfl⟩]
  cases value
  · have htrim : Text.trim "false" = "false" := by rfl
    simp [htrim]
  · have htrim : Text.trim "true" = "true" := by rfl
    simp [htrim]

/-- The delay is the one that was stored. -/
theorem delay_setDelay (d : Document) {n : Nat} (h : n ≤ maxDelay) : (d.setDelay n).delay = n := by
  unfold delay setDelay
  rw [rawValue?_store, if_pos ⟨rfl, rfl⟩]
  exact delayOf_toString h

/-- The text of a key for a locale is the one under the suffix of the locale, if there is one. -/
theorem localText?_of_rawValue? {d : Document} {key raw : String} {l : Locale}
    (h : d.rawValue? key (some l.suffix) = some raw) :
    d.localText? key (some l) = some (unescape raw) := by
  -- The lookup starts with the suffix, so no other candidate matters.
  obtain ⟨others, hothers⟩ := List.head?_eq_some_iff.1 l.head?_candidates
  unfold localText?
  dsimp only
  rw [hothers, List.findSome?_cons, h]

/-- The text of a key for a locale is the one that was stored for it. -/
theorem localText?_setLocalText (d : Document) (key : String) (locale? : Option Locale)
    (value : String) : (d.setLocalText key locale? value).localText? key locale? = some value := by
  cases locale? with
  | none => exact text?_setText d key value
  | some l =>
    have hraw : (d.setLocalText key (some l) value).rawValue? key (some l.suffix) =
        some (escape value) := by
      unfold setLocalText
      rw [rawValue?_store, if_pos ⟨rfl, rfl⟩]
    rw [localText?_of_rawValue? hraw, unescape_escape_eq]

/-- A text stored under the key alone leaves the values under locale suffixes. -/
theorem rawValue?_setText_some (d : Document) (key key' value suffix : String) :
    (d.setText key value).rawValue? key' (some suffix) = d.rawValue? key' (some suffix) := by
  unfold setText
  rw [rawValue?_store, if_neg (by simp)]

/-- Filling in the text under the key alone keeps the text that the locale sees. -/
theorem localText?_fillUntranslated {d : Document} {key value : String}
    {locale? : Option Locale} (h : d.localText? key locale? = some value) :
    (d.fillUntranslated key locale?).localText? key locale? = some value := by
  unfold fillUntranslated
  split
  · rw [h]
    dsimp only
    cases locale? with
    | none => exact text?_setText d key value
    | some l =>
      unfold localText? at h ⊢
      dsimp only at h ⊢
      simp only [rawValue?_setText_some]
      -- Either a candidate has a text, which stays, or the text was that of the key alone.
      split at h
      · exact h
      · exact text?_setText d key value
  · exact h

end Document

end Autostart
