import Autostart.Proofs.Registry.ShadowRemoval
import Autostart.Proofs.Text.Markup

/-!
# What is shown of launchers

The icon and the description of a launcher are kept beside the texts that they come from. Whatever
makes a launcher or changes its texts makes them anew, so at every point of a run they are those of
the texts as they are. The description names the launcher and says what it is for, and both can be
read back from the markup, whatever characters they have.
-/

namespace Autostart

/-- A text that starts with a slash specifies the file of this path. -/
theorem Icon.ofSpec_of_slash {spec : String} (h : spec.toList.head? = some '/') :
    ofSpec spec = .file ⟨spec⟩ :=
  if_pos (beq_iff_eq.2 h)

/-- Any other text specifies the icon of the theme by this name. -/
theorem Icon.ofSpec_of_noSlash {spec : String} (h : spec.toList.head? ≠ some '/') :
    ofSpec spec = .themed spec :=
  if_neg fun habsolute => h (beq_iff_eq.1 habsolute)

namespace Entry

/-- A text unless it is blank, and else another one. -/
def textOr (text? : Option String) (other : String) : String :=
  if Text.isMissing text? then other else text?.getD ""

/-- What a launcher is called in its description. -/
def title (e : Entry) : String :=
  textOr e.name? (textOr e.exec? "No name")

/-- What the description of a launcher says about it. -/
def remark (e : Entry) : String :=
  textOr e.comment? "No description"

/-- The first text that is not blank is the first one, or else the first of the others. -/
theorem firstOf_cons (text? : Option String) (texts : List (Option String)) (default : String) :
    firstOf (text? :: texts) default = textOr text? (firstOf texts default) := by
  unfold firstOf textOr
  rw [List.find?_cons]
  rcases hmissing : Text.isMissing text? with _ | _
  · -- A text that is not blank is there.
    cases text? with
    | none => cases hmissing
    | some text => rfl
  · rfl

/-- A description has the title in bold, and the remark on the next line. -/
theorem describe_eq (e : Entry) :
    describe e.name? e.exec? e.comment? =
      "<b>" ++ Text.escapeMarkup e.title ++ "</b>\n" ++ Text.escapeMarkup e.remark := by
  unfold describe
  rw [firstOf_cons, firstOf_cons, firstOf_cons]
  rfl

/-- A launcher is described by the texts that it has. -/
def IsDescribed (e : Entry) : Prop :=
  e.description = describe e.name? e.exec? e.comment?

/-- A launcher with a due save is described as before. -/
theorem IsDescribed.schedule {e : Entry} (h : e.IsDescribed) (s : SearchPath) (due : Nat) :
    (e.schedule s due).IsDescribed := by
  unfold Entry.schedule
  split
  · exact h
  · exact h

end Entry

namespace Registry

/-- In every run a launcher is described by the texts that it has. -/
theorem Reachable.isDescribed {allowed : Action → Prop} {settings : Settings} {r : Registry}
    (h : Reachable allowed settings r) {key : String} {e : Entry} (hfind : r.find? key = some e) :
    e.IsDescribed := by
  refine h.entry_invariant (P := fun _ e => e.IsDescribed) ?_ hfind
  intro a key before? after? _ hchange hbefore e he
  cases hchange with
  | dropped => cases he
  | made before? path d rank shadow? =>
    obtain rfl := Option.some.inj he
    rfl
  | command before? request path due =>
    obtain rfl := Option.some.inj he
    have hmade : (Entry.ofCommand key path request.name? request.comment? request.exec
        request.delay).IsDescribed := rfl
    exact hmade.schedule _ due
  | edited e' name? comment? exec? delay due =>
    -- An edit of the texts describes the launcher anew.
    obtain rfl := Option.some.inj he
    have hanew : (edited e' name? comment? exec? delay).describeAnew.IsDescribed := rfl
    exact hanew.schedule _ due
  | switched e' hidden due =>
    obtain rfl := Option.some.inj he
    have hsame : (switched e' hidden).IsDescribed := hbefore e' rfl
    exact hsame.schedule _ due
  | shadowed e' | reported e' | undue e' | saved e' | back e' =>
    -- A note on the launcher, or the end of its save, leaves its texts.
    obtain rfl := Option.some.inj he
    exact hbefore e' rfl

/-- At every point of a run a launcher has an icon when its texts specify one, and then this one: a
file for an absolute path, and an icon of the theme for anything else. Its description has its name
in bold, or else its command line, and its comment on the next line. No character of a text is
mistaken for one of the markup, and every text is read back from it. -/
theorem derived_values_current {allowed : Action → Prop} {settings : Settings} {r : Registry}
    (h : Reachable allowed settings r) {key : String} {e : Entry} (hfind : r.find? key = some e) :
    (e.icon? = none ↔ e.iconSpec? = none) ∧
      (∀ spec, e.iconSpec? = some spec →
        (spec.toList.head? = some '/' → e.icon? = some (.file ⟨spec⟩)) ∧
        (spec.toList.head? ≠ some '/' → e.icon? = some (.themed spec))) ∧
      e.description =
        "<b>" ++ Text.escapeMarkup e.title ++ "</b>\n" ++ Text.escapeMarkup e.remark ∧
      ∀ text,
        (∀ sign ∈ Text.markupSigns, sign ∉ (Text.escapeMarkup text).toList) ∧
          Text.resolveMarkup (Text.escapeMarkup text) = text := by
  have hicon := h.icon?_eq hfind
  refine ⟨?_, fun spec hspec => ⟨fun hslash => ?_, fun hslash => ?_⟩, ?_,
    fun text => ⟨fun sign hsign => ?_, ?_⟩⟩
  · rw [hicon, Option.map_eq_none_iff]
  · rw [hicon, hspec, Option.map_some, Icon.ofSpec_of_slash hslash]
  · rw [hicon, hspec, Option.map_some, Icon.ofSpec_of_noSlash hslash]
  · rw [← Entry.describe_eq]
    exact h.isDescribed hfind
  · exact Text.notMem_escapeMarkup hsign text
  · exact Text.resolveMarkup_escapeMarkup text

/-- Files with a launcher of the system whose icon is a file, and one whose icon is of the theme. -/
def twoPicturedLaunchers : FileStore :=
  ((FileStore.atDirectory []).put ⟨"system/a.desktop"⟩
    (.file (.text "[Desktop Entry]\nName=A\nExec=a\nIcon=/a.png\n"))).put ⟨"system/b.desktop"⟩
      (.file (.text "[Desktop Entry]\nExec=b\nIcon=b/c.png\n"))

/-- A run in which a launcher of the system loses its name and gets another command line and a
comment. -/
def retitled : Registry :=
  ((fresh oneSystemDirectory twoPicturedLaunchers 0).perform .scan).perform
    (.update "a.desktop" none (some "<'&lt;'>") (some "tj & co") 0)

/-- A launcher without a name is described by its command line, and what looks like an entity in its
comment is no entity of the markup. Only an icon with an absolute path is a file. -/
theorem derived_values_retitled :
    (∃ e, retitled.find? "a.desktop" = some e ∧ e.title = "tj & co" ∧ e.remark = "<'&lt;'>" ∧
      e.icon? = some (.file ⟨"/a.png"⟩) ∧
      e.description = "<b>tj &amp; co</b>\n&lt;&apos;&amp;lt;&apos;&gt;" ∧
      Text.resolveMarkup "&lt;&apos;&amp;lt;&apos;&gt;" = "<'&lt;'>") ∧
    ∃ e, retitled.find? "b.desktop" = some e ∧ e.icon? = some (.themed "b/c.png") := by
  have hreachable : Reachable (fun _ => True) oneSystemDirectory retitled :=
    .step _ _ (.step _ _ (.fresh twoPicturedLaunchers 0) trivial) trivial
  obtain ⟨e, hfind, htitle, hremark, hspec⟩ : ∃ e, retitled.find? "a.desktop" = some e ∧
      e.title = "tj & co" ∧ e.remark = "<'&lt;'>" ∧ e.iconSpec? = some "/a.png" :=
    ⟨_, rfl, rfl, rfl, rfl⟩
  obtain ⟨e', hfind', hspec'⟩ : ∃ e, retitled.find? "b.desktop" = some e ∧
      e.iconSpec? = some "b/c.png" := ⟨_, rfl, rfl⟩
  obtain ⟨-, hicon, hdescription, htexts⟩ := derived_values_current hreachable hfind
  obtain ⟨-, hicon', -⟩ := derived_values_current hreachable hfind'
  rw [htitle, hremark] at hdescription
  exact ⟨⟨e, hfind, htitle, hremark, (hicon _ hspec).1 rfl, hdescription, (htexts "<'&lt;'>").2⟩,
    e', hfind', (hicon' _ hspec').2 (by decide)⟩

end Registry

end Autostart
