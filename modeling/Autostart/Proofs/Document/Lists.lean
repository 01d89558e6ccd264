import Autostart.Document.Fields
import Autostart.Document.Parse
import Autostart.Proofs.Document.Escaping

/-!
# Lists come back from how they are written

A list is written item by item, each in its escaped form, with a backslash before every semicolon in
it and a semicolon after it. It is read in two passes that both give the backslash a meaning: the
first cuts the text at the semicolons, the second takes the escapes of each item back. They do not
get in each other's way, since an item is a row of written characters, and the first pass takes each
of them as a whole: a backslash is always followed by the character that it belongs to.
-/

namespace Autostart.Document

/-- How a character of an escaped item is written in a list. -/
def guardChar (c : Char) : List Char :=
  if c = ';' then ['\\', ';'] else [c]

/-- How an item is written in a list. -/
def itemChars (item : String) : List Char :=
  (escape item).toList.flatMap guardChar

/-- How the items of a list are written: a semicolon stands after each. -/
def listChars (list : List String) : List Char :=
  list.flatMap fun item => itemChars item ++ [';']

/-- How a list is written. -/
def listText (list : List String) : String :=
  String.ofList (listChars list)

/-! ## The first pass -/

/-- A written character belongs to the item in which it stands, in its escaped form. -/
theorem itemsAfter_guarded (item : List Char) (c : Char) (rest : List Char) :
    itemsAfter item ((escapeChar c).flatMap guardChar ++ rest) =
      itemsAfter (item ++ escapeChar c) rest := by
  unfold escapeChar
  split
  · rfl
  · rfl
  · rfl
  · rfl
  · next hbackslash _ _ _ =>
    by_cases hsemicolon : c = ';'
    · subst hsemicolon
      rfl
    · -- The character has no meaning of its own, so it is taken as it is.
      have hguard : [c].flatMap guardChar = [c] := by simp [guardChar, hsemicolon]
      rw [hguard, List.singleton_append, itemsAfter]
      · exact fun _ heq _ => hbackslash heq
      · exact fun _ _ heq _ => hbackslash heq
      · exact hsemicolon

/-- Written characters belong to the item in which they stand. -/
theorem itemsAfter_flatMap (item cs rest : List Char) :
    itemsAfter item ((cs.flatMap escapeChar).flatMap guardChar ++ rest) =
      itemsAfter (item ++ cs.flatMap escapeChar) rest := by
  induction cs generalizing item with
  | nil => simp
  | cons c cs ih =>
    rw [List.flatMap_cons, List.flatMap_append, List.append_assoc, itemsAfter_guarded, ih,
      List.append_assoc]

/-- A written item is read up to its end, in its escaped form. -/
theorem itemsAfter_itemChars (item : String) (rest : List Char) :
    itemsAfter [] (itemChars item ++ rest) = itemsAfter (escapeChars item.toList) rest := by
  unfold itemChars escape
  rw [String.toList_ofList]
  unfold escapeChars
  split
  · next cs _ =>
    -- The escaped space at the start is one more written character.
    show itemsAfter ['\\', 's'] ((cs.flatMap escapeChar).flatMap guardChar ++ rest) = _
    rw [itemsAfter_flatMap]
    rfl
  · exact itemsAfter_flatMap [] _ rest

/-- The items of a written list, still escaped, come before those of what follows it. -/
theorem itemsAfter_listChars (list : List String) (rest : List Char) :
    itemsAfter [] (listChars list ++ rest) =
      list.map (fun item => escapeChars item.toList) ++ itemsAfter [] rest := by
  induction list with
  | nil => rfl
  | cons item others ih =>
    unfold listChars at ih ⊢
    rw [List.flatMap_cons, List.append_assoc, List.append_assoc, itemsAfter_itemChars,
      List.singleton_append, itemsAfter, ih]
    rfl

/-- Escaping leaves nothing of the empty text only. -/
theorem escapeChars_eq_nil_iff {cs : List Char} : escapeChars cs = [] ↔ cs = [] := by
  constructor
  · intro h
    rw [← unescapeChars_escapeChars cs, h]
    rfl
  · rintro rfl
    rfl

/-! ## Both passes -/

/-- The items that were read are those that were escaped. -/
theorem map_unescape_map_escape (list : List String) :
    (list.map fun item => escapeChars item.toList).map
      (fun item => String.ofList (unescapeChars item)) = list := by
  rw [List.map_map]
  refine (List.map_congr_left fun item _ => ?_).trans (List.map_id list)
  show String.ofList (unescapeChars (escapeChars item.toList)) = item
  rw [unescapeChars_escapeChars, String.ofList_toList]

/-- A written list is read as the list. -/
theorem items_listText (list : List String) : items (listText list) = list := by
  have hread : itemsAfter [] (listText list).toList =
      list.map fun item => escapeChars item.toList := by
    calc itemsAfter [] (listText list).toList
        = itemsAfter [] (listChars list ++ []) := by
          rw [listText, String.toList_ofList, List.append_nil]
      _ = list.map (fun item => escapeChars item.toList) ++ [] := itemsAfter_listChars list []
      _ = list.map fun item => escapeChars item.toList := List.append_nil _
  unfold items
  rw [hread, map_unescape_map_escape]

/-- A list without the last semicolon is what the front of the list is written as, and the last
item. -/
theorem toList_of_append_semicolon {front : List String} {last raw : String}
    (h : raw ++ ";" = listText (front ++ [last])) :
    raw.toList = listChars front ++ itemChars last := by
  have hchars : raw.toList ++ [';'] = listChars front ++ itemChars last ++ [';'] := by
    calc raw.toList ++ [';']
        = (raw ++ ";").toList := by rw [String.toList_append]; rfl
      _ = listChars (front ++ [last]) := by rw [h, listText, String.toList_ofList]
      _ = listChars front ++ itemChars last ++ [';'] := by simp [listChars]
  exact List.append_cancel_right hchars

/-- A written list is read as the list without the last semicolon too, when the last item is not
empty. -/
theorem items_of_append_semicolon {list : List String} {last raw : String}
    (hlast : list.getLast? = some last) (hne : last ≠ "") (hraw : raw ++ ";" = listText list) :
    items raw = list := by
  obtain ⟨front, rfl⟩ := List.getLast?_eq_some_iff.1 hlast
  have hescaped : escapeChars last.toList ≠ [] := fun hnil =>
    hne (String.toList_eq_nil_iff.1 (escapeChars_eq_nil_iff.1 hnil))
  -- What follows the last semicolon is an item, since it is not empty.
  have hend : itemsAfter [] (itemChars last) = [escapeChars last.toList] := by
    have hitem := itemsAfter_itemChars last []
    rw [List.append_nil] at hitem
    rw [hitem, itemsAfter, if_neg (by simpa using hescaped)]
  have hread : itemsAfter [] raw.toList =
      (front ++ [last]).map fun item => escapeChars item.toList := by
    rw [toList_of_append_semicolon hraw, itemsAfter_listChars, hend, List.map_append,
      List.map_singleton]
  unfold items
  rw [hread, map_unescape_map_escape]

/-- A document whose key holds a written list has the items of this list under the key: empty items,
and items with semicolons, backslashes and blanks, too. The semicolon after the last item can be
left out when this item is not empty. -/
theorem items_of_written (d : Document) (key : String) (list : List String) :
    (d.rawValue? key none = some (listText list) → d.items? key = some list) ∧
      ∀ raw last, list.getLast? = some last → last ≠ "" → raw ++ ";" = listText list →
        d.rawValue? key none = some raw → d.items? key = some list := by
  unfold items?
  constructor
  · intro hvalue
    rw [hvalue, Option.map_some, items_listText]
  · intro raw last hlast hne hraw hvalue
    rw [hvalue, Option.map_some, items_of_append_semicolon hlast hne hraw]

/-- A launcher with a list of each form. -/
def twoLists : String :=
  "[Desktop Entry]\nOnlyShowIn=\\sa\\;\\\\;;\\\\\\;;\nNotShowIn = b\\\\;\\;c\n"

/-- The lists of a launcher are those that were written: one with an empty item, and with semicolons
right behind and right before backslashes, and one without a semicolon at its end. -/
theorem items_twoLists :
    ∃ d, parse twoLists = .ok d ∧ d.items? "OnlyShowIn" = some [" a;\\", "", "\\;"] ∧
      d.items? "NotShowIn" = some ["b\\", ";c"] := by
  refine ⟨_, by rfl, (items_of_written _ "OnlyShowIn" _).1 (by rfl),
    (items_of_written _ "NotShowIn" _).2 "b\\\\;\\;c" ";c" (by rfl) (by decide) (by rfl) (by rfl)⟩

end Autostart.Document
