import Mathlib.Data.List.Infix
import TableFilter.KeywordScan
import TableFilter.Proofs.Text.LetterCase

/-!
# Keywords that are found

A keyword that can be written in a JSON text as it is escapes the scan nowhere: neither the escapes
around it nor its upper-case form break it up. What the scan finds, and nothing else, decides
whether an object passes. Main statement: `keywords_in_texts_are_found`.
-/

namespace TableFilter

namespace Json

/-! ## Texts in a value -/

/-- A text that stands in a value at any depth: a string, or the name of a member. -/
inductive Value.HasText (s : String) : Value → Prop where
  | string : HasText s (.string s)
  | item {items : List Value} {v : Value} (hmem : v ∈ items) (htext : HasText s v) :
    HasText s (.array items)
  | name {members : List (String × Value)} {v : Value} (hmem : (s, v) ∈ members) :
    HasText s (.object members)
  | member {members : List (String × Value)} {name : String} {v : Value}
    (hmem : (name, v) ∈ members) (htext : HasText s v) : HasText s (.object members)

namespace Value

theorem infix_itemsChars {items : List Value} {v : Value} (hmem : v ∈ items) :
    v.chars <:+: itemsChars items := by
  induction items with
  | nil => cases hmem
  | cons first rest ih =>
    cases rest with
    | nil =>
      rw [List.mem_singleton.mp hmem]
      exact List.infix_rfl
    | cons second rest =>
      rw [itemsChars]
      rcases List.mem_cons.mp hmem with rfl | hrest
      · exact (List.prefix_append _ _).isInfix
      · apply (ih hrest).trans
        exact ((List.suffix_cons _ _).trans (List.suffix_append _ _)).isInfix

/-- The text of an object has the names of its members and the texts of their values. -/
theorem infix_membersChars {members : List (String × Value)} {name : String} {v : Value}
    (hmem : (name, v) ∈ members) :
    stringChars name ++ ':' :: v.chars <:+: membersChars members := by
  induction members with
  | nil => cases hmem
  | cons first rest ih =>
    cases rest with
    | nil =>
      rw [← List.mem_singleton.mp hmem]
      exact List.infix_rfl
    | cons second rest =>
      obtain ⟨firstName, w⟩ := first
      rw [membersChars]
      rcases List.mem_cons.mp hmem with heq | hrest
      · cases heq
        exact (List.prefix_append _ _).isInfix
      · apply (ih hrest).trans
        exact ((List.suffix_cons _ _).trans (List.suffix_append _ _)).isInfix

/-- A text that stands in a value is printed somewhere in the text of the value. -/
theorem HasText.infix_chars {s : String} {v : Value} (htext : v.HasText s) :
    stringChars s <:+: v.chars := by
  induction htext with
  | string => exact List.infix_rfl
  | item hmem _ ih =>
    apply (ih.trans (infix_itemsChars hmem)).trans
    exact ⟨['['], [']'], rfl⟩
  | name hmem =>
    have hname := (List.prefix_append _ _).isInfix.trans (infix_membersChars hmem)
    exact hname.trans ⟨['\x7b'], ['\x7d'], rfl⟩
  | member hmem _ ih =>
    have hvalue := ((List.suffix_cons _ _).trans (List.suffix_append _ _)).isInfix.trans
      (infix_membersChars hmem)
    exact (ih.trans hvalue).trans ⟨['\x7b'], ['\x7d'], rfl⟩

end Value

/-- A character that a string in a JSON text shows as it is. -/
def isPlainChar (c : Char) : Bool :=
  c ≠ '"' && c ≠ '\\' && 32 ≤ c.toNat

theorem escapedChar_of_isPlainChar {c : Char} (hplain : isPlainChar c = true) :
    escapedChar c = [c] := by
  simp only [isPlainChar, Bool.and_eq_true, decide_eq_true_eq] at hplain
  obtain ⟨⟨hquote, hbackslash⟩, hspace⟩ := hplain
  have hne (d : Char) (hd : d.toNat < 32) : c ≠ d := by
    intro heq
    rw [heq] at hspace
    omega
  rw [escapedChar, if_neg hquote, if_neg hbackslash, if_neg (hne _ (by decide)),
    if_neg (hne _ (by decide)), if_neg (hne _ (by decide)), if_neg (hne _ (by decide)),
    if_neg (hne _ (by decide)), if_neg (by omega), if_neg (by omega)]

theorem flatMap_escapedChar_of_plain {cs : List Char}
    (hplain : ∀ c ∈ cs, isPlainChar c = true) : cs.flatMap escapedChar = cs := by
  induction cs with
  | nil => rfl
  | cons c cs ih =>
    obtain ⟨hc, hcs⟩ := List.forall_mem_cons.mp hplain
    rw [List.flatMap_cons, escapedChar_of_isPlainChar hc, ih hcs, List.singleton_append]

theorem isPlainChar_toLower (c : Char) : isPlainChar c.toLower = isPlainChar c := by
  apply Text.apply_toLower (a := true)
  intro c hletter
  have hrange := (Text.isAlpha_iff c).mp hletter
  have hquote : c ≠ '"' := by
    rintro rfl
    exact absurd hletter (by decide)
  have hbackslash : c ≠ '\\' := by
    rintro rfl
    exact absurd hletter (by decide)
  simp only [isPlainChar, Bool.and_eq_true, decide_eq_true_eq]
  exact ⟨⟨hquote, hbackslash⟩, by omega⟩

end Json

namespace Text

/-! ## Upper case -/

theorem upperChar_ne_nil (c : Char) : upperChar c ≠ [] := by
  have hexpansions : ∀ entry ∈ upperExpansions, entry.2 ≠ [] := by
    decide
  unfold upperChar
  split
  · exact List.cons_ne_nil _ _
  · split
    next entry form hfound =>
      have hform := hexpansions _ (List.mem_of_find?_eq_some hfound)
      exact fun hnil => hform (List.map_eq_nil_iff.mp hnil)
    next => exact List.cons_ne_nil _ _

theorem upper_eq_empty_iff (s : String) : upper s = "" ↔ s = "" := by
  rw [← String.toList_eq_nil_iff, ← String.toList_eq_nil_iff, upper, String.toList_ofList,
    upperChars, List.flatMap_eq_nil_iff, List.eq_nil_iff_forall_not_mem]
  constructor
  · intro hnil c hc
    exact upperChar_ne_nil c (hnil c hc)
  · intro hnone c hc
    exact absurd hc (hnone c)

end Text

namespace KeywordScan

open Json (Value isPlainChar)

/-! ## What is found -/

/-- A word that a text has in any case of its ASCII letters is in the upper-case form of what a
JSON text shows of it, if the word can be shown as it is. -/
theorem infix_upperChars_stringChars {word : List Char} {s : String}
    (hplain : ∀ c ∈ word, isPlainChar c = true)
    (hoccurs : word.map Char.toLower <:+: s.toList.map Char.toLower) :
    Text.upperChars word <:+: Text.upperChars (Json.stringChars s) := by
  obtain ⟨part, hpart, hsame⟩ := List.infix_map_iff.mp hoccurs
  have hpartPlain : ∀ c ∈ part, isPlainChar c = true := by
    intro c hc
    have hlower : c.toLower ∈ word.map Char.toLower := by
      rw [hsame]
      exact List.mem_map_of_mem hc
    obtain ⟨d, hd, heq⟩ := List.mem_map.mp hlower
    rw [← Json.isPlainChar_toLower, ← heq, Json.isPlainChar_toLower]
    exact hplain d hd
  have hshown : part <:+: Json.stringChars s := by
    have hescaped := hpart.flatMap Json.escapedChar
    rw [Json.flatMap_escapedChar_of_plain hpartPlain] at hescaped
    exact hescaped.trans ⟨['"'], ['"'], rfl⟩
  rw [← Text.upperChars_map_toLower word, hsame, Text.upperChars_map_toLower]
  exact hshown.flatMap Text.upperChar

theorem mem_found_iff {options : Options} {text word : String} :
    word ∈ found options text ↔ ∃ keyword ∈ options.keywords,
      Text.upper (Text.trim keyword) = word ∧ word ≠ "" ∧
        word.toList <:+: (Text.upper text).toList := by
  rw [Text.upper, String.toList_ofList]
  simp only [found, List.mem_filter, List.mem_map, Bool.and_eq_true, Text.occursIn_iff,
    Bool.not_eq_true', String.isEmpty_eq_false_iff]
  constructor
  · rintro ⟨⟨keyword, hkeyword, hword⟩, hne, hoccurs⟩
    exact ⟨keyword, hkeyword, hword, hne, hoccurs⟩
  · rintro ⟨keyword, hkeyword, hword, hne, hoccurs⟩
    exact ⟨⟨keyword, hkeyword, hword⟩, hne, hoccurs⟩

/-- An object passes if nothing is to be refused, or if none of the keywords is in its text. -/
theorem accepts_object_iff (options : Options) (members : List (String × Value)) :
    accepts options (.object members) = true ↔ options.block = false ∨
      ∀ keyword ∈ options.keywords, Text.upper (Text.trim keyword) ≠ "" →
        ¬ (Text.upper (Text.trim keyword)).toList <:+:
          (Text.upper (Value.object members).text).toList := by
  rw [accepts, Bool.or_eq_true, Bool.not_eq_true', or_comm, List.isEmpty_iff,
    List.eq_nil_iff_forall_not_mem]
  apply or_congr_right
  constructor
  · intro hnone keyword hkeyword hne hoccurs
    exact hnone _ (mem_found_iff.mpr ⟨keyword, hkeyword, rfl, hne, hoccurs⟩)
  · intro hnone word hfound
    obtain ⟨keyword, hkeyword, rfl, hne, hoccurs⟩ := mem_found_iff.mp hfound
    exact hnone keyword hkeyword hne hoccurs

/-- A text with the keyword, anywhere in a value, makes the value fail. -/
theorem accepts_eq_false_of_hasText {options : Options} {v : Value} {keyword s : String}
    (hblock : options.block = true) (hkeyword : keyword ∈ options.keywords)
    (hne : Text.trim keyword ≠ "")
    (hplain : ∀ c ∈ (Text.trim keyword).toList, isPlainChar c = true) (htext : v.HasText s)
    (hoccurs : (Text.trim keyword).toLower.toList <:+: s.toLower.toList) :
    accepts options v = false := by
  cases v with
  | object members =>
    rw [← Bool.not_eq_true, accepts_object_iff]
    intro haccepted
    rcases haccepted with hpass | hnone
    · rw [hblock] at hpass
      cases hpass
    · apply hnone keyword hkeyword
      · intro hempty
        exact hne ((Text.upper_eq_empty_iff _).mp hempty)
      · rw [Text.toList_toLower, Text.toList_toLower] at hoccurs
        have hshown := infix_upperChars_stringChars hplain hoccurs
        simp only [Text.upper, Value.text, String.toList_ofList]
        exact hshown.trans (htext.infix_chars.flatMap Text.upperChar)
  | _ => rfl

/-- Options that are at least as strict refuse where the others do, and look for all that those
look for. -/
structure Options.IsWithin (strict loose : Options) : Prop where
  block : loose.block = true → strict.block = true
  keywords : loose.keywords ⊆ strict.keywords

theorem Options.IsWithin.accepts {strict loose : Options} {v : Value}
    (hwithin : strict.IsWithin loose) (haccepts : accepts strict v = true) :
    KeywordScan.accepts loose v = true := by
  cases v with
  | object members =>
    rw [accepts_object_iff] at haccepts ⊢
    rcases haccepts with hpass | hnone
    · left
      rw [← Bool.not_eq_true] at hpass ⊢
      exact fun hblock => hpass (hwithin.block hblock)
    · right
      intro keyword hkeyword
      exact hnone keyword (hwithin.keywords hkeyword)
  | _ => cases haccepts

/-- Where keywords are refused, no value passes in which a string or the name of a member, at any
depth, has a keyword that can be written as it is, in any case of its ASCII letters. An object
passes exactly if nothing is refused or no keyword is in its text, both in upper case, and stricter
options let nothing more pass. -/
theorem keywords_in_texts_are_found :
    (∀ (options : Options) (v : Value) (keyword s : String),
      options.block = true → keyword ∈ options.keywords → Text.trim keyword ≠ "" →
      (∀ c ∈ (Text.trim keyword).toList, isPlainChar c = true) → v.HasText s →
      (Text.trim keyword).toLower.toList <:+: s.toLower.toList → accepts options v = false) ∧
    (∀ (options : Options) (members : List (String × Value)),
      accepts options (.object members) = true ↔ options.block = false ∨
        ∀ keyword ∈ options.keywords, Text.upper (Text.trim keyword) ≠ "" →
          ¬ (Text.upper (Text.trim keyword)).toList <:+:
            (Text.upper (Value.object members).text).toList) ∧
    ∀ (strict loose : Options) (v : Value), strict.IsWithin loose →
      accepts strict v = true → accepts loose v = true := by
  refine ⟨?_, accepts_object_iff, ?_⟩
  · intro options v keyword s hblock hkeyword hne hplain htext hoccurs
    exact accepts_eq_false_of_hasText hblock hkeyword hne hplain htext hoccurs
  · intro strict loose v hwithin haccepts
    exact hwithin.accepts haccepts

/-- A keyword is found in a name inside of a list, between characters that are escaped; looked for
by itself it lets a name pass that it lets pass together with another. -/
theorem nested_name_is_refused :
    accepts ⟨true, ["", " Drop "]⟩
        (.object [("a", .array [.null, .object [("\"\ndROP\n", .bool true)]])]) = false ∧
      accepts ⟨true, ["exec", "Drop"]⟩ (.object [("name", .string "Dr. Op")]) = true ∧
      accepts ⟨true, ["Drop"]⟩ (.object [("name", .string "Dr. Op")]) = true := by
  obtain ⟨hfound, -, hstrict⟩ := keywords_in_texts_are_found
  have haccepts :
      accepts ⟨true, ["exec", "Drop"]⟩ (.object [("name", .string "Dr. Op")]) = true := by
    decide +kernel
  refine ⟨?_, haccepts, ?_⟩
  · have hnested : (Value.array [.null, .object [("\"\ndROP\n", .bool true)]]).HasText
        "\"\ndROP\n" :=
      .item (List.mem_cons_of_mem _ List.mem_cons_self) (.name List.mem_cons_self)
    have hoccurs : (Text.trim " Drop ").toLower.toList <:+: "\"\ndROP\n".toLower.toList := by
      decide +kernel
    have hplain : (Text.trim " Drop ").toList.all isPlainChar = true := by
      decide +kernel
    exact hfound _ _ " Drop " _ rfl (by decide) (by decide) (List.all_eq_true.mp hplain)
      (.member List.mem_cons_self hnested) hoccurs
  · have hwithin : Options.IsWithin ⟨true, ["exec", "Drop"]⟩ ⟨true, ["Drop"]⟩ :=
      ⟨id, List.subset_cons_self _ _⟩
    exact hstrict _ _ _ hwithin haccepts

end KeywordScan

end TableFilter
