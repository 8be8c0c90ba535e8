import Keyboards.Proofs.Catalog.Contents
import Keyboards.Proofs.Locale.Identifiers
import Keyboards.WritingSystem
import Keyboards.Xkb.Adaptor
import Mathlib.Data.List.Find

/-! Old records that name their keyboard by the numeric identifier of a locale: they mean the first
keyboard of the system that is filed under that locale. -/

namespace Keyboards

open Keyboards.Locale (windowsIds ofWindowsId? readWindowsId? sameName)
open WritingSystem (given)

variable {k : Keyboard} {table : List (Nat × String)} {n : Nat}

/-- A language whose identifier was looked for in a table, from its beginning on. -/
def Language.ofLocaleIn (table : List (Nat × String)) (locale layoutName : String) : Language :=
  ⟨locale, layoutName, Locale.windowsIdIn? table locale⟩

theorem Language.ofLocaleIn_of_perm (order : table.Perm windowsIds) (locale layoutName : String) :
    ofLocaleIn table locale layoutName = ofLocale locale layoutName := by
  rw [ofLocaleIn, ofLocale, Locale.windowsIdIn?_of_perm order]

namespace Keyboard

/-- A keyboard without a language, or with one whose identifier was looked for in a table. -/
def FiledBy (table : List (Nat × String)) (k : Keyboard) : Prop :=
  ∀ l, k.language = some l → ∃ locale layoutName, l = .ofLocaleIn table locale layoutName

/-- Whether a keyboard is one of the system and its language that of a locale, up to case. -/
def isFiledUnder (locale : String) (k : Keyboard) : Bool :=
  k.category = some .primary && k.language.any fun l => sameName l.locale locale

/-- The identifier of a keyboard leads to the locale that it is filed under. -/
theorem FiledBy.lcid_eq_some_iff (filed : k.FiledBy table) (order : table.Perm windowsIds) :
    k.lcid = some n ↔ ∃ locale, ofWindowsId? n = some locale ∧
      (k.language.any fun l => sameName l.locale locale) = true := by
  cases hl : k.language with
  | none => simp [lcid, hl]
  | some l =>
    obtain ⟨locale, layoutName, rfl⟩ := filed l hl
    have hlcid : k.lcid = Locale.windowsId? locale := by
      rw [lcid, hl, Language.ofLocaleIn_of_perm order]
      rfl
    rw [hlcid, Locale.windowsId?_eq_some_iff]
    rfl

end Keyboard

/-- However its settings relate layouts and locales, the adaptor for system layouts files what it
offers by the locale. -/
theorem Xkb.State.filedBy_keyboardOf (order : table.Perm windowsIds) (t : Xkb.State)
    (l : Xkb.Layout) : (t.keyboardOf l).FiledBy table := by
  intro language hlanguage
  rw [keyboardOf, keyboardNamed] at hlanguage
  dsimp only at hlanguage
  split at hlanguage
  next => cases hlanguage
  next =>
    cases hlanguage
    exact ⟨_, _, (Language.ofLocaleIn_of_perm order _ _).symm⟩

namespace WritingSystem

variable {c : Catalog} {ws : WritingSystem} {stored : String}

/-- Without a keyboard name only the identifier counts. -/
theorem legacy?_of_unnamed (unnamed : given ws.keyboardName = none)
    (numbered : ws.windowsId = some stored) (reads : readWindowsId? stored = some n) :
    ws.legacy? c = c.find? fun k => k.category = some .primary && k.lcid = some n := by
  have hstored : stored ≠ "" := by
    rintro rfl
    cases reads
  have hgiven : given ws.windowsId = some stored := by
    rw [numbered, given, Option.filter_some, if_pos (by simpa using hstored)]
  simp [legacy?, unnamed, hgiven, reads, legacyById?]

/-- Where all keyboards of the system are filed by their locale, a record with a numeric identifier
and no keyboard name means the first one that is filed under the locale of that identifier, up to
case; it means none if the identifier has no locale, or the locale no keyboard. In which order the
table of identifiers was gone through does not matter, and the adaptor for system layouts files all
that it offers so. -/
theorem legacy?_numbered (order : table.Perm windowsIds)
    (filed : ∀ k ∈ c.toList, k.category = some .primary → k.FiledBy table)
    (unnamed : given ws.keyboardName = none) (numbered : ws.windowsId = some stored)
    (reads : readWindowsId? stored = some n) :
    (ws.legacy? c =
      (ofWindowsId? n).bind fun locale => c.toList.find? (·.isFiledUnder locale)) ∧
    (∀ locale layoutName,
      Language.ofLocaleIn table locale layoutName = .ofLocale locale layoutName) ∧
    ∀ (t : Xkb.State) (l : Xkb.Layout), (t.keyboardOf l).FiledBy table := by
  refine ⟨?_, Language.ofLocaleIn_of_perm order, Xkb.State.filedBy_keyboardOf order⟩
  rw [legacy?_of_unnamed unnamed numbered reads, Catalog.find?]
  cases hn : ofWindowsId? n with
  | none =>
    rw [Option.bind_none, List.find?_eq_none]
    intro k hk hfits
    simp only [Bool.and_eq_true, decide_eq_true_eq] at hfits
    obtain ⟨hprimary, hlcid⟩ := hfits
    obtain ⟨locale, hlocale, -⟩ := ((filed k hk hprimary).lcid_eq_some_iff order).1 hlcid
    cases hn.symm.trans hlocale
  | some locale =>
    rw [Option.bind_some]
    refine List.find?_congr fun k hk => ?_
    rw [Bool.eq_iff_iff, Keyboard.isFiledUnder, Bool.and_eq_true, Bool.and_eq_true,
      decide_eq_true_eq, decide_eq_true_eq]
    refine and_congr_right fun hprimary => ?_
    rw [(filed k hk hprimary).lcid_eq_some_iff order, hn]
    simp

namespace Sample

/-- An adaptor for system layouts that is told of other locales than the usual ones. -/
def overridden : Xkb.State where
  settings := { localeOverrides := ⟨[("dvorak", "EN-us"), ("us", "en-gb")], by decide⟩ }

/-- An input method of the locale, and three system layouts of which the last two have it. -/
def mixed : List Keyboard :=
  [{ Keyboard.make "ipa" "en-US" .secondary "methods" with
      language := some (.ofLocale "en-US" "") },
    overridden.keyboardOf ⟨"us", none, "English"⟩,
    overridden.keyboardOf ⟨"dvorak", none, "Dvorak"⟩,
    overridden.keyboardOf ⟨"dvorak", some "intl", "Dvorak (international)"⟩]

theorem toList_mixed : (Catalog.ofList mixed).toList = mixed := by
  rw [Catalog.toList_ofList]
  decide +kernel

/-- A record of American English by its number. -/
def american : WritingSystem := ⟨"en", some " +01033", none, none⟩

theorem filedBy_mixed (order : table.Perm windowsIds) :
    ∀ k ∈ (Catalog.ofList mixed).toList, k.category = some .primary → k.FiledBy table := by
  intro k hk hprimary
  rw [toList_mixed, mixed] at hk
  simp only [List.mem_cons, List.not_mem_nil, or_false] at hk
  rcases hk with rfl | rfl | rfl | rfl
  · cases hprimary
  all_goals exact Xkb.State.filedBy_keyboardOf order overridden _

end Sample

/-- The number of American English leads past the input method and past British English, whatever
the case of the locale, and be the table gone through from its end. -/
theorem legacy?_numbered_overridden :
    windowsIds.reverse.Perm windowsIds ∧
    (∀ k ∈ (Catalog.ofList Sample.mixed).toList,
      k.category = some .primary → k.FiledBy windowsIds.reverse) ∧
    readWindowsId? " +01033" = some 1033 ∧
    (Sample.american.legacy? (.ofList Sample.mixed)).map (·.key) = some ("dvorak", "EN-us") := by
  have order : windowsIds.reverse.Perm windowsIds := List.reverse_perm windowsIds
  have filed := Sample.filedBy_mixed order
  have numbered : Sample.american.windowsId = some " +01033" := rfl
  have reads : readWindowsId? " +01033" = some 1033 := by decide +kernel
  obtain ⟨hlegacy, -⟩ := legacy?_numbered order filed rfl numbered reads
  refine ⟨order, filed, reads, ?_⟩
  rw [hlegacy, Sample.toList_mixed]
  decide +kernel

end WritingSystem

end Keyboards
