import CosmacVip.Terminal.KeyReport
import Mathlib.Data.List.Forall2
import Mathlib.Tactic.Lemma

/-!
Names of keys, and key reports of a terminal.

* `SameLetter`, `SameLetters`: texts that differ in nothing but the case of ASCII letters;
* `HostKey.Plain`: the keys that there are names for: none types a blank or an upper-case letter;
* `HostKey.parse?_text`, `HostKey.plain_of_parse?`: each plain key has its own name, and no other key has
  any;
* `HostKey.parse?_of_sameLetters`: the case of a name does not matter;
* `Terminal.KeyCode.plain_of_hostKey?`, `Terminal.KeyCode.hostKey?_char`: what terminals report are plain
  keys, and a character is reported as the key that it types;
* `Terminal.KeyCode.ReadsCharacters`: what is taken for granted of the input of a terminal;
* `Terminal.names_and_reports_agree`: names and reports speak of the same keys.
-/

namespace CosmacVip

/-! ### The case of letters -/

/-- The same character, or the same ASCII letter in the other case. -/
inductive SameLetter : Char → Char → Prop
  | same (c : Char) : SameLetter c c
  | raised {c : Char} : c.isLower → SameLetter c c.toUpper
  | lowered {c : Char} : c.isUpper → SameLetter c c.toLower

/-- Texts that differ in nothing but the case of ASCII letters. -/
def SameLetters (s t : String) : Prop := List.Forall₂ SameLetter s.toList t.toList

lemma toNat_lt_of_isUpper {c : Char} (h : c.isUpper) : c.toNat < 128 := by
  have hle : c.val ≤ 'Z'.val := (of_decide_eq_true h).2
  exact Nat.lt_of_le_of_lt (UInt32.le_iff_toNat_le.1 hle) (by decide)

lemma toNat_lt_of_isLower {c : Char} (h : c.isLower) : c.toNat < 128 := by
  have hle : c.val ≤ 'z'.val := of_decide_eq_true (Bool.and_eq_true_iff.1 h).2
  exact Nat.lt_of_le_of_lt (UInt32.le_iff_toNat_le.1 hle) (by decide)

/-- The ASCII characters are tried one by one. -/
lemma of_ascii {p : Char → Prop} {c : Char} (hc : c.toNat < 128) (h : ∀ n < 128, p (Char.ofNat n)) :
    p c := by
  simpa using h c.toNat hc

lemma toLower_of_not_isUpper {c : Char} (h : c.isUpper = false) : c.toLower = c :=
  dif_neg (of_decide_eq_false h)

lemma isUpper_toLower (c : Char) : c.toLower.isUpper = false := by
  cases h : c.isUpper with
  | false => rwa [toLower_of_not_isUpper h]
  | true => exact of_ascii (p := fun c => c.toLower.isUpper = false) (toNat_lt_of_isUpper h) (by decide)

lemma toLower_toLower (c : Char) : c.toLower.toLower = c.toLower :=
  toLower_of_not_isUpper (isUpper_toLower c)

lemma toLower_toUpper {c : Char} (h : c.isLower) : c.toUpper.toLower = c.toLower :=
  of_ascii (p := fun c => c.toUpper.toLower = c.toLower) (toNat_lt_of_isLower h) (by decide)

lemma toLower_eq_blank_iff {c : Char} : c.toLower = ' ' ↔ c = ' ' := by
  cases h : c.isUpper with
  | false => rw [toLower_of_not_isUpper h]
  | true => exact of_ascii (p := fun c => c.toLower = ' ' ↔ c = ' ') (toNat_lt_of_isUpper h) (by decide)

lemma SameLetter.toLower_eq {c d : Char} (h : SameLetter c d) : d.toLower = c.toLower := by
  cases h with
  | same => rfl
  | raised hlower => exact toLower_toUpper hlower
  | lowered => exact toLower_toLower c

lemma map_toLower_eq {cs ds : List Char} (h : List.Forall₂ SameLetter cs ds) :
    ds.map Char.toLower = cs.map Char.toLower := by
  induction h with
  | nil => rfl
  | cons hletter _ ih => rw [List.map_cons, List.map_cons, hletter.toLower_eq, ih]

namespace HostKey

/-! ### Names -/

/-- A key that there is a name for: it types neither a blank, which is a key of its own, nor an upper-case
letter. -/
def Plain : HostKey → Prop
  | char c => c ≠ ' ' ∧ c.isUpper = false
  | _ => True

variable {k : HostKey} {name other : String}

lemma plain_typing (c : Char) : (typing c).Plain := by
  rw [typing]
  split
  case isTrue => trivial
  case isFalse h => exact ⟨toLower_eq_blank_iff.not.2 h, isUpper_toLower c⟩

/-- A letter types the same key in either case. -/
lemma typing_toLower (c : Char) : typing c.toLower = typing c := by
  simp only [typing, toLower_eq_blank_iff, toLower_toLower]

lemma typing_of_plain {c : Char} (h : (char c).Plain) : typing c = char c := by
  rw [typing, if_neg h.1, toLower_of_not_isUpper h.2]

lemma parse?_singleton (c : Char) : parse? (String.singleton c) = some (typing c) := by
  simp [parse?]

lemma plain_of_named? (h : named? name = some k) : k.Plain := by
  unfold named? at h
  split at h <;> cases h <;> trivial

/-- A name has a plain key, if it has one. -/
lemma plain_of_parse? (h : parse? name = some k) : k.Plain := by
  rw [parse?] at h
  split at h
  · cases h
    exact plain_typing _
  · exact plain_of_named? h

/-- A plain key has its own name. -/
lemma parse?_text (h : k.Plain) : parse? k.text = some k := by
  cases k with
  | char c => exact (parse?_singleton c).trans (congrArg some (typing_of_plain h))
  | _ => decide

lemma parse?_toLower (name : String) :
    parse? (String.ofList (name.toList.map Char.toLower)) = parse? name := by
  simp only [parse?, String.toList_ofList]
  rcases name.toList with _ | ⟨c, _ | ⟨d, rest⟩⟩
  · rfl
  · exact congrArg some (typing_toLower c)
  · simp only [List.map_cons, List.map_map, Function.comp_def, toLower_toLower]

/-- The case of a name does not matter. -/
lemma parse?_of_sameLetters (h : SameLetters name other) : parse? other = parse? name := by
  rw [← parse?_toLower other, ← parse?_toLower name, map_toLower_eq h]

end HostKey

namespace Terminal

open HostKey

namespace KeyCode

variable {code : KeyCode} {k : HostKey}

lemma hostKey?_char (c : Char) : (char c).hostKey? = some (typing c) := rfl

lemma hostKey?_eq_none_iff : code.hostKey? = none ↔ code = other := by
  cases code <;> simp [hostKey?]

lemma plain_of_hostKey? (h : code.hostKey? = some k) : k.Plain := by
  cases code with
  | char c =>
      cases h
      exact plain_typing c
  | other => contradiction
  | _ =>
      cases h
      trivial

/-- What terminals make of the characters of their input: those that control nothing are keys that type
them. Nothing is said of the others. -/
structure ReadsCharacters (reading : Char → KeyCode) : Prop where
  printable : ∀ c, ' ' ≤ c → c ≠ '\x7f' → reading c = char c

lemma readsCharacters_ofInput : ReadsCharacters ofInput where
  printable c h hdelete := by
    have hne {d : Char} (hd : d < ' ') : c ≠ d := by
      rintro rfl
      exact absurd hd (Char.not_lt.2 h)
    have hescape : c ≠ '\x1b' := hne (by decide)
    have hnewline : c ≠ '\n' := hne (by decide)
    have hreturn : c ≠ '\r' := hne (by decide)
    have htab : c ≠ '\t' := hne (by decide)
    have hbackspace : c ≠ '\x08' := hne (by decide)
    simp [ofInput, *]

end KeyCode

/-- The names of the keys that do not type a character of their own. -/
def longNames : List (KeyCode × String) :=
  [(.esc, "esc"), (.enter, "enter"), (.tab, "tab"), (.backspace, "backspace"), (.char ' ', "space")]

/-- **Names and reports speak of the same keys.** A report of a character, whatever happened to its key,
is of the key that has this character for a name. A report of a key with a long name is of the key with
that name; reports of all other keys are of none. No case of a letter matters to a name. The key of every
name, and of every report, has a name of its own, and does not type a blank or an upper-case letter. So
every character that a name binds is reported as bound when it is typed, on whatever terminal reads
characters that control nothing as themselves. -/
theorem names_and_reports_agree (c : Char) (action : KeyAction) (code : KeyCode) (name : String) :
    (∃ k, parse? (String.singleton c) = some k ∧
      (⟨.char c, action⟩ : KeyReport).event? = some (k, action != .release)) ∧
      (∀ p ∈ longNames, ∃ k, p.1.hostKey? = some k ∧ parse? p.2 = some k ∧ k.text = p.2) ∧
      (code.hostKey? = none ↔ code = .other) ∧
      (∀ other, SameLetters name other → parse? other = parse? name) ∧
      (∀ k, parse? name = some k ∨ code.hostKey? = some k → parse? k.text = some k ∧ k.Plain) ∧
      (parse? name = some (.char c) → (KeyCode.char c).hostKey? = some (.char c) ∧
        ∀ reading, KeyCode.ReadsCharacters reading → ' ' ≤ c → c ≠ '\x7f' →
          (reading c).hostKey? = some (.char c)) := by
  refine ⟨⟨typing c, parse?_singleton c, rfl⟩, by decide, KeyCode.hostKey?_eq_none_iff,
    fun other => parse?_of_sameLetters, ?_, ?_⟩
  · rintro k (hname | hreport)
    · have hplain := plain_of_parse? hname
      exact ⟨parse?_text hplain, hplain⟩
    · have hplain := KeyCode.plain_of_hostKey? hreport
      exact ⟨parse?_text hplain, hplain⟩
  · intro hname
    have htyped : (KeyCode.char c).hostKey? = some (.char c) := by
      rw [KeyCode.hostKey?_char, typing_of_plain (plain_of_parse? hname)]
    refine ⟨htyped, fun reading hreading hprintable hdelete => ?_⟩
    rw [hreading.printable c hprintable hdelete, htyped]

/-- A letter that is named in upper case and typed in lower case. -/
theorem names_and_reports_agree_letter :
    parse? "Q" = some (.char 'q') ∧ KeyCode.ReadsCharacters KeyCode.ofInput ∧
      (KeyCode.ofInput 'q').hostKey? = parse? "Q" ∧ parse? "q" = parse? "Q" := by
  have hname : parse? "Q" = some (.char 'q') := by decide
  obtain ⟨-, -, -, hcase, -, hbound⟩ := names_and_reports_agree 'q' .press .tab "Q"
  have htyped := (hbound hname).2 _ KeyCode.readsCharacters_ofInput (by decide) (by decide)
  exact ⟨hname, KeyCode.readsCharacters_ofInput, htyped.trans hname.symm,
    hcase "q" (.cons (.lowered rfl) .nil)⟩

end Terminal

end CosmacVip
