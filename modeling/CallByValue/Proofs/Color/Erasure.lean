import CallByValue.Text.Slice
import CallByValue.Text.Terminal

/-!
# Erasing terminal codes

Texts that are shown in colour hold terminal codes, and these can be **erased** again. A text in
which no code can start loses nothing by that, wherever it stands.

* `Text.CodeFree` — no terminal code can start in the text: kept by cutting, joining and quoting;
* `Text.Host.Recolors` — what is assumed of a host with colour on and one with colour off;
* `Text.erase` — the characters of a text without the codes that colour writes;
* `Text.Decorates` — erasing the codes of one text gives another one, whatever is written behind.
-/

namespace CallByValue.Text

/-! ## Texts without codes -/

/-- The text is **free of codes**: it does not hold the character that they all start with. -/
def CodeFree (text : String) : Prop := '\x1b' ∉ text.toList

namespace CodeFree

/-- A text that is given by its characters. -/
theorem ofList {chars : List Char} (h : '\x1b' ∉ chars) : CodeFree (String.ofList chars) := by
  rwa [CodeFree, String.toList_ofList]

/-- A text that is written out. -/
theorem literal {chars : List Char} (h : chars.contains '\x1b' = false) :
    CodeFree (String.ofList chars) :=
  ofList fun hmem => absurd (List.contains_iff_mem.mpr hmem) (Bool.eq_false_iff.mp h)

theorem append {s t : String} (hs : CodeFree s) (ht : CodeFree t) : CodeFree (s ++ t) := by
  rw [CodeFree, String.toList_append, List.mem_append]
  exact fun h => h.elim hs ht

/-- A text with others written around it. -/
theorem around {before after : List Char} {s : String} (hb : before.contains '\x1b' = false)
    (hs : CodeFree s) (ha : after.contains '\x1b' = false) :
    CodeFree (String.ofList before ++ s ++ String.ofList after) :=
  ((literal hb).append hs).append (literal ha)

/-- Two texts with others written around and between them. -/
theorem pair {before between after : List Char} {s t : String}
    (hb : before.contains '\x1b' = false) (hs : CodeFree s)
    (hm : between.contains '\x1b' = false) (ht : CodeFree t)
    (ha : after.contains '\x1b' = false) :
    CodeFree (String.ofList before ++ s ++ String.ofList between ++ t ++ String.ofList after) :=
  ((around hb hs hm).append ht).append (literal ha)

/-- Texts set apart by a separator. -/
theorem intercalate {separator : String} {texts : List String} (hs : CodeFree separator)
    (h : ∀ s ∈ texts, CodeFree s) : CodeFree (String.intercalate separator texts) := by
  rw [CodeFree, String.toList_intercalate]
  intro hmem
  induction texts with
  | nil => cases hmem
  | cons s rest ih =>
    cases rest with
    | nil => exact h s (List.mem_singleton_self s) (by simpa using hmem)
    | cons t rest =>
      rw [List.map_cons, List.map_cons, List.intercalate_cons_cons, List.mem_append,
        List.mem_append] at hmem
      obtain (hmem | hmem) | hmem := hmem
      · exact h s List.mem_cons_self hmem
      · exact hs hmem
      · exact ih (fun u hu => h u (List.mem_cons_of_mem s hu)) hmem

/-- Texts one after the other. -/
theorem join {α : Type} {text : α → String} {items : List α} (h : ∀ a ∈ items, CodeFree (text a)) :
    CodeFree (String.join (items.map text)) := by
  induction items with
  | nil => exact literal rfl
  | cons a rest ih =>
    rw [List.map_cons, String.join_cons]
    exact append (h a List.mem_cons_self) (ih fun b hb => h b (List.mem_cons_of_mem a hb))

theorem upTo {s : String} (h : CodeFree s) (stop : Int) : CodeFree (upTo s stop) :=
  ofList fun hmem => h (List.mem_of_mem_take hmem)

theorem onward {s : String} (h : CodeFree s) (start : Int) : CodeFree (onward s start) :=
  ofList fun hmem => h (List.mem_of_mem_drop hmem)

theorem between {s : String} (h : CodeFree s) (start stop : Int) :
    CodeFree (between s start stop) :=
  ofList fun hmem => h (List.mem_of_mem_take (List.mem_of_mem_drop hmem))

end CodeFree

/-! ### Numbers -/

/-- A digit is not the character that codes start with. -/
theorem digitChar_ne (n : Nat) : Nat.digitChar n ≠ '\x1b' := by
  grind [Nat.digitChar]

theorem not_mem_toDigits {base : Nat} (hb : 1 < base) (n : Nat) :
    '\x1b' ∉ Nat.toDigits base n := by
  induction n using Nat.strongRecOn with
  | ind n ih =>
    rw [Nat.toDigits_eq_if hb]
    split
    · exact fun h => digitChar_ne n (List.mem_singleton.mp h).symm
    · have hlt : n / base < n := Nat.div_lt_self (by omega) hb
      rw [List.mem_append, List.mem_singleton]
      exact fun h => h.elim (ih _ hlt) fun h => digitChar_ne _ h.symm

theorem codeFree_ofNat (n : Nat) : CodeFree (ofNat n) := .ofList (not_mem_toDigits (by decide) n)

theorem codeFree_ofInt (i : Int) : CodeFree (ofInt i) := by
  rw [ofInt]
  split
  · exact CodeFree.append (.literal rfl) (codeFree_ofNat _)
  · exact codeFree_ofNat _

/-! ### Quoted texts -/

theorem not_mem_hexadecimal (width n : Nat) : '\x1b' ∉ hexadecimal width n := by
  rw [hexadecimal, List.mem_append, List.mem_replicate]
  exact fun h => h.elim (fun h => absurd h.2 (by decide)) (not_mem_toDigits (by decide) n)

theorem not_mem_escapeByNumber (c : Char) : '\x1b' ∉ escapeByNumber c := by
  grind [escapeByNumber, not_mem_hexadecimal]

/-- Between quotes, other characters are written without codes. -/
theorem not_mem_escape (visible : Char → Bool) (mark : Char) {c : Char} (h : c ≠ '\x1b') :
    '\x1b' ∉ escape visible mark c := by
  grind [escape, not_mem_escapeByNumber]

theorem quoteMark_ne (text : List Char) : quoteMark text ≠ '\x1b' := by
  rw [quoteMark]
  split <;> decide

/-- A text without codes is quoted without them. -/
theorem CodeFree.quote {s : String} (h : CodeFree s) : CodeFree (quote s) := by
  rw [Text.quote, quoteWith]
  refine .ofList ?_
  rw [List.cons_append, List.mem_cons, List.mem_append, List.mem_flatMap, List.mem_singleton]
  rintro (hmem | ⟨c, hc, hmem⟩ | hmem)
  · exact quoteMark_ne _ hmem.symm
  · exact not_mem_escape _ _ (fun he => h (he ▸ hc)) hmem
  · exact quoteMark_ne _ hmem.symm

/-! ## Erasure -/

/-- The characters of a text without its terminal codes. -/
def erase : List Char → List Char
  | '\x1b' :: '[' :: '1' :: 'm' :: rest => erase rest
  | '\x1b' :: '[' :: '3' :: '1' :: 'm' :: rest => erase rest
  | '\x1b' :: '[' :: '3' :: '5' :: 'm' :: rest => erase rest
  | '\x1b' :: '[' :: '0' :: 'm' :: rest => erase rest
  | c :: rest => c :: erase rest
  | [] => []

/-- The text without its terminal codes. -/
def eraseCodes (text : String) : String := String.ofList (erase text.toList)

/-- Other characters are kept. -/
theorem erase_cons {c : Char} (h : c ≠ '\x1b') (rest : List Char) :
    erase (c :: rest) = c :: erase rest := by
  rw [erase]
  all_goals simp [h]

theorem erase_append {chars : List Char} (h : '\x1b' ∉ chars) (rest : List Char) :
    erase (chars ++ rest) = chars ++ erase rest := by
  induction chars with
  | nil => rfl
  | cons c chars ih =>
    have hc : c ≠ '\x1b' := fun he => h (he ▸ List.mem_cons_self)
    have hchars : '\x1b' ∉ chars := fun hmem => h (List.mem_cons_of_mem c hmem)
    rw [List.cons_append, List.cons_append, erase_cons hc, ih hchars]

/-- The codes in front of a bold text are erased. -/
theorem erase_bold_start (ink : Ink) (rest : List Char) :
    erase (("\x1b[1m" ++ ink.code).toList ++ rest) = erase rest := by
  cases ink <;> simp [Ink.code, erase]

/-- The code behind a bold text is erased. -/
theorem erase_bold_end (rest : List Char) : erase ("\x1b[0m".toList ++ rest) = erase rest := by
  simp [erase]

/-! ## Decorated texts -/

/-- The text is what is left of the **decorated** one, shown in colour, without its codes. This
holds whatever is written behind them. -/
def Decorates (shown plain : String) : Prop :=
  ∀ rest : List Char, erase (shown.toList ++ rest) = plain.toList ++ erase rest

/-- A text without codes decorates itself. -/
theorem CodeFree.decorates {s : String} (h : CodeFree s) : Decorates s s := erase_append h

/-- The second host shows texts **without the colour** of the first one, which sets them off with
terminal codes, and there is room for the same texts in both. -/
structure Host.Recolors (on off : Host) : Prop where
  /-- with colour on a text is wrapped in codes -/
  wraps : ∀ ink text, on.colored ink text = "\x1b[1m" ++ ink.code ++ text ++ "\x1b[0m"
  /-- with colour off a text is shown as it is -/
  keeps : ∀ ink text, off.colored ink text = text
  /-- there is room for the same texts -/
  room : on.room = off.room

/-- The terminal with colour on and with colour off. -/
theorem recolors_terminal : (terminal true).Recolors (terminal false) :=
  ⟨fun _ _ => rfl, fun _ _ => rfl, rfl⟩

/-- A text that is set off decorates the text itself. -/
theorem CodeFree.colored {on off : Host} (hosts : on.Recolors off) {s : String} (h : CodeFree s)
    (ink : Ink) : Decorates (on.colored ink s) (off.colored ink s) := by
  intro rest
  rw [hosts.wraps, hosts.keeps, String.toList_append, String.toList_append,
    List.append_assoc, List.append_assoc, erase_bold_start, erase_append h, erase_bold_end]

namespace Decorates

/-- A text that is written out decorates itself. -/
theorem literal {chars : List Char} (h : chars.contains '\x1b' = false) :
    Decorates (String.ofList chars) (String.ofList chars) := (CodeFree.literal h).decorates

theorem append {s t s' t' : String} (hs : Decorates s s') (ht : Decorates t t') :
    Decorates (s ++ t) (s' ++ t') := by
  intro rest
  rw [String.toList_append, String.toList_append, List.append_assoc, List.append_assoc, hs, ht]

/-- Texts that are written one after the other. -/
theorem join {α : Type} {shown plain : α → String} {items : List α}
    (h : ∀ a ∈ items, Decorates (shown a) (plain a)) :
    Decorates (String.join (items.map shown)) (String.join (items.map plain)) := by
  induction items with
  | nil => exact literal rfl
  | cons a rest ih =>
    rw [List.map_cons, List.map_cons, String.join_cons, String.join_cons]
    exact (h a List.mem_cons_self).append (ih fun b hb => h b (List.mem_cons_of_mem a hb))

/-- Erasing the codes of a decorated text gives back the text. -/
theorem eraseCodes_eq {shown plain : String} (h : Decorates shown plain) :
    eraseCodes shown = plain := by
  have hall := h []
  rw [List.append_nil] at hall
  rw [eraseCodes, hall, erase, List.append_nil, String.ofList_toList]

end Decorates

end CallByValue.Text
