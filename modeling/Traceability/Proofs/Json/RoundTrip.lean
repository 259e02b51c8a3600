import Traceability.Json.Printer
import Traceability.Json.Reader

/-!
What is printed as JSON reads back.

A string literal is read back character by character, whether a character is escaped or not.
The reader takes exactly the text of a value from the front of a text, so the elements of
an array and the members of an object are read back one after the other.
-/

namespace Traceability.Json

/-! ### Strings -/

private theorem hexNumber?_hexDigit :
    ∀ code < 0x20, hexNumber? ['0', '0', hexDigit (code / 16), hexDigit (code % 16)] =
      some code := by
  decide

private theorem textOfUnits_character (c : Char) (units : List StringUnit) :
    textOfUnits (.character c :: units) = (textOfUnits units).map (c :: ·) := by
  rw [textOfUnits]

private theorem textOfUnits_control {c : Char} (control : c.toNat < 0x20)
    (units : List StringUnit) :
    textOfUnits (.escaped c.toNat :: units) = (textOfUnits units).map (c :: ·) := by
  have notHigh : (0xD800 ≤ c.toNat && c.toNat < 0xDC00) = false := by
    simp only [Bool.and_eq_false_iff, decide_eq_false_iff_not]
    omega
  have notLow : (0xDC00 ≤ c.toNat && c.toNat < 0xE000) = false := by
    simp only [Bool.and_eq_false_iff, decide_eq_false_iff_not]
    omega
  rw [textOfUnits.eq_def]
  simp only [notHigh, notLow, Bool.false_eq_true, if_false, Char.ofNat_toNat]

private def shortlyPrinted : Text :=
  ['\x22', '\\', '\x08', '\x0c', '\n', '\r', '\t']

private theorem printCharacter_short {c : Char} (listed : c ∈ shortlyPrinted) :
    ∃ escape, shortEscape? escape = some c ∧ printCharacter c = ['\\', escape] := by
  have escapes : shortlyPrinted.all fun c =>
      ['\x22', '\\', 'b', 'f', 'n', 'r', 't'].any fun escape =>
        decide (shortEscape? escape = some c ∧ printCharacter c = ['\\', escape]) := by
    decide
  obtain ⟨escape, _, printed⟩ := List.any_eq_true.mp (List.all_eq_true.mp escapes c listed)
  exact ⟨escape, of_decide_eq_true printed⟩

private theorem printCharacter_other {c : Char} (other : c ∉ shortlyPrinted) :
    printCharacter c =
      if c.toNat < 0x20 then
        ['\\', 'u', '0', '0', hexDigit (c.toNat / 16), hexDigit (c.toNat % 16)]
      else [c] := by
  simp only [shortlyPrinted, List.mem_cons, List.not_mem_nil, or_false, not_or] at other
  simp [printCharacter, other]

section

variable {after rest : Text} {units : List StringUnit}
  (read : readUnits? after = some (units, rest))
include read

private theorem readUnits?_short {escape c : Char} (short : shortEscape? escape = some c) :
    readUnits? ('\\' :: escape :: after) = some (.character c :: units, rest) := by
  have notCode : escape ≠ 'u' := by
    rintro rfl
    cases short
  rw [readUnits?, short, read]
  · rfl
  · intro _ _ _ _ _ same
    exact absurd same notCode

private theorem readUnits?_plain {c : Char} (notQuote : c ≠ '\x22') (notEscape : c ≠ '\\')
    (notControl : ¬c.toNat < 0x20) :
    readUnits? (c :: after) = some (.character c :: units, rest) := by
  rw [readUnits?, read]
  · simp [notControl, notEscape]
  · exact notQuote
  · intro _ _ _ _ _ same
    exact absurd same notEscape
  · intro _ _ same
    exact absurd same notEscape

private theorem readUnits?_control {c : Char} (control : c.toNat < 0x20) :
    readUnits? ('\\' :: 'u' :: '0' :: '0' :: hexDigit (c.toNat / 16) ::
        hexDigit (c.toNat % 16) :: after) = some (.escaped c.toNat :: units, rest) := by
  rw [readUnits?, hexNumber?_hexDigit c.toNat control, read]
  rfl

private theorem readUnits?_printCharacter (c : Char) :
    ∃ unit, readUnits? (printCharacter c ++ after) = some (unit :: units, rest) ∧
      textOfUnits (unit :: units) = (textOfUnits units).map (c :: ·) := by
  by_cases listed : c ∈ shortlyPrinted
  · obtain ⟨escape, short, printed⟩ := printCharacter_short listed
    rw [printed]
    exact ⟨_, readUnits?_short read short, textOfUnits_character c units⟩
  · rw [printCharacter_other listed]
    split
    · rename_i control
      exact ⟨_, readUnits?_control read control, textOfUnits_control control units⟩
    · rename_i notControl
      have notQuote : c ≠ '\x22' := fun same => listed (by simp [same, shortlyPrinted])
      have notEscape : c ≠ '\\' := fun same => listed (by simp [same, shortlyPrinted])
      exact ⟨_, readUnits?_plain read notQuote notEscape notControl,
        textOfUnits_character c units⟩

end

private theorem readUnits?_flatMap (text rest : Text) :
    ∃ units, readUnits? (text.flatMap printCharacter ++ '\x22' :: rest) = some (units, rest) ∧
      textOfUnits units = some text := by
  induction text with
  | nil => exact ⟨[], rfl, rfl⟩
  | cons c others ih =>
      obtain ⟨units, read, value⟩ := ih
      obtain ⟨unit, readAlso, valueAlso⟩ := readUnits?_printCharacter read c
      refine ⟨unit :: units, ?_, ?_⟩
      · rw [List.flatMap_cons, List.append_assoc]
        exact readAlso
      · rw [valueAlso, value]
        rfl

theorem readString?_print (text rest : Text) :
    readString? (text.flatMap printCharacter ++ '\x22' :: rest) = some (some text, rest) := by
  obtain ⟨units, read, value⟩ := readUnits?_flatMap text rest
  rw [readString?, read, ← value]
  rfl

theorem printText_append (text rest : Text) :
    printText text ++ rest = '\x22' :: (text.flatMap printCharacter ++ '\x22' :: rest) := by
  simp [printText]

/-! ### Blanks -/

theorem skipBlanks_cons {c : Char} (proper : isBlank c = false) (rest : Text) :
    skipBlanks (c :: rest) = c :: rest := by
  rw [skipBlanks, List.dropWhile_cons, proper, if_neg Bool.false_ne_true]

theorem skipBlanks_newLine (level : Nat) (rest : Text) :
    skipBlanks (newLine level ++ rest) = skipBlanks rest := by
  have blank : ∀ c ∈ newLine level, isBlank c = true := by
    intro c member
    rcases List.mem_cons.mp member with rfl | space
    · rfl
    · rw [(List.mem_replicate.mp space).2]
      rfl
  rw [skipBlanks, List.dropWhile_append_of_pos blank, skipBlanks]

theorem readValue?_of_skipBlanks {text other : Text} (same : skipBlanks text = skipBlanks other)
    (bound : Nat) : readValue? bound text = readValue? bound other := by
  cases bound with
  | zero => rfl
  | succ bound => rw [readValue?, readValue?, same]

theorem readElements?_of_skipBlanks {text other : Text} (same : skipBlanks text = skipBlanks other)
    (bound : Nat) : readElements? bound text = readElements? bound other := by
  cases bound with
  | zero => rfl
  | succ bound => rw [readElements?, readElements?, readValue?_of_skipBlanks same]

theorem readMembers?_of_skipBlanks {text other : Text} (same : skipBlanks text = skipBlanks other)
    (bound : Nat) : readMembers? bound text = readMembers? bound other := by
  cases bound with
  | zero => rfl
  | succ bound => rw [readMembers?, readMembers?, same]

/-! ### Values -/

/-- A value without numbers, all of whose strings stand for texts. -/
inductive Textual : Json → Prop
  | null : Textual .null
  | boolean (value : Bool) : Textual (.boolean value)
  | string (value : Text) : Textual (.string (some value))
  | array (elements : List Json) (textual : ∀ element ∈ elements, Textual element) :
      Textual (.array elements)
  | object (members : List (JsonString × Json)) (names : ∀ member ∈ members, member.1.isSome)
      (textual : ∀ member ∈ members, Textual member.2) : Textual (.object members)

/-- The reader takes the printed value, and nothing else, from the front of a text. -/
def ReadsBack (value : Json) : Prop :=
  ∀ level bound rest, (printAt level value).length < bound →
    readValue? bound (printAt level value ++ rest) = some (value, rest)

theorem readsBack_word (value : Json) (word : Text) (printed : ∀ level, printAt level value = word)
    (read : ∀ bound rest, readValue? (bound + 1) (word ++ rest) = some (value, rest)) :
    value.ReadsBack := by
  intro level bound rest enough
  obtain ⟨bound, rfl⟩ := Nat.exists_eq_add_of_lt enough
  rw [printed]
  exact read _ rest

theorem readsBack_string (value : Text) : (Json.string (some value)).ReadsBack := by
  intro level bound rest enough
  obtain ⟨bound, rfl⟩ := Nat.exists_eq_add_one_of_ne_zero (Nat.ne_zero_of_lt enough)
  rw [printAt, Option.getD_some, printText_append, readValue?, skipBlanks_cons rfl]
  change (readString? _).map _ = _
  rw [readString?_print]
  rfl

/-! ### Elements -/

section

variable {bound : Nat} {text after rest : Text} {value : Json}

private theorem readElements?_last (read : readValue? bound text = some (value, after))
    (closed : skipBlanks after = ']' :: rest) :
    readElements? (bound + 1) text = some ([value], rest) := by
  simp [readElements?, read, closed]

private theorem readElements?_more {others : Text} {values : List Json}
    (read : readValue? bound text = some (value, after))
    (separated : skipBlanks after = ',' :: others)
    (readOthers : readElements? bound others = some (values, rest)) :
    readElements? (bound + 1) text = some (value :: values, rest) := by
  simp [readElements?, read, separated, readOthers]

end

private theorem readElements?_print {level outer : Nat} {others : List Json} {first : Json}
    {bound : Nat} (each : ∀ element ∈ first :: others, element.ReadsBack)
    (enough : (printAt level first ++ printElements level others).length + 1 < bound)
    (rest : Text) :
    readElements? bound (printAt level first ++ (printElements level others ++
        (newLine outer ++ ']' :: rest))) = some (first :: others, rest) := by
  have closed : skipBlanks (newLine outer ++ ']' :: rest) = ']' :: rest := by
    rw [skipBlanks_newLine, skipBlanks_cons rfl]
  induction others generalizing first bound with
  | nil =>
      obtain ⟨bound, rfl⟩ := Nat.exists_eq_add_one_of_ne_zero (Nat.ne_zero_of_lt enough)
      rw [List.length_append] at enough
      exact readElements?_last (each first (.head _) level bound _ (by omega)) closed
  | cons next more ih =>
      obtain ⟨bound, rfl⟩ := Nat.exists_eq_add_one_of_ne_zero (Nat.ne_zero_of_lt enough)
      simp only [printElements, List.length_append, List.length_cons] at enough
      have further : readElements? bound (printAt level next ++ (printElements level more ++
          (newLine outer ++ ']' :: rest))) = some (next :: more, rest) := by
        apply ih fun element member => each element (.tail _ member)
        rw [List.length_append]
        omega
      rw [← readElements?_of_skipBlanks (skipBlanks_newLine level _)] at further
      have separated : skipBlanks (printElements level (next :: more) ++
          (newLine outer ++ ']' :: rest)) = ',' :: (newLine level ++ (printAt level next ++
            (printElements level more ++ (newLine outer ++ ']' :: rest)))) := by
        simp only [printElements, List.cons_append, List.append_assoc]
        exact skipBlanks_cons rfl _
      exact readElements?_more (each first (.head _) level bound _ (by omega)) separated further

/-! ### Members -/

section

variable {bound : Nat} {name after text rest : Text} {value : Json}

private theorem readMember (read : readValue? bound after = some (value, text)) :
    readMembers? (bound + 1) (printText name ++ ':' :: ' ' :: after) =
      match skipBlanks text with
      | '\x7d' :: after => some ([(some name, value)], after)
      | ',' :: others => do
          let (values, after) ← readMembers? bound others
          return ((some name, value) :: values, after)
      | _ => none := by
  have blank : skipBlanks after = skipBlanks (' ' :: after) := rfl
  have quoted : skipBlanks (printText name ++ ':' :: ' ' :: after) =
      '\x22' :: (name.flatMap printCharacter ++ '\x22' :: ':' :: ' ' :: after) := by
    rw [printText_append, skipBlanks_cons rfl]
  have colon : skipBlanks (':' :: ' ' :: after) = ':' :: ' ' :: after := skipBlanks_cons rfl _
  rw [readValue?_of_skipBlanks blank] at read
  simp only [readMembers?, quoted, readString?_print, Option.bind_eq_bind, Option.bind_some, colon,
    read]
  rfl

private theorem readMembers?_last (read : readValue? bound after = some (value, text))
    (closed : skipBlanks text = '\x7d' :: rest) :
    readMembers? (bound + 1) (printText name ++ ':' :: ' ' :: after) =
      some ([(some name, value)], rest) := by
  rw [readMember read, closed]
  rfl

private theorem readMembers?_more {others : Text} {values : List (JsonString × Json)}
    (read : readValue? bound after = some (value, text))
    (separated : skipBlanks text = ',' :: others)
    (readOthers : readMembers? bound others = some (values, rest)) :
    readMembers? (bound + 1) (printText name ++ ':' :: ' ' :: after) =
      some ((some name, value) :: values, rest) := by
  rw [readMember read, separated]
  simp [readOthers]

end

private theorem readMembers?_print {level outer : Nat} {others : List (JsonString × Json)}
    {name : Text} {first : Json} {bound : Nat} (readsFirst : first.ReadsBack)
    (names : ∀ member ∈ others, member.1.isSome)
    (each : ∀ member ∈ others, member.2.ReadsBack)
    (enough : (printAt level first ++ printMembers level others).length + 1 < bound)
    (rest : Text) :
    readMembers? bound (printText name ++ ':' :: ' ' :: (printAt level first ++
        (printMembers level others ++ (newLine outer ++ '\x7d' :: rest)))) =
      some ((some name, first) :: others, rest) := by
  have closed : skipBlanks (newLine outer ++ '\x7d' :: rest) = '\x7d' :: rest := by
    rw [skipBlanks_newLine, skipBlanks_cons rfl]
  induction others generalizing name first bound with
  | nil =>
      obtain ⟨bound, rfl⟩ := Nat.exists_eq_add_one_of_ne_zero (Nat.ne_zero_of_lt enough)
      rw [List.length_append] at enough
      exact readMembers?_last (readsFirst level bound _ (by omega)) closed
  | cons next more ih =>
      obtain ⟨bound, rfl⟩ := Nat.exists_eq_add_one_of_ne_zero (Nat.ne_zero_of_lt enough)
      obtain ⟨nextName, second⟩ := next
      obtain ⟨nextName, rfl⟩ := Option.isSome_iff_exists.mp (names _ (.head _))
      have readsSecond : second.ReadsBack := each _ (.head _)
      simp only [printMembers, List.length_append, List.length_cons] at enough
      have further : readMembers? bound (printText nextName ++ ':' :: ' ' ::
          (printAt level second ++ (printMembers level more ++
            (newLine outer ++ '\x7d' :: rest)))) =
          some ((some nextName, second) :: more, rest) := by
        apply ih readsSecond (fun member inMore => names member (.tail _ inMore))
          fun member inMore => each member (.tail _ inMore)
        rw [List.length_append]
        omega
      rw [← readMembers?_of_skipBlanks (skipBlanks_newLine level _)] at further
      have separated : skipBlanks (printMembers level ((some nextName, second) :: more) ++
          (newLine outer ++ '\x7d' :: rest)) = ',' :: (newLine level ++ (printText nextName ++
            ':' :: ' ' :: (printAt level second ++ (printMembers level more ++
              (newLine outer ++ '\x7d' :: rest))))) := by
        simp only [printMembers, Option.getD_some, List.cons_append, List.append_assoc]
        exact skipBlanks_cons rfl _
      exact readMembers?_more (readsFirst level bound _ (by omega)) separated further

/-! ### Arrays and objects -/

/-- A printed value begins with a character that neither ends an array nor is blank. -/
theorem exists_head_printAt {value : Json} (textual : value.Textual) (level : Nat) :
    ∃ c others, printAt level value = c :: others ∧ isBlank c = false ∧ c ≠ ']' := by
  cases textual with
  | null => exact ⟨_, _, rfl, rfl, by decide⟩
  | boolean value => cases value <;> exact ⟨_, _, rfl, rfl, by decide⟩
  | string value => exact ⟨_, _, rfl, rfl, by decide⟩
  | array elements _ => cases elements <;> exact ⟨_, _, rfl, rfl, by decide⟩
  | object members _ _ => cases members <;> exact ⟨_, _, rfl, rfl, by decide⟩

private theorem readValue?_elements {bound : Nat} {text tail rest : Text} {c : Char}
    {elements : List Json} (start : skipBlanks text = c :: tail) (different : c ≠ ']')
    (read : readElements? bound (c :: tail) = some (elements, rest)) :
    readValue? (bound + 1) ('[' :: text) = some (.array elements, rest) := by
  rw [readValue?, skipBlanks_cons rfl]
  simp [start, different, read]

private theorem readValue?_members {bound : Nat} {text tail rest : Text}
    {members : List (JsonString × Json)} (start : skipBlanks text = '\x22' :: tail)
    (read : readMembers? bound ('\x22' :: tail) = some (members, rest)) :
    readValue? (bound + 1) ('\x7b' :: text) = some (.object members, rest) := by
  rw [readValue?, skipBlanks_cons rfl]
  simp [start, read]

theorem readsBack_array {elements : List Json}
    (textual : ∀ element ∈ elements, element.Textual)
    (each : ∀ element ∈ elements, element.ReadsBack) : (Json.array elements).ReadsBack := by
  intro level bound rest enough
  obtain ⟨bound, rfl⟩ := Nat.exists_eq_add_one_of_ne_zero (Nat.ne_zero_of_lt enough)
  cases elements with
  | nil => rfl
  | cons first others =>
      obtain ⟨c, tail, whole, proper, different⟩ :=
        exists_head_printAt (textual first (.head _)) (level + 1)
      simp only [printAt, List.length_append, List.length_cons] at enough
      have inside : (printAt (level + 1) first ++ printElements (level + 1) others).length + 1 <
          bound := by
        rw [List.length_append]
        omega
      have read : readElements? bound (printAt (level + 1) first ++
          (printElements (level + 1) others ++ (newLine level ++ ']' :: rest))) =
          some (first :: others, rest) := readElements?_print each inside rest
      rw [whole, List.cons_append] at read
      have printed : printAt level (.array (first :: others)) ++ rest =
          '[' :: (newLine (level + 1) ++ (printAt (level + 1) first ++
            (printElements (level + 1) others ++ (newLine level ++ ']' :: rest)))) := by
        simp only [printAt, List.cons_append, List.append_assoc, List.nil_append]
      rw [printed]
      refine readValue?_elements ?_ different read
      rw [skipBlanks_newLine, whole, List.cons_append, skipBlanks_cons proper]

theorem readsBack_object {members : List (JsonString × Json)}
    (names : ∀ member ∈ members, member.1.isSome)
    (each : ∀ member ∈ members, member.2.ReadsBack) : (Json.object members).ReadsBack := by
  intro level bound rest enough
  obtain ⟨bound, rfl⟩ := Nat.exists_eq_add_one_of_ne_zero (Nat.ne_zero_of_lt enough)
  cases members with
  | nil => rfl
  | cons member others =>
      obtain ⟨name, first⟩ := member
      obtain ⟨name, rfl⟩ := Option.isSome_iff_exists.mp (names _ (.head _))
      have readsFirst : first.ReadsBack := each _ (.head _)
      simp only [printAt, List.length_append, List.length_cons] at enough
      have inside : (printAt (level + 1) first ++ printMembers (level + 1) others).length + 1 <
          bound := by
        rw [List.length_append]
        omega
      have read : readMembers? bound (printText name ++ ':' :: ' ' :: (printAt (level + 1) first ++
          (printMembers (level + 1) others ++ (newLine level ++ '\x7d' :: rest)))) =
          some ((some name, first) :: others, rest) :=
        readMembers?_print readsFirst (fun member inOthers => names member (.tail _ inOthers))
          (fun member inOthers => each member (.tail _ inOthers)) inside rest
      rw [printText_append] at read
      have printed : printAt level (.object ((some name, first) :: others)) ++ rest =
          '\x7b' :: (newLine (level + 1) ++ (printText name ++ ':' :: ' ' ::
            (printAt (level + 1) first ++ (printMembers (level + 1) others ++
              (newLine level ++ '\x7d' :: rest))))) := by
        simp only [printAt, Option.getD_some, List.cons_append, List.append_assoc,
          List.nil_append]
        rfl
      rw [printed]
      refine readValue?_members ?_ read
      rw [skipBlanks_newLine, printText_append, skipBlanks_cons rfl]

/-- A value without numbers is read from the front of a text in which it is printed. -/
theorem Textual.readsBack {value : Json} (textual : value.Textual) : value.ReadsBack := by
  induction textual with
  | null => exact readsBack_word _ "null".toList (fun _ => rfl) fun _ _ => rfl
  | boolean value =>
      cases value with
      | false => exact readsBack_word _ "false".toList (fun _ => rfl) fun _ _ => rfl
      | true => exact readsBack_word _ "true".toList (fun _ => rfl) fun _ _ => rfl
  | string value => exact readsBack_string value
  | array elements textual each => exact readsBack_array textual each
  | object members names textual each => exact readsBack_object names each

theorem parse?_pretty {value : Json} (textual : value.Textual) :
    parse? value.pretty = some value := by
  have read : readValue? (value.pretty.length + 1) value.pretty = some (value, []) := by
    have front := textual.readsBack 0 (value.pretty.length + 1) [] (Nat.lt_succ_self _)
    rw [List.append_nil] at front
    exact front
  rw [parse?, read]
  rfl

end Traceability.Json
