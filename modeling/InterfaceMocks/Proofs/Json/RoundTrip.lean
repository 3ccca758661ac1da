import InterfaceMocks.Json.Pretty
import InterfaceMocks.Json.Reader

/-!
The written form of a value is read back as that value. Written text is cut into tokens first, where
every character of a string comes back from its escape, and the tokens are then put together again.
Only values made from strings are treated, at any depth: descriptors hold no others.
-/

namespace InterfaceMocks.Json

inductive Textual : Value → Prop where
  | string (value : String) : Textual (.string value)
  | array {items : List Value} (each : ∀ item ∈ items, Textual item) : Textual (.array items)
  | object {fields : List (String × Value)} (each : ∀ field ∈ fields, Textual field.2) :
      Textual (.object fields)

@[simp] theorem textual_string (value : String) : Textual (.string value) := .string value

@[simp] theorem textual_array {items : List Value} :
    Textual (.array items) ↔ ∀ item ∈ items, Textual item :=
  ⟨fun | .array each => each, .array⟩

@[simp] theorem textual_object {fields : List (String × Value)} :
    Textual (.object fields) ↔ ∀ field ∈ fields, Textual field.2 :=
  ⟨fun | .object each => each, .object⟩

namespace Token

mutual

def written : Value → List Token
  | .array [] => [openArray, closeArray]
  | .array (item :: rest) => openArray :: written item ++ writtenItems rest ++ [closeArray]
  | .object [] => [openObject, closeObject]
  | .object ((name, value) :: rest) =>
      openObject :: scalar (.string name) :: colon :: written value ++ writtenFields rest
        ++ [closeObject]
  | scalarValue => [scalar scalarValue]

def writtenItems : List Value → List Token
  | [] => []
  | item :: rest => comma :: written item ++ writtenItems rest

def writtenFields : List (String × Value) → List Token
  | [] => []
  | (name, value) :: rest =>
      comma :: scalar (.string name) :: colon :: written value ++ writtenFields rest

end

end Token

/-! Strings. -/

section Strings

open Token Pretty

theorem hexValue_hexDigit : ∀ n : Fin 16, hexValue? (hexDigit n) = some n.val := by decide

/-- The unit that a control character is escaped by stands for that character. -/
theorem unit_control {c : Char} (control : c.toNat < 0x20) :
    unit? '0' '0' (hexDigit (c.toNat / 16)) (hexDigit (c.toNat % 16)) = some c.toNat := by
  have zero : hexValue? '0' = some 0 := by decide
  have high := hexValue_hexDigit ⟨c.toNat / 16, by omega⟩
  have low := hexValue_hexDigit ⟨c.toNat % 16, by omega⟩
  simp only at high low
  simp only [unit?, zero, high, low, Option.bind_some, Option.map_some, Option.some.injEq]
  omega

/-- A character is read back from its escape. -/
theorem scan_escape (c : Char) (text rest : List Char) :
    scan (.quoted text) ((escape c).toList ++ rest) = scan (.quoted (text ++ [c])) rest := by
  -- characters with an escape of their own, other control characters, and all others
  by_cases lettered : c ∈ ['\x22', '\\', '\x08', '\t', '\n', '\x0c', '\r']
  · simp only [List.mem_cons, List.not_mem_nil, or_false] at lettered
    rcases lettered with rfl | rfl | rfl | rfl | rfl | rfl | rfl <;>
      simp [escape, scan, escape?]
  · simp only [List.mem_cons, List.not_mem_nil, or_false, not_or] at lettered
    obtain ⟨quote, backslash, back, tab, line, form, carriage⟩ := lettered
    simp only [escape, quote, backslash, back, tab, line, form, carriage, if_false]
    by_cases control : c.toNat < 0x20
    · have whole : ofUnit? c.toNat = some c := by
        have small : ¬ (0xD800 ≤ c.toNat) := by omega
        simp [ofUnit?, small]
      simp [control, scan, unit_control control, whole]
    · simp only [control, if_false, String.toList_singleton, List.singleton_append]
      rw [scan]
      · simp [quote, control]
      · simp [backslash]
      · simp [backslash]

theorem scan_escapes (chars text rest : List Char) :
    scan (.quoted text) ((String.join (chars.map escape)).toList ++ rest) =
      scan (.quoted (text ++ chars)) rest := by
  induction chars generalizing text with
  | nil => simp
  | cons c chars ih =>
      rw [List.map_cons, String.join_cons, String.toList_append, List.append_assoc, scan_escape, ih,
        List.append_assoc, List.singleton_append]

/-- A quoted text is one token. -/
theorem scan_quoted (s : String) (rest : List Char) :
    scan .space ((quoted s).toList ++ rest) =
      (scan .space rest).map (scalar (.string s) :: ·) := by
  have opened : scan .space ((quoted s).toList ++ rest) =
      scan (.quoted []) ((String.join (s.toList.map escape)).toList ++ '\x22' :: rest) := by
    simp [quoted, scan, isSpace]
  rw [opened, scan_escapes, List.nil_append, scan]
  · simp
  · simp
  · simp

theorem scan_newline (depth : Nat) (rest : List Char) :
    scan .space ((newline depth).toList ++ rest) = scan .space rest := by
  -- the indentation is white space like the line feed before it
  have spaces (count : Nat) :
      scan .space (List.replicate count ' ' ++ rest) = scan .space rest := by
    induction count with
    | zero => rfl
    | succ count ih => simpa [List.replicate_succ, scan, isSpace] using ih
  simpa [newline, scan, isSpace] using spaces (2 * depth)

end Strings

/-! Values. -/

section Values

open Token Pretty

/-- The text of a value is cut into its tokens, whatever stands after it. -/
def Scans (value : Value) : Prop :=
  ∀ (depth : Nat) (rest : List Char),
    scan .space ((render depth value).toList ++ rest) = (scan .space rest).map (written value ++ ·)

theorem scan_items {items : List Value} (each : ∀ item ∈ items, Scans item) (depth : Nat)
    (rest : List Char) :
    scan .space ((renderItems depth items).toList ++ rest) =
      (scan .space rest).map (writtenItems items ++ ·) := by
  induction items with
  | nil => simp [renderItems, writtenItems]
  | cons item items ih =>
      have later := ih fun other member => each other (List.mem_cons_of_mem _ member)
      have this := each item List.mem_cons_self depth
      simp [renderItems, writtenItems, scan, isSpace, punctuation?, scan_newline, this, later,
        Option.map_map, Function.comp_def]

theorem scan_field (name : String) {value : Value} (scans : Scans value) (depth : Nat)
    (rest : List Char) :
    scan .space ((quoted name).toList ++ ':' :: ' ' :: ((render depth value).toList ++ rest)) =
      (scan .space rest).map (scalar (.string name) :: colon :: written value ++ ·) := by
  have this := scans depth
  simp [scan_quoted, scan, isSpace, punctuation?, this, Option.map_map, Function.comp_def]

theorem scan_fields {fields : List (String × Value)} (each : ∀ field ∈ fields, Scans field.2)
    (depth : Nat) (rest : List Char) :
    scan .space ((renderFields depth fields).toList ++ rest) =
      (scan .space rest).map (writtenFields fields ++ ·) := by
  induction fields with
  | nil => simp [renderFields, writtenFields]
  | cons field fields ih =>
      obtain ⟨name, value⟩ := field
      have later := ih fun other member => each other (List.mem_cons_of_mem _ member)
      have this := scan_field name (each (name, value) List.mem_cons_self) depth
      simp [renderFields, writtenFields, scan, isSpace, punctuation?, scan_newline, this, later,
        Option.map_map, Function.comp_def]

theorem scans_textual {value : Value} (textual : Textual value) : Scans value := by
  induction textual with
  | string text =>
      intro depth rest
      simpa [render, written] using scan_quoted text rest
  | @array items _ ih =>
      intro depth rest
      cases items with
      | nil => simp [render, written, scan, isSpace, punctuation?, Option.map_map, Function.comp_def]
      | cons item items =>
          have this := ih item List.mem_cons_self (depth + 1)
          have later := scan_items
            (fun other member => ih other (List.mem_cons_of_mem _ member)) (depth + 1)
          simp [render, written, scan, isSpace, punctuation?, scan_newline, this, later,
            Option.map_map, Function.comp_def]
  | @object fields _ ih =>
      intro depth rest
      cases fields with
      | nil => simp [render, written, scan, isSpace, punctuation?, Option.map_map, Function.comp_def]
      | cons field fields =>
          obtain ⟨name, value⟩ := field
          have this := scan_field name (ih (name, value) List.mem_cons_self) (depth + 1)
          have later := scan_fields
            (fun other member => ih other (List.mem_cons_of_mem _ member)) (depth + 1)
          simp [render, written, scan, isSpace, punctuation?, scan_newline, this, later,
            Option.map_map, Function.comp_def]

end Values

/-! Reading the tokens. -/

namespace Reader

open Token

/-- The tokens of a value complete it, whatever is open around it. -/
def Reads (value : Value) : Prop :=
  ∀ (frames : List Frame) (rest : List Token),
    read .value frames (written value ++ rest) = read (.next value) frames rest

theorem read_items {items : List Value} (each : ∀ item ∈ items, Reads item) (before : List Value)
    (last : Value) (frames : List Frame) (rest : List Token) :
    read (.next last) (.array before :: frames) (writtenItems items ++ closeArray :: rest) =
      read (.next (.array (before ++ last :: items))) frames rest := by
  induction items generalizing before last with
  | nil => simp [writtenItems, read]
  | cons item items ih =>
      have this := each item List.mem_cons_self
      have later := ih fun other member => each other (List.mem_cons_of_mem _ member)
      rw [writtenItems, List.cons_append, List.cons_append, read, List.append_assoc, this, later,
        List.append_assoc, List.singleton_append]

theorem read_fields {fields : List (String × Value)} (each : ∀ field ∈ fields, Reads field.2)
    (before : List (String × Value)) (name : String) (last : Value) (frames : List Frame)
    (rest : List Token) :
    read (.next last) (.object before name :: frames)
        (writtenFields fields ++ closeObject :: rest) =
      read (.next (.object (before ++ (name, last) :: fields))) frames rest := by
  induction fields generalizing before name last with
  | nil => simp [writtenFields, read]
  | cons field fields ih =>
      obtain ⟨label, value⟩ := field
      have this := each (label, value) List.mem_cons_self
      have later := ih fun other member => each other (List.mem_cons_of_mem _ member)
      simp only [writtenFields, List.cons_append, read]
      rw [List.append_assoc, this, later, List.append_assoc, List.singleton_append]

/-- The first item of an array is read like any other value. -/
theorem read_firstItem {value : Value} (textual : Textual value) (frames : List Frame)
    (rest : List Token) :
    read .itemOrEnd frames (written value ++ rest) =
      read .value (.array [] :: frames) (written value ++ rest) := by
  cases textual with
  | string text => simp [written, read]
  | @array items _ => cases items <;> simp [written, read]
  | @object fields _ => cases fields <;> simp [written, read]

theorem reads_textual {value : Value} (textual : Textual value) : Reads value := by
  induction textual with
  | string text => exact fun frames rest => by simp [written, read]
  | @array items each ih =>
      intro frames rest
      cases items with
      | nil => simp [written, read]
      | cons item items =>
          -- the first item is read before it is known whether the array is empty
          have first := read_firstItem (each item List.mem_cons_self) frames
          have this := ih item List.mem_cons_self (.array [] :: frames)
          have later := read_items (fun other member => ih other (List.mem_cons_of_mem _ member))
            [] item frames rest
          simp only [written, List.cons_append, List.append_assoc, read]
          rw [first, this]
          simpa using later
  | @object fields _ ih =>
      intro frames rest
      cases fields with
      | nil => simp [written, read]
      | cons field fields =>
          obtain ⟨name, value⟩ := field
          have this := ih (name, value) List.mem_cons_self (.object [] name :: frames)
          have later := read_fields (fun other member => ih other (List.mem_cons_of_mem _ member))
            [] name value frames rest
          simp only [written, List.cons_append, List.append_assoc, read]
          rw [this]
          simpa using later

end Reader

/-- A value made from strings is read back from its written form. -/
theorem Value.ofText_pretty {value : Value} (textual : Textual value) :
    Value.ofText? value.pretty = some value := by
  have tokens := scans_textual textual 0 []
  have whole := Reader.reads_textual textual [] []
  rw [List.append_nil] at tokens whole
  simp [Value.ofText?, Value.pretty, tokens, Token.scan, whole, Reader.read]

end InterfaceMocks.Json
