import Mathlib

/-!
# Compact JSON

The REST endpoints write their JSON bodies by hand, with `fmt.Sprintf` and `%s`, and escape
nothing. This module says what such a body should be: the compact text of a JSON value, and a
reader for compact JSON without escapes (strings with no backslash or control character, arrays
and objects, no whitespace). A value written out reads back as itself as long as none of its
strings needs escaping (`Json.parse_render`).
-/

namespace Rollkit

def commaSeparated : List String → String
  | [] => ""
  | [item] => item
  | item :: items => item ++ "," ++ commaSeparated items

/-- Characters a JSON string literal may hold as they are: no quote, backslash or control
character. -/
def jsonSafe (s : String) : Bool :=
  s.toList.all fun c => c ≠ '"' && c ≠ '\\' && 0x20 ≤ c.toNat

/-- The JSON values the endpoints write: strings, arrays and objects. -/
inductive Json where
  | str (s : String)
  | arr (items : List Json)
  | obj (fields : List (String × Json))
  deriving Repr

mutual
/-- Compact JSON text, each string written as it is. -/
def Json.render : Json → String
  | .str s => "\"" ++ s ++ "\""
  | .arr items => "[" ++ renderItems items ++ "]"
  | .obj fields => "\x7b" ++ renderFields fields ++ "\x7d"
def renderItems : List Json → String
  | [] => ""
  | [j] => j.render
  | j :: items => j.render ++ "," ++ renderItems items
def renderFields : List (String × Json) → String
  | [] => ""
  | [(k, v)] => "\"" ++ k ++ "\":" ++ v.render
  | (k, v) :: fields => "\"" ++ k ++ "\":" ++ v.render ++ "," ++ renderFields fields
end

mutual
def Json.safe : Json → Bool
  | .str s => jsonSafe s
  | .arr items => itemsSafe items
  | .obj fields => fieldsSafe fields
def itemsSafe : List Json → Bool
  | [] => true
  | j :: items => j.safe && itemsSafe items
def fieldsSafe : List (String × Json) → Bool
  | [] => true
  | (k, v) :: fields => jsonSafe k && v.safe && fieldsSafe fields
end

mutual
def Json.size : Json → Nat
  | .str _ => 1
  | .arr items => sizeItems items + 1
  | .obj fields => sizeFields fields + 1
def sizeItems : List Json → Nat
  | [] => 0
  | j :: items => j.size + sizeItems items + 1
def sizeFields : List (String × Json) → Nat
  | [] => 0
  | (_, v) :: fields => v.size + sizeFields fields + 1
end

/-! ### Reading JSON back -/

def expect (c : Char) : List Char → Option (List Char)
  | d :: rest => if d = c then some rest else none
  | [] => none

/-- The characters of a string literal with no escape, up to its closing quote; a backslash or
a control character is refused. -/
def parseChars : List Char → Option (List Char × List Char)
  | [] => none
  | c :: rest =>
    if c = '"' then some ([], rest)
    else if c = '\\' ∨ c.toNat < 0x20 then none
    else (parseChars rest).map fun (cs, r) => (c :: cs, r)

mutual
/-- A value of compact JSON without escapes, reading at most `fuel` values. -/
def parseValue : Nat → List Char → Option (Json × List Char)
  | 0, _ => none
  | _ + 1, [] => none
  | n + 1, c :: rest =>
    if c = '"' then (parseChars rest).map fun (cs, r) => (.str ⟨cs⟩, r)
    else if c = '[' then
      match expect ']' rest with
      | some r => some (.arr [], r)
      | none => (parseItems n rest).bind fun (items, r) => (expect ']' r).map (.arr items, ·)
    else if c = '\x7b' then
      match expect '\x7d' rest with
      | some r => some (.obj [], r)
      | none => (parseFields n rest).bind fun (fields, r) => (expect '\x7d' r).map (.obj fields, ·)
    else none
def parseItems : Nat → List Char → Option (List Json × List Char)
  | 0, _ => none
  | n + 1, cs => (parseValue n cs).bind fun (j, r) =>
    match expect ',' r with
    | some r => (parseItems n r).map fun (items, r) => (j :: items, r)
    | none => some ([j], r)
def parseFields : Nat → List Char → Option (List (String × Json) × List Char)
  | 0, _ => none
  | n + 1, cs =>
    (expect '"' cs).bind fun cs => (parseChars cs).bind fun (key, r) =>
      (expect ':' r).bind fun r => (parseValue n r).bind fun (v, r) =>
        match expect ',' r with
        | some r => (parseFields n r).map fun (fields, r) => ((⟨key⟩, v) :: fields, r)
        | none => some ([(⟨key⟩, v)], r)
end

/-- The JSON value a whole text denotes. -/
def Json.parse (s : String) : Option Json :=
  match parseValue s.length s.data with
  | some (j, []) => some j
  | _ => none

example : Json.parse "[\"a\",\x7b\"k\":\"v\"\x7d,[]]" =
    some (.arr [.str "a", .obj [("k", .str "v")], .arr []]) := rfl

/-! ### The text of a value -/

@[simp] theorem expect_cons (c d : Char) (rest : List Char) :
    expect c (d :: rest) = if d = c then some rest else none := rfl

@[simp] theorem render_str_data (s : String) :
    ((Json.str s).render).data = '"' :: s.data ++ ['"'] := rfl

@[simp] theorem render_arr_data (items : List Json) :
    ((Json.arr items).render).data = '[' :: (renderItems items).data ++ [']'] := rfl

@[simp] theorem render_obj_data (fields : List (String × Json)) :
    ((Json.obj fields).render).data = '\x7b' :: (renderFields fields).data ++ ['\x7d'] := rfl

@[simp] theorem renderItems_nil_data : (renderItems []).data = [] := rfl

@[simp] theorem renderItems_singleton_data (j : Json) :
    (renderItems [j]).data = (j.render).data := rfl

@[simp] theorem renderItems_cons_cons_data (j i : Json) (items : List Json) :
    (renderItems (j :: i :: items)).data =
      (j.render).data ++ ',' :: (renderItems (i :: items)).data := by
  simp [renderItems]

@[simp] theorem renderFields_nil_data : (renderFields []).data = [] := rfl

@[simp] theorem renderFields_singleton_data (k : String) (v : Json) :
    (renderFields [(k, v)]).data = '"' :: k.data ++ '"' :: ':' :: (v.render).data := by
  simp [renderFields]

@[simp] theorem renderFields_cons_cons_data (k : String) (v : Json) (f : String × Json)
    (fields : List (String × Json)) :
    (renderFields ((k, v) :: f :: fields)).data =
      '"' :: k.data ++ '"' :: ':' :: (v.render).data ++ ',' :: (renderFields (f :: fields)).data := by
  simp [renderFields]

theorem renderItems_eq_commaSeparated (items : List Json) :
    renderItems items = commaSeparated (items.map Json.render) := by
  induction items with
  | nil => rfl
  | cons j items ih =>
    cases items with
    | nil => rfl
    | cons i items =>
      rw [show renderItems (j :: i :: items) = j.render ++ "," ++ renderItems (i :: items) from rfl,
        ih]
      rfl

@[simp] theorem itemsSafe_eq_all (items : List Json) : itemsSafe items = items.all Json.safe := by
  induction items with
  | nil => rfl
  | cons j items ih => simp [itemsSafe, ih]

@[simp] theorem fieldsSafe_eq_all (fields : List (String × Json)) :
    fieldsSafe fields = fields.all fun f => jsonSafe f.1 && f.2.safe := by
  induction fields with
  | nil => rfl
  | cons f fields ih => simp [fieldsSafe, ih, Bool.and_assoc]

theorem size_pos (j : Json) : 0 < j.size := by
  cases j <;> exact Nat.succ_pos _

mutual
theorem size_le_length : ∀ j : Json, j.size ≤ (j.render).data.length
  | .str s => by simp [Json.size]
  | .arr items => by
    have := sizeItems_le_length items
    simp only [Json.size, render_arr_data, List.length_cons, List.length_append,
      List.length_singleton]
    omega
  | .obj fields => by
    have := sizeFields_le_length fields
    simp only [Json.size, render_obj_data, List.length_cons, List.length_append,
      List.length_singleton]
    omega
theorem sizeItems_le_length :
    ∀ items : List Json, sizeItems items ≤ (renderItems items).data.length + 1
  | [] => by simp [sizeItems]
  | [j] => by
    have := size_le_length j
    simp only [sizeItems, renderItems_singleton_data]
    omega
  | j :: i :: items => by
    have := size_le_length j
    have := sizeItems_le_length (i :: items)
    simp only [sizeItems, renderItems_cons_cons_data, List.length_append, List.length_cons] at *
    omega
theorem sizeFields_le_length :
    ∀ fields : List (String × Json), sizeFields fields ≤ (renderFields fields).data.length + 1
  | [] => by simp [sizeFields]
  | [(k, v)] => by
    have := size_le_length v
    simp only [sizeFields, renderFields_singleton_data, List.length_cons, List.length_append]
    omega
  | (k, v) :: f :: fields => by
    have := size_le_length v
    have := sizeFields_le_length (f :: fields)
    simp only [sizeFields, renderFields_cons_cons_data, List.length_append, List.length_cons] at *
    omega
end

/-! ### Reading back what was written -/

theorem parseChars_safe {s : String} (hs : jsonSafe s = true) (rest : List Char) :
    parseChars (s.data ++ '"' :: rest) = some (s.data, rest) := by
  obtain ⟨cs⟩ := s
  simp only [jsonSafe, String.toList, List.all_eq_true] at hs
  induction cs with
  | nil => simp [parseChars]
  | cons c cs ih =>
    have hc := hs c (List.mem_cons_self c cs)
    simp only [Bool.and_eq_true, decide_eq_true_eq, ne_eq] at hc
    simp [parseChars, hc.1.1, hc.1.2, Nat.not_lt.mpr hc.2,
      ih fun c h => hs c (List.mem_cons_of_mem _ h)]

theorem expect_renderItems (j : Json) (items : List Json) (rest : List Char) :
    expect ']' ((renderItems (j :: items)).data ++ rest) = none := by
  cases items <;> cases j <;> simp

theorem expect_renderFields (f : String × Json) (fields : List (String × Json))
    (rest : List Char) : expect '\x7d' ((renderFields (f :: fields)).data ++ rest) = none := by
  obtain ⟨k, v⟩ := f
  cases fields <;> simp

mutual
theorem parseValue_render : ∀ (j : Json) (n : Nat) (rest : List Char), j.size ≤ n →
    j.safe = true → parseValue n ((j.render).data ++ rest) = some (j, rest)
  | j, 0, _, h, _ => absurd h (Nat.not_le.mpr (size_pos j))
  | .str s, n + 1, rest, _, hs => by
    simp [parseValue, parseChars_safe (show jsonSafe s = true from hs)]
  | .arr [], n + 1, rest, _, _ => by simp [parseValue]
  | .arr (j :: items), n + 1, rest, h, hs => by
    have hitems := parseItems_render j items n (']' :: rest) (Nat.le_of_succ_le_succ h) hs
      (by simp)
    simp only [render_arr_data, List.cons_append, List.append_assoc, List.singleton_append,
      parseValue]
    simp [expect_renderItems, hitems]
  | .obj [], n + 1, rest, _, _ => by simp [parseValue]
  | .obj (f :: fields), n + 1, rest, h, hs => by
    have hfields := parseFields_render f fields n ('\x7d' :: rest) (Nat.le_of_succ_le_succ h) hs
      (by simp)
    simp only [render_obj_data, List.cons_append, List.append_assoc, List.singleton_append,
      parseValue]
    simp [expect_renderFields, hfields]
theorem parseItems_render : ∀ (j : Json) (items : List Json) (n : Nat) (rest : List Char),
    sizeItems (j :: items) ≤ n → itemsSafe (j :: items) = true → expect ',' rest = none →
    parseItems n ((renderItems (j :: items)).data ++ rest) = some (j :: items, rest)
  | _, _, 0, _, h, _, _ => absurd h (Nat.not_le.mpr (Nat.succ_pos _))
  | j, [], n + 1, rest, h, hs, hr => by
    have hsize : j.size + 0 + 1 ≤ n + 1 := h
    have hj := parseValue_render j n rest (by omega) (Bool.and_eq_true_iff.mp hs).1
    simp [parseItems, hj, hr]
  | j, i :: items, n + 1, rest, h, hs, hr => by
    have hsize : j.size + sizeItems (i :: items) + 1 ≤ n + 1 := h
    obtain ⟨hjs, his⟩ := Bool.and_eq_true_iff.mp hs
    have hj := parseValue_render j n (',' :: ((renderItems (i :: items)).data ++ rest)) (by omega)
      hjs
    have hi := parseItems_render i items n rest (by omega) his hr
    simp [parseItems, hj, hi]
theorem parseFields_render : ∀ (f : String × Json) (fields : List (String × Json)) (n : Nat)
    (rest : List Char), sizeFields (f :: fields) ≤ n → fieldsSafe (f :: fields) = true →
    expect ',' rest = none →
    parseFields n ((renderFields (f :: fields)).data ++ rest) = some (f :: fields, rest)
  | _, _, 0, _, h, _, _ => absurd h (Nat.not_le.mpr (Nat.succ_pos _))
  | (k, v), [], n + 1, rest, h, hs, hr => by
    have hsize : v.size + 0 + 1 ≤ n + 1 := h
    obtain ⟨hkvs, -⟩ := Bool.and_eq_true_iff.mp hs
    obtain ⟨hks, hvs⟩ := Bool.and_eq_true_iff.mp hkvs
    simp only [parseFields, ↓Char.isValue, renderFields_singleton_data, List.cons_append,
      List.append_assoc, expect_cons, ↓reduceIte, Option.some_bind, parseChars_safe hks,
      parseValue_render v n rest (by omega) hvs, hr]
  | (k, v), f :: fields, n + 1, rest, h, hs, hr => by
    have hsize : v.size + sizeFields (f :: fields) + 1 ≤ n + 1 := h
    obtain ⟨hkvs, hfs⟩ := Bool.and_eq_true_iff.mp hs
    obtain ⟨hks, hvs⟩ := Bool.and_eq_true_iff.mp hkvs
    have hv := parseValue_render v n (',' :: ((renderFields (f :: fields)).data ++ rest))
      (by omega) hvs
    have hf := parseFields_render f fields n rest (by omega) hfs hr
    simp only [parseFields, ↓Char.isValue, renderFields_cons_cons_data, List.cons_append,
      List.append_assoc, expect_cons, ↓reduceIte, Option.some_bind, parseChars_safe hks, hv, hf,
      Option.map_some']
end

/-- Compact JSON written without escaping reads back as the value it was written from, as long
as no string of the value needs escaping. -/
theorem Json.parse_render (j : Json) (hj : j.safe = true) : Json.parse j.render = some j := by
  have h := parseValue_render j (j.render).length [] (size_le_length j) hj
  rw [List.append_nil] at h
  simp [Json.parse, h]

end Rollkit
