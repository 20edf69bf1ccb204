import Pokeage.Infra.Decimal

/-!
# JSON

Values, their text and the reading of a text. How numbers are printed and read is a parameter (`Numbers`).
A text is read with as much fuel as it has characters, which is enough for whatever was printed:
`parse_stringify` is the round trip of every value whose numbers are kept and whose objects have no key
twice.
-/

namespace Infra

/-- A value. The fields of an object stand in their order. -/
inductive Json where
  | null
  | bool (b : Bool)
  | num (q : ℚ)
  | str (s : String)
  | arr (items : List Json)
  | obj (fields : List (String × Json))

namespace Json

open Decimal.Numeral (Stops stops_nil stops_cons)

/-- How numbers are printed, and how a number is read up to the text after it. -/
structure Numbers where
  print : ℚ → List Char
  read : List Char → Option (ℚ × List Char)

/-! ## Printing -/

/-- A character within quotes. -/
def escape (c : Char) : List Char :=
  if c = '"' then ['\\', '"']
  else if c = '\\' then ['\\', '\\']
  else if c = '\x08' then ['\\', 'b']
  else if c = '\x0c' then ['\\', 'f']
  else if c = '\n' then ['\\', 'n']
  else if c = '\r' then ['\\', 'r']
  else if c = '\t' then ['\\', 't']
  else if c.toNat < 0x20 then
    ['\\', 'u', '0', '0', Nat.digitChar (c.toNat / 16), Nat.digitChar (c.toNat % 16)]
  else [c]

/-- A string within quotes. -/
def quote (s : String) : List Char := '"' :: (s.toList.flatMap escape ++ ['"'])

section

variable (N : Numbers)

mutual

/-- A value as it is printed. -/
def text : Json → List Char
  | null => ['n', 'u', 'l', 'l']
  | bool true => ['t', 'r', 'u', 'e']
  | bool false => ['f', 'a', 'l', 's', 'e']
  | num q => N.print q
  | str s => quote s
  | arr items => '[' :: (textItems items ++ [']'])
  | obj fields => '{' :: (textFields fields ++ ['}'])

/-- Items with commas between them. -/
def textItems : List Json → List Char
  | [] => []
  | [v] => text v
  | v :: w :: vs => text v ++ ',' :: textItems (w :: vs)

/-- Fields with commas between them. -/
def textFields : List (String × Json) → List Char
  | [] => []
  | [(k, v)] => quote k ++ ':' :: text v
  | (k, v) :: f :: fs => quote k ++ ':' :: (text v ++ ',' :: textFields (f :: fs))

end

end

/-! ## Fields -/

/-- The value of a field, if there is one. -/
def get (key : String) : Json → Option Json
  | obj fields => (fields.find? (·.1 = key)).map Prod.snd
  | _ => none

/-- Set a field: a key that is there keeps its place. -/
def put (fields : List (String × Json)) (entry : String × Json) : List (String × Json) :=
  if fields.any (·.1 = entry.1) then
    fields.map fun field => if field.1 = entry.1 then entry else field
  else fields ++ [entry]

/-! ## Reading -/

/-- Blanks, tabs and ends of lines. -/
def isSpace (c : Char) : Bool := c = ' ' || c = '\t' || c = '\n' || c = '\r'

/-- The text from the first character on that is no space. -/
def skip (cs : List Char) : List Char := cs.dropWhile isSpace

/-- A hexadecimal digit, in either case. -/
def hexDigit (c : Char) : Option ℕ :=
  if c.isDigit then some (c.toNat - '0'.toNat)
  else if 'a' ≤ c ∧ c ≤ 'f' then some (c.toNat - 'a'.toNat + 10)
  else if 'A' ≤ c ∧ c ≤ 'F' then some (c.toNat - 'A'.toNat + 10)
  else none

/-- Four hexadecimal digits. -/
def hexCode : List Char → Option (ℕ × List Char)
  | a :: b :: c :: d :: cs => do
    let a ← hexDigit a
    let b ← hexDigit b
    let c ← hexDigit c
    let d ← hexDigit d
    return (((a * 16 + b) * 16 + c) * 16 + d, cs)
  | _ => none

/-- A code unit written out, or a pair of them. One half of a pair alone is no character. -/
def unicode (cs : List Char) : Option (Char × List Char) := do
  let (code, cs) ← hexCode cs
  if 0xd800 ≤ code ∧ code < 0xdc00 then
    match cs with
    | '\\' :: 'u' :: cs => do
      let (low, cs) ← hexCode cs
      if 0xdc00 ≤ low ∧ low < 0xe000 then
        return (Char.ofNat (0x10000 + (code - 0xd800) * 0x400 + (low - 0xdc00)), cs)
      else none
    | _ => none
  else if 0xdc00 ≤ code ∧ code < 0xe000 then none
  else return (Char.ofNat code, cs)

/-- What follows a backslash. -/
def unescape : List Char → Option (Char × List Char)
  | '"' :: cs => some ('"', cs)
  | '\\' :: cs => some ('\\', cs)
  | '/' :: cs => some ('/', cs)
  | 'b' :: cs => some ('\x08', cs)
  | 'f' :: cs => some ('\x0c', cs)
  | 'n' :: cs => some ('\n', cs)
  | 'r' :: cs => some ('\r', cs)
  | 't' :: cs => some ('\t', cs)
  | 'u' :: cs => unicode cs
  | _ => none

/-- One character within quotes. -/
def readChar : List Char → Option (Char × List Char)
  | '\\' :: cs => unescape cs
  | c :: cs => if c.toNat < 0x20 then none else some (c, cs)
  | [] => none

/-- The characters up to the closing quote. -/
def readChars : ℕ → List Char → Option (List Char × List Char)
  | 0, _ => none
  | _ + 1, '"' :: cs => some ([], cs)
  | n + 1, cs => do
    let (c, cs) ← readChar cs
    let (s, cs) ← readChars n cs
    return (c :: s, cs)

/-- The rest of a word that stands for a value. -/
def keyword : List Char → Json → List Char → Option (Json × List Char)
  | [], v, cs => some (v, cs)
  | w :: ws, v, c :: cs => if c = w then keyword ws v cs else none
  | _ :: _, _, [] => none

section

variable (N : Numbers)

mutual

/-- A value at the front of a text, in at most so many steps down the text. -/
def parseValue : ℕ → List Char → Option (Json × List Char)
  | 0, _ => none
  | n + 1, cs =>
    match skip cs with
    | '"' :: cs => do
      let (s, cs) ← readChars n cs
      return (str (String.ofList s), cs)
    | '[' :: cs =>
      match skip cs with
      | ']' :: cs => some (arr [], cs)
      | cs => do
        let (items, cs) ← parseItems n cs
        return (arr items, cs)
    | '{' :: cs =>
      match skip cs with
      | '}' :: cs => some (obj [], cs)
      | cs => do
        let (fields, cs) ← parseFields n cs
        return (obj (fields.foldl put []), cs)
    | 't' :: cs => keyword ['r', 'u', 'e'] (bool true) cs
    | 'f' :: cs => keyword ['a', 'l', 's', 'e'] (bool false) cs
    | 'n' :: cs => keyword ['u', 'l', 'l'] null cs
    | cs => do
      let (q, cs) ← N.read cs
      return (num q, cs)

/-- Items up to the closing bracket, at least one. -/
def parseItems : ℕ → List Char → Option (List Json × List Char)
  | 0, _ => none
  | n + 1, cs => do
    let (v, cs) ← parseValue n cs
    match skip cs with
    | ',' :: cs => do
      let (vs, cs) ← parseItems n cs
      return (v :: vs, cs)
    | ']' :: cs => return ([v], cs)
    | _ => none

/-- Fields up to the closing brace, at least one. -/
def parseFields : ℕ → List Char → Option (List (String × Json) × List Char)
  | 0, _ => none
  | n + 1, cs =>
    match skip cs with
    | '"' :: cs => do
      let (k, cs) ← readChars n cs
      match skip cs with
      | ':' :: cs => do
        let (v, cs) ← parseValue n cs
        match skip cs with
        | ',' :: cs => do
          let (fs, cs) ← parseFields n cs
          return ((String.ofList k, v) :: fs, cs)
        | '}' :: cs => return ([(String.ofList k, v)], cs)
        | _ => none
      | _ => none
    | _ => none

end

/-- Print a value without any space. -/
def stringify (v : Json) : String := String.ofList (text N v)

/-- Read a text that is one value, with space around it. -/
def parse (s : String) : Option Json := do
  let (v, rest) ← parseValue N (s.toList.length + 1) s.toList
  if skip rest = [] then return v else none

end

/-! ## Strings are read back -/

theorem hexDigit_digitChar : ∀ n < 16, hexDigit (Nat.digitChar n) = some n := by decide

theorem hexCode_control {n : ℕ} (low : n < 0x20) (rest : List Char) :
    hexCode ('0' :: '0' :: Nat.digitChar (n / 16) :: Nat.digitChar (n % 16) :: rest) = some (n, rest) := by
  have zero : hexDigit '0' = some 0 := by decide
  have code : ((0 * 16 + 0) * 16 + n / 16) * 16 + n % 16 = n := by omega
  simp [hexCode, zero, hexDigit_digitChar (n / 16) (by omega), hexDigit_digitChar (n % 16) (by omega)]
  omega

/-- A control character, written out in hexadecimal. -/
theorem unicode_control {c : Char} (low : c.toNat < 0x20) (rest : List Char) :
    unicode ('0' :: '0' :: Nat.digitChar (c.toNat / 16) :: Nat.digitChar (c.toNat % 16) :: rest) =
      some (c, rest) := by
  unfold unicode
  rw [hexCode_control low]
  simp only [Option.bind_eq_bind, Option.bind_some]
  rw [if_neg (by omega), if_neg (by omega), Char.ofNat_toNat]
  rfl

/-- A character is read back. -/
theorem readChar_escape (c : Char) (rest : List Char) : readChar (escape c ++ rest) = some (c, rest) := by
  unfold escape
  split_ifs with quot back b f n r t low
  · rw [quot]; rfl
  · rw [back]; rfl
  · rw [b]; rfl
  · rw [f]; rfl
  · rw [n]; rfl
  · rw [r]; rfl
  · rw [t]; rfl
  · exact unicode_control low rest
  · show readChar (c :: rest) = _
    unfold readChar
    split
    · next eq => exact absurd (List.cons.inj eq).1 back
    · next eq =>
      obtain ⟨rfl, rfl⟩ := List.cons.inj eq
      rw [if_neg low]
    · next eq => cases eq

/-- An escaped character does not begin with the closing quote. -/
theorem escape_head (c : Char) : ∃ d ds, escape c = d :: ds ∧ d ≠ '"' := by
  unfold escape
  split_ifs with quot
  all_goals first | exact ⟨_, _, rfl, quot⟩ | exact ⟨_, _, rfl, by decide⟩

theorem length_le_escape (s : List Char) : s.length ≤ (s.flatMap escape).length := by
  induction s with
  | nil => simp
  | cons c s ih =>
    obtain ⟨d, ds, eq, -⟩ := escape_head c
    simp only [List.flatMap_cons, List.length_append, List.length_cons, eq]
    omega

theorem readChars_cons {d : Char} (ne : d ≠ '"') (n : ℕ) (ds : List Char) :
    readChars (n + 1) (d :: ds) = (do
      let (c, cs) ← readChar (d :: ds)
      let (s, cs) ← readChars n cs
      return (c :: s, cs)) := by
  rw [readChars]
  intro cs eq
  exact ne (List.cons.inj eq).1

/-- The characters of a string, escaped, are read up to the closing quote. -/
theorem readChars_escape (s : List Char) {n : ℕ} (fuel : s.length < n) (rest : List Char) :
    readChars n (s.flatMap escape ++ '"' :: rest) = some (s, rest) := by
  induction s generalizing n with
  | nil =>
    obtain ⟨n, rfl⟩ := Nat.exists_eq_succ_of_ne_zero (Nat.ne_zero_of_lt fuel)
    rfl
  | cons c s ih =>
    obtain ⟨n, rfl⟩ := Nat.exists_eq_succ_of_ne_zero (Nat.ne_zero_of_lt fuel)
    obtain ⟨d, ds, eq, ne⟩ := escape_head c
    have char := readChar_escape c (s.flatMap escape ++ '"' :: rest)
    rw [List.flatMap_cons, List.append_assoc]
    rw [eq, List.cons_append] at char ⊢
    rw [readChars_cons ne, char]
    show (readChars n (s.flatMap escape ++ '"' :: rest) >>= _) = _
    rw [ih (Nat.lt_of_succ_lt_succ fuel)]
    rfl

/-! ## Values are read back -/

section

variable {N : Numbers}

/-- A number that is read back, and whose text begins like a number. -/
structure Numbers.Keeps (N : Numbers) (q : ℚ) : Prop where
  head : ∃ c cs, N.print q = c :: cs ∧ (c = '-' ∨ c.isDigit = true)
  read : ∀ rest, Stops rest → N.read (N.print q ++ rest) = some (q, rest)

/-- All numbers are kept, and no object has a key twice. -/
inductive Ok (N : Numbers) : Json → Prop where
  | null : Ok N null
  | bool (b : Bool) : Ok N (bool b)
  | num {q : ℚ} (keeps : N.Keeps q) : Ok N (num q)
  | str (s : String) : Ok N (str s)
  | arr {items : List Json} (each : ∀ v ∈ items, Ok N v) : Ok N (arr items)
  | obj {fields : List (String × Json)} (keys : (fields.map Prod.fst).Nodup)
      (each : ∀ f ∈ fields, Ok N f.2) : Ok N (obj fields)

/-- The text of `v` is read as `v`, up to what comes after it, with fuel for each of its characters. -/
def Reads (N : Numbers) (v : Json) : Prop :=
  ∀ (n : ℕ) (rest : List Char), (text N v).length ≤ n → Stops rest →
    parseValue N n (text N v ++ rest) = some (v, rest)

theorem skip_cons {c : Char} (solid : isSpace c = false) (cs : List Char) : skip (c :: cs) = c :: cs := by
  unfold skip
  rw [List.dropWhile_cons_of_neg (by simp [solid])]

/-- How a number begins. -/
theorem number_head {c : Char} (head : c = '-' ∨ c.isDigit = true) :
    isSpace c = false ∧ c ≠ '"' ∧ c ≠ '[' ∧ c ≠ '{' ∧ c ≠ 't' ∧ c ≠ 'f' ∧ c ≠ 'n' ∧ c ≠ ']' := by
  rcases head with rfl | digit
  · decide
  · have not_digit {d : Char} (no : d.isDigit = false) : c ≠ d := by
      rintro rfl
      rw [digit] at no
      cases no
    refine ⟨?_, not_digit rfl, not_digit rfl, not_digit rfl, not_digit rfl, not_digit rfl, not_digit rfl,
      not_digit rfl⟩
    simp [isSpace, not_digit (d := ' ') rfl, not_digit (d := '\t') rfl, not_digit (d := '\n') rfl,
      not_digit (d := '\r') rfl]

/-- A value begins with no space, and not like the end of an array. -/
theorem text_head {v : Json} (ok : Ok N v) :
    ∃ c cs, text N v = c :: cs ∧ isSpace c = false ∧ c ≠ ']' := by
  cases ok with
  | null => exact ⟨_, _, rfl, by decide⟩
  | bool b => cases b <;> exact ⟨_, _, rfl, by decide⟩
  | num keeps =>
    obtain ⟨c, cs, eq, head⟩ := keeps.head
    obtain ⟨solid, -, -, -, -, -, -, bracket⟩ := number_head head
    exact ⟨c, cs, eq, solid, bracket⟩
  | str s => exact ⟨_, _, rfl, by decide⟩
  | arr each => exact ⟨_, _, rfl, by decide⟩
  | obj keys each => exact ⟨_, _, rfl, by decide⟩

theorem parseValue_number {c : Char} (head : c = '-' ∨ c.isDigit = true) (n : ℕ) (cs : List Char) :
    parseValue N (n + 1) (c :: cs) = (do
      let (q, cs) ← N.read (c :: cs)
      return (num q, cs)) := by
  obtain ⟨solid, quote, bracket, brace, t, f, n, -⟩ := number_head head
  rw [parseValue, skip_cons solid]
  split
  · next eq => exact absurd (List.cons.inj eq).1 quote
  · next eq => exact absurd (List.cons.inj eq).1 bracket
  · next eq => exact absurd (List.cons.inj eq).1 brace
  · next eq => exact absurd (List.cons.inj eq).1 t
  · next eq => exact absurd (List.cons.inj eq).1 f
  · next eq => exact absurd (List.cons.inj eq).1 n
  · rfl

/-- So is a string up to its closing quote. -/
theorem readChars_quote (s : String) {n : ℕ} (fuel : (quote s).length ≤ n + 1) (rest : List Char) :
    readChars n (s.toList.flatMap escape ++ '"' :: rest) = some (s.toList, rest) := by
  have le := length_le_escape s.toList
  have length : (quote s).length = (s.toList.flatMap escape).length + 2 := by simp [quote]
  exact readChars_escape s.toList (by omega) rest

theorem quote_append (s : String) (rest : List Char) :
    quote s ++ rest = '"' :: (s.toList.flatMap escape ++ '"' :: rest) := by
  simp [quote]

/-- So is a string as a value. -/
theorem reads_string (s : String) : Reads N (str s) := by
  intro n rest fuel stops
  rw [text] at fuel ⊢
  obtain ⟨n, rfl⟩ := Nat.exists_eq_succ_of_ne_zero (Nat.ne_zero_of_lt fuel)
  rw [quote_append, parseValue]
  show (readChars n (s.toList.flatMap escape ++ '"' :: rest) >>= _) = _
  rw [readChars_quote s fuel]
  show some (str (String.ofList s.toList), rest) = _
  rw [String.ofList_toList]

/-- Items after which the array goes on, and the last item. -/
theorem parseItems_comma {v : Json} {n : ℕ} {cs rest : List Char}
    (value : parseValue N n cs = some (v, ',' :: rest)) :
    parseItems N (n + 1) cs = (do
      let (vs, cs) ← parseItems N n rest
      return (v :: vs, cs)) := by
  rw [parseItems, value]
  rfl

theorem parseItems_last {v : Json} {n : ℕ} {cs rest : List Char}
    (value : parseValue N n cs = some (v, ']' :: rest)) :
    parseItems N (n + 1) cs = some ([v], rest) := by
  rw [parseItems, value]
  rfl

/-- So are items that are. -/
theorem parseItems_text {items : List Json} (nonempty : items ≠ [])
    (each : ∀ v ∈ items, Reads N v) {n : ℕ} (rest : List Char)
    (fuel : (textItems N items).length < n) :
    parseItems N n (textItems N items ++ ']' :: rest) = some (items, rest) := by
  induction items generalizing n with
  | nil => exact absurd rfl nonempty
  | cons v vs ih =>
    obtain ⟨n, rfl⟩ := Nat.exists_eq_succ_of_ne_zero (Nat.ne_zero_of_lt fuel)
    have value := each v List.mem_cons_self
    cases vs with
    | nil =>
      have bracket : Stops (']' :: rest) := stops_cons rest (by decide)
      rw [textItems] at fuel ⊢
      exact parseItems_last (value n _ (by omega) bracket)
    | cons w ws =>
      have comma := stops_cons (c := ',') (textItems N (w :: ws) ++ ']' :: rest) (by decide)
      rw [textItems, List.length_append, List.length_cons] at fuel
      rw [textItems, List.append_assoc, List.cons_append,
        parseItems_comma (value n _ (by omega) comma),
        ih (List.cons_ne_nil w ws) (fun u mem => each u (List.mem_cons_of_mem v mem)) (by omega)]
      rfl

/-- Fields after which the object goes on, and the last field. -/
theorem parseFields_comma {k : String} {v : Json} {n : ℕ} {cs rest : List Char}
    (key : (quote k).length ≤ n + 1) (value : parseValue N n cs = some (v, ',' :: rest)) :
    parseFields N (n + 1) (quote k ++ ':' :: cs) = (do
      let (fs, cs) ← parseFields N n rest
      return ((k, v) :: fs, cs)) := by
  rw [quote_append, parseFields]
  show (readChars n (k.toList.flatMap escape ++ '"' :: (':' :: cs)) >>= _) = _
  rw [readChars_quote k key]
  show (parseValue N n cs >>= _) = _
  rw [value]
  show (parseFields N n rest >>= _) = _
  rw [String.ofList_toList]

theorem parseFields_last {k : String} {v : Json} {n : ℕ} {cs rest : List Char}
    (key : (quote k).length ≤ n + 1) (value : parseValue N n cs = some (v, '}' :: rest)) :
    parseFields N (n + 1) (quote k ++ ':' :: cs) = some ([(k, v)], rest) := by
  rw [quote_append, parseFields]
  show (readChars n (k.toList.flatMap escape ++ '"' :: (':' :: cs)) >>= _) = _
  rw [readChars_quote k key]
  show (parseValue N n cs >>= _) = _
  rw [value]
  show some ([(String.ofList k.toList, v)], rest) = _
  rw [String.ofList_toList]

/-- So are fields whose values are. -/
theorem parseFields_text {fields : List (String × Json)} (nonempty : fields ≠ [])
    (each : ∀ f ∈ fields, Reads N f.2) {n : ℕ} (rest : List Char)
    (fuel : (textFields N fields).length < n) :
    parseFields N n (textFields N fields ++ '}' :: rest) = some (fields, rest) := by
  induction fields generalizing n with
  | nil => exact absurd rfl nonempty
  | cons f fs ih =>
    obtain ⟨n, rfl⟩ := Nat.exists_eq_succ_of_ne_zero (Nat.ne_zero_of_lt fuel)
    have value := each f List.mem_cons_self
    cases fs with
    | nil =>
      have brace := stops_cons (c := '}') rest (by decide)
      rw [textFields, List.length_append, List.length_cons] at fuel
      rw [textFields, List.append_assoc, List.cons_append]
      exact parseFields_last (by omega) (value n _ (by omega) brace)
    | cons g gs =>
      have comma := stops_cons (c := ',') (textFields N (g :: gs) ++ '}' :: rest) (by decide)
      simp only [textFields, List.length_append, List.length_cons] at fuel
      rw [textFields, List.append_assoc, List.cons_append, List.append_assoc, List.cons_append,
        parseFields_comma (by omega) (value n _ (by omega) comma),
        ih (List.cons_ne_nil g gs) (fun h mem => each h (List.mem_cons_of_mem f mem)) (by omega)]
      rfl

/-- To set a field to what it holds changes nothing. -/
theorem put_get {fields : List (String × Json)} (keys : (fields.map Prod.fst).Nodup) {k : String}
    {v : Json} (h : get k (obj fields) = some v) : put fields (k, v) = fields := by
  obtain ⟨f, found, rfl⟩ := Option.map_eq_some_iff.1 h
  have key : f.1 = k := by simpa using List.find?_some found
  have mem := List.mem_of_find?_eq_some found
  have some_ : fields.any (·.1 = k) = true := List.any_eq_true.2 ⟨f, mem, decide_eq_true key⟩
  have same : ∀ g ∈ fields, (if g.1 = k then (k, f.2) else g) = g := by
    intro g mem'
    split_ifs with eq
    · have field := List.inj_on_of_nodup_map keys mem' mem (eq.trans key.symm)
      rw [field, ← key]
    · rfl
  unfold put
  rw [if_pos some_, List.map_congr_left same, List.map_id']

/-- Fields with keys of their own are kept as they come. -/
theorem foldl_put {fields : List (String × Json)} (acc : List (String × Json))
    (keys : ((acc ++ fields).map Prod.fst).Nodup) : fields.foldl put acc = acc ++ fields := by
  induction fields generalizing acc with
  | nil => simp
  | cons f fs ih =>
    have new : acc.any (·.1 = f.1) = false := by
      rw [List.map_append, List.nodup_append] at keys
      rw [List.any_eq_false]
      intro g mem eq
      exact keys.2.2 g.1 (List.mem_map_of_mem mem) f.1 (by simp) (of_decide_eq_true eq)
    have put_new : put acc f = acc ++ [f] := by
      unfold put
      rw [new]
      rfl
    rw [List.foldl_cons, put_new, ih _ (by simpa using keys), List.append_assoc]
    rfl

theorem textItems_head {v : Json} (ok : Ok N v) (vs : List Json) :
    ∃ c cs, textItems N (v :: vs) = c :: cs ∧ isSpace c = false ∧ c ≠ ']' := by
  obtain ⟨c, cs, eq, solid, ne⟩ := text_head ok
  cases vs with
  | nil => exact ⟨c, cs, by rw [textItems, eq], solid, ne⟩
  | cons w ws => exact ⟨c, _, by rw [textItems, eq, List.cons_append], solid, ne⟩

theorem textFields_head (f : String × Json) (fs : List (String × Json)) :
    ∃ cs, textFields N (f :: fs) = '"' :: cs := by
  cases fs with
  | nil => exact ⟨_, by rw [textFields, quote, List.cons_append]⟩
  | cons g gs => exact ⟨_, by rw [textFields, quote, List.cons_append]⟩

theorem parseValue_array {c : Char} (solid : isSpace c = false) (ne : c ≠ ']') (n : ℕ) (cs : List Char) :
    parseValue N (n + 1) ('[' :: c :: cs) = (do
      let (items, cs) ← parseItems N n (c :: cs)
      return (arr items, cs)) := by
  rw [parseValue, skip_cons (c := '[') (by decide)]
  show (match skip (c :: cs) with
    | ']' :: cs => some (arr [], cs)
    | cs => do
      let (items, cs) ← parseItems N n cs
      return (arr items, cs)) = _
  rw [skip_cons solid]
  split
  · next eq => exact absurd (List.cons.inj eq).1 ne
  · rfl

/-- **Every value is read back**, up to what comes after it. -/
theorem reads_of_ok {v : Json} (ok : Ok N v) : Reads N v := by
  induction ok with
  | null =>
    intro n rest fuel stops
    obtain ⟨n, rfl⟩ := Nat.exists_eq_succ_of_ne_zero (Nat.ne_zero_of_lt fuel)
    rfl
  | bool b =>
    intro n rest fuel stops
    cases b <;>
    · obtain ⟨n, rfl⟩ := Nat.exists_eq_succ_of_ne_zero (Nat.ne_zero_of_lt fuel)
      rfl
  | @num q keeps =>
    intro n rest fuel stops
    obtain ⟨c, cs, eq, head⟩ := keeps.head
    have read := keeps.read rest stops
    rw [text] at fuel ⊢
    rw [eq] at fuel
    obtain ⟨n, rfl⟩ := Nat.exists_eq_succ_of_ne_zero (Nat.ne_zero_of_lt fuel)
    rw [eq, List.cons_append] at read ⊢
    rw [parseValue_number head, read]
    rfl
  | str s => exact reads_string s
  | @arr items each ih =>
    intro n rest fuel stops
    rw [text, List.length_cons, List.length_append] at fuel
    obtain ⟨n, rfl⟩ := Nat.exists_eq_succ_of_ne_zero (Nat.ne_zero_of_lt fuel)
    rw [text, List.cons_append, List.append_assoc]
    cases items with
    | nil => rfl
    | cons v vs =>
      have items := parseItems_text (List.cons_ne_nil v vs) ih rest (n := n) (Nat.le_of_succ_le_succ fuel)
      obtain ⟨c, cs, eq, solid, ne⟩ := textItems_head (each v List.mem_cons_self) vs
      rw [eq, List.cons_append] at items
      rw [eq, List.cons_append, parseValue_array solid ne]
      show (parseItems N n (c :: (cs ++ ']' :: rest)) >>= _) = _
      rw [items]
      rfl
  | @obj fields keys each ih =>
    intro n rest fuel stops
    rw [text, List.length_cons, List.length_append] at fuel
    obtain ⟨n, rfl⟩ := Nat.exists_eq_succ_of_ne_zero (Nat.ne_zero_of_lt fuel)
    rw [text, List.cons_append, List.append_assoc]
    cases fields with
    | nil => rfl
    | cons f fs =>
      have fields := parseFields_text (List.cons_ne_nil f fs) ih rest (n := n) (Nat.le_of_succ_le_succ fuel)
      obtain ⟨cs, eq⟩ := textFields_head (N := N) f fs
      rw [eq, List.cons_append] at fields
      rw [eq, List.cons_append, parseValue]
      show (parseFields N n ('"' :: (cs ++ '}' :: rest)) >>= _) = _
      rw [fields]
      show some (obj ((f :: fs).foldl put []), rest) = _
      rw [foldl_put [] keys]
      rfl

/-- **A value is read back from its text.** -/
theorem parse_stringify {v : Json} (ok : Ok N v) : parse N (stringify N v) = some v := by
  unfold parse stringify
  rw [String.toList_ofList]
  have read := reads_of_ok ok ((text N v).length + 1) [] (Nat.le_succ _) stops_nil
  rw [List.append_nil] at read
  rw [read]
  rfl

/-! ## What is accepted is well formed -/

/-- Setting a field adds its key, unless it is there. -/
theorem keys_put (fields : List (String × Json)) (entry : String × Json) :
    (put fields entry).map Prod.fst = if fields.any (·.1 = entry.1) then fields.map Prod.fst
      else fields.map Prod.fst ++ [entry.1] := by
  unfold put
  split_ifs with there
  · rw [List.map_map]
    refine List.map_congr_left fun f mem => ?_
    simp only [Function.comp_apply]
    split_ifs with eq
    · exact eq.symm
    · rfl
  · rw [List.map_append]
    rfl

/-- Setting a field makes no key twice. -/
theorem nodup_put {fields : List (String × Json)} (keys : (fields.map Prod.fst).Nodup)
    (entry : String × Json) : ((put fields entry).map Prod.fst).Nodup := by
  rw [keys_put]
  split_ifs with there
  · exact keys
  · rw [List.nodup_append]
    refine ⟨keys, List.nodup_singleton _, ?_⟩
    rintro k known _ new rfl
    rw [List.mem_singleton.1 new] at known
    obtain ⟨f, mem, eq⟩ := List.mem_map.1 known
    exact there (List.any_eq_true.2 ⟨f, mem, decide_eq_true eq⟩)

theorem mem_put {fields : List (String × Json)} {entry f : String × Json} (mem : f ∈ put fields entry) :
    f = entry ∨ f ∈ fields := by
  unfold put at mem
  split_ifs at mem with there
  · obtain ⟨g, given, eq⟩ := List.mem_map.1 mem
    split_ifs at eq with same
    · exact .inl eq.symm
    · exact .inr (eq ▸ given)
  · rcases List.mem_append.1 mem with mem | mem
    · exact .inr mem
    · exact .inl (List.mem_singleton.1 mem)

/-- Setting a printable field leaves an object printable. -/
theorem ok_put {fields : List (String × Json)} (ok : Ok N (obj fields)) {k : String} {v : Json}
    (value : Ok N v) : Ok N (obj (put fields (k, v))) := by
  cases ok with
  | obj keys each =>
    refine .obj (nodup_put keys (k, v)) ?_
    intro f mem
    rcases mem_put mem with rfl | mem
    · exact value
    · exact each f mem

theorem ok_foldl_put {fields acc : List (String × Json)} (ok : Ok N (obj acc))
    (each : ∀ f ∈ fields, Ok N f.2) : Ok N (obj (fields.foldl put acc)) := by
  induction fields generalizing acc with
  | nil => exact ok
  | cons f fs ih =>
    exact ih (ok_put ok (each f List.mem_cons_self)) fun g mem => each g (List.mem_cons_of_mem f mem)

/-- A word stands for one value. -/
theorem keyword_eq {ws cs rest : List Char} {v w : Json} (h : keyword ws v cs = some (w, rest)) : w = v := by
  induction ws generalizing cs with
  | nil =>
    obtain ⟨rfl, -⟩ := Prod.mk.inj (Option.some.inj h)
    rfl
  | cons c ws ih =>
    cases cs with
    | nil => cases h
    | cons d cs =>
      unfold keyword at h
      split_ifs at h
      exact ih h

/-- **What is accepted is well formed**, if numbers that are read are kept: reading a value, the items of an
array and the fields of an object, by induction on the fuel. -/
theorem ok_of_parse (keeps : ∀ cs q rest, N.read cs = some (q, rest) → N.Keeps q) (n : ℕ) :
    (∀ cs v rest, parseValue N n cs = some (v, rest) → Ok N v) ∧
    (∀ cs vs rest, parseItems N n cs = some (vs, rest) → ∀ v ∈ vs, Ok N v) ∧
    (∀ cs fs rest, parseFields N n cs = some (fs, rest) → ∀ f ∈ fs, Ok N f.2) := by
  induction n with
  | zero =>
    refine ⟨?_, ?_, ?_⟩ <;>
    · intro cs v rest h
      cases h
  | succ n ih =>
    obtain ⟨values, items, fields⟩ := ih
    refine ⟨?_, ?_, ?_⟩
    · intro cs v rest h
      rw [parseValue] at h
      split at h
      · obtain ⟨s, -, eq⟩ := Option.bind_eq_some_iff.1 h
        obtain ⟨rfl, -⟩ := Prod.mk.inj (Option.some.inj eq)
        exact .str _
      · split at h
        · obtain ⟨rfl, -⟩ := Prod.mk.inj (Option.some.inj h)
          exact .arr fun _ mem => nomatch mem
        · obtain ⟨vs, read, eq⟩ := Option.bind_eq_some_iff.1 h
          obtain ⟨rfl, -⟩ := Prod.mk.inj (Option.some.inj eq)
          exact .arr (items _ _ _ read)
      · split at h
        · obtain ⟨rfl, -⟩ := Prod.mk.inj (Option.some.inj h)
          exact .obj List.nodup_nil fun _ mem => nomatch mem
        · obtain ⟨fs, read, eq⟩ := Option.bind_eq_some_iff.1 h
          obtain ⟨rfl, -⟩ := Prod.mk.inj (Option.some.inj eq)
          exact ok_foldl_put (.obj List.nodup_nil fun _ mem => nomatch mem) (fields _ _ _ read)
      · exact keyword_eq h ▸ .bool true
      · exact keyword_eq h ▸ .bool false
      · exact keyword_eq h ▸ .null
      · obtain ⟨q, read, eq⟩ := Option.bind_eq_some_iff.1 h
        obtain ⟨rfl, -⟩ := Prod.mk.inj (Option.some.inj eq)
        exact .num (keeps _ _ _ read)
    · intro cs vs rest h
      rw [parseItems] at h
      obtain ⟨v, read, h⟩ := Option.bind_eq_some_iff.1 h
      have first := values _ _ _ read
      dsimp only at h
      split at h
      · obtain ⟨vs', more, eq⟩ := Option.bind_eq_some_iff.1 h
        obtain ⟨rfl, -⟩ := Prod.mk.inj (Option.some.inj eq)
        exact List.forall_mem_cons.2 ⟨first, items _ _ _ more⟩
      · obtain ⟨rfl, -⟩ := Prod.mk.inj (Option.some.inj h)
        exact List.forall_mem_singleton.2 first
      · cases h
    · intro cs fs rest h
      rw [parseFields] at h
      split at h
      · obtain ⟨k, -, h⟩ := Option.bind_eq_some_iff.1 h
        dsimp only at h
        split at h
        · obtain ⟨v, read, h⟩ := Option.bind_eq_some_iff.1 h
          have first := values _ _ _ read
          split at h
          · obtain ⟨fs', more, eq⟩ := Option.bind_eq_some_iff.1 h
            obtain ⟨rfl, -⟩ := Prod.mk.inj (Option.some.inj eq)
            exact List.forall_mem_cons.2 ⟨first, fields _ _ _ more⟩
          · obtain ⟨rfl, -⟩ := Prod.mk.inj (Option.some.inj h)
            exact List.forall_mem_singleton.2 first
          · cases h
        · cases h
      · cases h

/-- Whatever is accepted can be printed and read back. -/
theorem ok_parse (keeps : ∀ cs q rest, N.read cs = some (q, rest) → N.Keeps q) {s : String} {v : Json}
    (h : parse N s = some v) : Ok N v := by
  obtain ⟨⟨w, rest⟩, read, h⟩ := Option.bind_eq_some_iff.1 h
  dsimp only at h
  split_ifs at h
  obtain rfl := Option.some.inj h
  exact (ok_of_parse keeps _).1 _ _ _ read

/-! ## Fields that are set and taken away -/

theorem get_obj (k : String) (fields : List (String × Json)) :
    get k (obj fields) = (fields.find? (·.1 = k)).map Prod.snd := rfl

theorem get_cons (k : String) (f : String × Json) (fs : List (String × Json)) :
    get k (obj (f :: fs)) = if f.1 = k then some f.2 else get k (obj fs) := by
  rw [get_obj, get_obj, List.find?_cons]
  by_cases key : f.1 = k <;> simp [key]

/-- A field that was put reads as put. -/
theorem get_put_self (fields : List (String × Json)) (k : String) (v : Json) :
    get k (obj (put fields (k, v))) = some v := by
  unfold put
  split_ifs with there
  · induction fields with
    | nil => cases there
    | cons f fs ih =>
      rw [List.map_cons, get_cons]
      by_cases key : f.1 = k
      · simp [key]
      · have rest : fs.any (·.1 = k) = true := by simpa [key] using there
        simp only [key, if_false]
        exact ih rest
  · have none_ : fields.find? (·.1 = k) = none := by
      rw [List.find?_eq_none]
      intro f mem key
      exact there (List.any_eq_true.2 ⟨f, mem, key⟩)
    rw [get_obj, List.find?_append, none_]
    simp

/-- The others read as before. -/
theorem get_put_ne {k j : String} (ne : k ≠ j) (fields : List (String × Json)) (v : Json) :
    get k (obj (put fields (j, v))) = get k (obj fields) := by
  unfold put
  split_ifs with there
  · clear there
    induction fields with
    | nil => rfl
    | cons f fs ih =>
      rw [List.map_cons, get_cons, get_cons, ih]
      by_cases key : f.1 = j
      · simp [key, ne.symm]
      · simp [key]
  · rw [get_obj, get_obj, List.find?_append]
    simp [ne.symm]

/-- Removing a field leaves the others. -/
theorem get_erase {k j : String} (ne : k ≠ j) (fields : List (String × Json)) :
    get k (obj (fields.filter (·.1 ≠ j))) = get k (obj fields) := by
  rw [get_obj, get_obj, List.find?_filter]
  congr 2
  funext f
  by_cases key : f.1 = k
  · simp [key, ne]
  · simp [key]

/-- To take away a field that is not there changes nothing. -/
theorem filter_of_get_eq_none {fields : List (String × Json)} {k : String} (h : get k (obj fields) = none) :
    fields.filter (·.1 ≠ k) = fields := by
  rw [get_obj, Option.map_eq_none_iff, List.find?_eq_none] at h
  rw [List.filter_eq_self]
  intro f mem
  simpa using h f mem

theorem ok_get {fields : List (String × Json)} (ok : Ok N (obj fields)) {k : String} {v : Json}
    (h : get k (obj fields) = some v) : Ok N v := by
  obtain ⟨f, found, rfl⟩ := Option.map_eq_some_iff.1 h
  cases ok with
  | obj keys each => exact each f (List.mem_of_find?_eq_some found)

theorem ok_filter {fields : List (String × Json)} (ok : Ok N (obj fields)) (p : String × Json → Bool) :
    Ok N (obj (fields.filter p)) := by
  cases ok with
  | obj keys each =>
    refine .obj (keys.sublist (List.filter_sublist.map Prod.fst)) ?_
    intro f mem
    exact each f (List.mem_of_mem_filter mem)

end

end Json

end Infra
