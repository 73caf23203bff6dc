import Mathlib.Data.Char

/-!
# JSON texts of dictionaries of strings

`json.dumps` of a dictionary whose keys and values are strings, in pure ASCII,
and `json.loads` of a text of that kind. A dictionary is the list of its items.
-/
namespace Json

/-! ## Writing -/

def quotationMark : Char := '\x22'

def backslash : Char := '\x5c'

def hexDigit (n : Nat) : Char := Nat.digitChar n

/-- The four digits of an escape. -/
def hex (n : Nat) : List Char :=
  [hexDigit (n / 4096), hexDigit (n / 256 % 16), hexDigit (n / 16 % 16), hexDigit (n % 16)]

/-- A character as UTF-16 code units: itself, or a pair of surrogates. -/
def units (c : Char) : List Nat :=
  if c.toNat < 0x10000 then [c.toNat]
  else [0xd800 + (c.toNat - 0x10000) / 0x400, 0xdc00 + (c.toNat - 0x10000) % 0x400]

/-- The letter of a short escape. -/
def shortEscape (c : Char) : Option Char :=
  if c = quotationMark ∨ c = backslash then some c
  else if c = '\n' then some 'n'
  else if c = '\r' then some 'r'
  else if c = '\t' then some 't'
  else if c = '\x0c' then some 'f'
  else if c = '\x08' then some 'b'
  else none

def escape (c : Char) : List Char :=
  match shortEscape c with
  | some letter => [backslash, letter]
  | none =>
      if 0x20 ≤ c.toNat ∧ c.toNat ≤ 0x7e then [c]
      else (units c).flatMap fun n => backslash :: 'u' :: hex n

def quote (text : String) : List Char :=
  quotationMark :: (text.toList.flatMap escape ++ [quotationMark])

def members : List (String × String) → List Char
  | [] => []
  | [(key, value)] => quote key ++ ':' :: ' ' :: quote value
  | (key, value) :: rest => quote key ++ ':' :: ' ' :: (quote value ++ ',' :: ' ' :: members rest)

def dumps (dictionary : List (String × String)) : String :=
  String.ofList ('\x7b' :: (members dictionary ++ ['\x7d']))

/-! ## Reading -/

def hexValue (c : Char) : Option Nat :=
  if '0' ≤ c ∧ c ≤ '9' then some (c.toNat - '0'.toNat)
  else if 'a' ≤ c ∧ c ≤ 'f' then some (c.toNat - 'a'.toNat + 10)
  else if 'A' ≤ c ∧ c ≤ 'F' then some (c.toNat - 'A'.toNat + 10)
  else none

def unhex (a b c d : Char) : Option Nat := do
  return (((← hexValue a) * 16 + (← hexValue b)) * 16 + (← hexValue c)) * 16 + (← hexValue d)

/-- What a short escape stands for. -/
def unescape (letter : Char) : Option Nat :=
  if letter = quotationMark ∨ letter = backslash ∨ letter = '/' then some letter.toNat
  else if letter = 'n' then some 0x0a
  else if letter = 'r' then some 0x0d
  else if letter = 't' then some 0x09
  else if letter = 'f' then some 0x0c
  else if letter = 'b' then some 0x08
  else none

/-- Code units up to the quotation mark, and what is behind it. -/
def scan : List Char → Option (List Nat × List Char)
  | '\x22' :: rest => some ([], rest)
  | '\x5c' :: 'u' :: a :: b :: c :: d :: rest => do
      let n ← unhex a b c d
      let (units, rest) ← scan rest
      return (n :: units, rest)
  | '\x5c' :: letter :: rest => do
      let n ← unescape letter
      let (units, rest) ← scan rest
      return (n :: units, rest)
  | c :: rest => do
      if c.toNat < 0x20 then none
      else
        let (units, rest) ← scan rest
        return (c.toNat :: units, rest)
  | [] => none

def isHigh (n : Nat) : Bool := 0xd800 ≤ n && n < 0xdc00
def isLow (n : Nat) : Bool := 0xdc00 ≤ n && n < 0xe000

/-- Characters from code units; a surrogate by itself is none. -/
def join : List Nat → Option (List Char)
  | [] => some []
  | [n] => if isHigh n || isLow n then none else some [Char.ofNat n]
  | n :: m :: rest =>
      if isHigh n && isLow m then
        (join rest).map (Char.ofNat (0x10000 + (n - 0xd800) * 0x400 + (m - 0xdc00)) :: ·)
      else if isHigh n || isLow n then none
      else (join (m :: rest)).map (Char.ofNat n :: ·)

def skipSpace (text : List Char) : List Char :=
  text.dropWhile fun c => c = ' ' || c = '\t' || c = '\n' || c = '\r'

/-- A quoted string, and what is behind it and the white space after it. -/
def readString : List Char → Option (String × List Char)
  | '\x22' :: rest => do
      let (units, rest) ← scan rest
      return (String.ofList (← join units), skipSpace rest)
  | _ => none

/-- Items up to the closing brace. Each takes a character at least of the text. -/
def readMembers : Nat → List Char → Option (List (String × String) × List Char)
  | 0, _ => none
  | fuel + 1, text => do
      match ← readString text with
      | (key, ':' :: rest) =>
          match ← readString (skipSpace rest) with
          | (value, '\x7d' :: rest) => some ([(key, value)], rest)
          | (value, ',' :: rest) =>
              (readMembers fuel (skipSpace rest)).map fun (items, rest) => ((key, value) :: items, rest)
          | _ => none
      | _ => none

/-- `none` stands for a `JSONDecodeError`. -/
def loads (text : String) : Option (List (String × String)) :=
  match skipSpace text.toList with
  | '\x7b' :: rest =>
      match skipSpace rest with
      | '\x7d' :: rest => if skipSpace rest = [] then some [] else none
      | rest =>
          match readMembers text.length rest with
          | some (items, rest) => if skipSpace rest = [] then some items else none
          | none => none
  | _ => none

/-! ## Reading what was written -/

theorem hexValue_hexDigit {n : Nat} (lt : n < 16) : hexValue (hexDigit n) = some n := by
  revert n
  decide

theorem unhex_hex {n : Nat} (lt : n < 65536) : unhex (hexDigit (n / 4096)) (hexDigit (n / 256 % 16))
    (hexDigit (n / 16 % 16)) (hexDigit (n % 16)) = some n := by
  have first : n / 4096 < 16 := by omega
  rw [unhex, hexValue_hexDigit first, hexValue_hexDigit (Nat.mod_lt _ (by decide)),
    hexValue_hexDigit (Nat.mod_lt _ (by decide)), hexValue_hexDigit (Nat.mod_lt _ (by decide))]
  simp only [Option.bind_eq_bind, Option.bind_some, Option.pure_def, Option.some.injEq]
  omega

theorem scan_hex {n : Nat} (lt : n < 65536) (rest : List Char) :
    scan (backslash :: 'u' :: hex n ++ rest) = (scan rest).map fun read => (n :: read.1, read.2) := by
  simp only [hex, backslash, List.cons_append, List.nil_append, scan, unhex_hex lt]
  cases scan rest <;> rfl

theorem char_valid (c : Char) : c.toNat < 0xd800 ∨ 0xdfff < c.toNat ∧ c.toNat < 0x110000 := c.valid

theorem units_lt (c : Char) : ∀ n ∈ units c, n < 65536 := by
  have valid := char_valid c
  unfold units
  split
  · simpa using ‹_›
  · intro n member
    simp only [List.mem_cons, List.not_mem_nil, or_false] at member
    omega

theorem scan_units {ns : List Nat} (lt : ∀ n ∈ ns, n < 65536) (rest : List Char) :
    scan (ns.flatMap (fun n => backslash :: 'u' :: hex n) ++ rest) =
      (scan rest).map fun read => (ns ++ read.1, read.2) := by
  induction ns with
  | nil => simp
  | cons n ns ih =>
      rw [List.forall_mem_cons] at lt
      rw [List.flatMap_cons, List.append_assoc, scan_hex lt.1, ih lt.2]
      cases scan rest <;> rfl

theorem shortEscape_some {c letter : Char} (short : shortEscape c = some letter) :
    unescape letter = some c.toNat ∧ letter ≠ 'u' ∧ units c = [c.toNat] := by
  unfold shortEscape at short
  split_ifs at short with first
  · cases short
    rcases first with rfl | rfl <;> decide
  all_goals
    cases short
    subst c
    decide

theorem shortEscape_none {c : Char} (long : shortEscape c = none) :
    c ≠ quotationMark ∧ c ≠ backslash := by
  unfold shortEscape at long
  split_ifs at long with first
  exact not_or.mp first

/-- One character, with any text behind it. -/
theorem scan_escape (c : Char) (rest : List Char) :
    scan (escape c ++ rest) = (scan rest).map fun read => (units c ++ read.1, read.2) := by
  unfold escape
  cases short : shortEscape c with
  | some letter =>
      obtain ⟨stands, other, single⟩ := shortEscape_some short
      simp only [backslash, List.cons_append, List.nil_append]
      rw [scan, stands, single]
      · cases scan rest <;> rfl
      · exact fun _ _ _ _ _ same => absurd same other
  | none =>
      obtain ⟨quotation, slash⟩ := shortEscape_none short
      simp only
      split
      · rename_i printable
        have single : units c = [c.toNat] := if_pos (by omega)
        rw [List.singleton_append, scan, if_neg (by omega), single]
        · cases scan rest <;> rfl
        · exact quotation
        · exact fun _ _ _ _ _ same => absurd same slash
        · exact fun _ _ same => absurd same slash
      · exact scan_units (units_lt c) rest

theorem scan_quote (chars rest : List Char) :
    scan (chars.flatMap escape ++ quotationMark :: rest) = some (chars.flatMap units, rest) := by
  induction chars with
  | nil => rfl
  | cons c chars ih =>
      rw [List.flatMap_cons, List.append_assoc, scan_escape, ih]
      rfl

theorem join_units (c : Char) (ns : List Nat) :
    join (units c ++ ns) = (join ns).map (c :: ·) := by
  have valid := char_valid c
  unfold units
  split
  · have high : isHigh c.toNat = false := by simp [isHigh]; omega
    have low : isLow c.toNat = false := by simp [isLow]; omega
    cases ns with
    | nil => simp [join, high, low]
    | cons n ns => simp [join, high, low]
  · have high : isHigh (0xd800 + (c.toNat - 0x10000) / 0x400) = true := by simp [isHigh]; omega
    have low : isLow (0xdc00 + (c.toNat - 0x10000) % 0x400) = true := by simp [isLow]; omega
    have whole : 0x10000 + (0xd800 + (c.toNat - 0x10000) / 0x400 - 0xd800) * 0x400 +
        (0xdc00 + (c.toNat - 0x10000) % 0x400 - 0xdc00) = c.toNat := by omega
    rw [List.cons_append, List.cons_append, List.nil_append, join, high, low, whole]
    simp

theorem join_flatMap_units (chars : List Char) : join (chars.flatMap units) = some chars := by
  induction chars with
  | nil => rfl
  | cons c chars ih =>
      rw [List.flatMap_cons, join_units, ih]
      rfl

theorem readString_quote (text : String) (rest : List Char) :
    readString (quote text ++ rest) = some (text, skipSpace rest) := by
  have read := scan_quote text.toList rest
  simp only [quote, quotationMark, List.cons_append, List.append_assoc, List.nil_append] at read ⊢
  simp [readString, read, join_flatMap_units]

theorem skipSpace_quote (text : String) (rest : List Char) :
    skipSpace (quote text ++ rest) = quote text ++ rest := rfl

/-- The items begin with a quoted key. -/
theorem members_first (item : String × String) (more : List (String × String)) (rest : List Char) :
    ∃ rest', members (item :: more) ++ rest = quote item.1 ++ rest' := by
  cases more with
  | nil => exact ⟨_, List.append_assoc _ _ _⟩
  | cons => exact ⟨_, List.append_assoc _ _ _⟩

theorem skipSpace_members (item : String × String) (more : List (String × String))
    (rest : List Char) :
    skipSpace (members (item :: more) ++ rest) = members (item :: more) ++ rest := by
  obtain ⟨rest', first⟩ := members_first item more rest
  rw [first, skipSpace_quote]

/-- What stands between a key and its value. -/
theorem skipSpace_colon (value : String) (rest : List Char) :
    skipSpace (':' :: ' ' :: (quote value ++ rest)) = ':' :: ' ' :: (quote value ++ rest) ∧
      skipSpace (' ' :: (quote value ++ rest)) = quote value ++ rest := ⟨rfl, rfl⟩

theorem readMembers_last (fuel : Nat) (key value : String) (rest : List Char) :
    readMembers (fuel + 1) (members [(key, value)] ++ '\x7d' :: rest) =
      some ([(key, value)], rest) := by
  obtain ⟨colon, space⟩ := skipSpace_colon value ('\x7d' :: rest)
  have brace : skipSpace ('\x7d' :: rest) = '\x7d' :: rest := rfl
  simp only [members, List.append_assoc, List.cons_append, readMembers, readString_quote, colon,
    Option.bind_eq_bind, Option.bind_some, space, brace]

theorem readMembers_comma (fuel : Nat) (key value : String) (item : String × String)
    (more : List (String × String)) (rest : List Char) :
    readMembers (fuel + 1) (members ((key, value) :: item :: more) ++ '\x7d' :: rest) =
      (readMembers fuel (members (item :: more) ++ '\x7d' :: rest)).map
        fun read => ((key, value) :: read.1, read.2) := by
  obtain ⟨colon, space⟩ := skipSpace_colon value
    (',' :: ' ' :: (members (item :: more) ++ '\x7d' :: rest))
  have comma (text : List Char) : skipSpace (',' :: text) = ',' :: text := rfl
  have blank (text : List Char) : skipSpace (' ' :: text) = skipSpace text := rfl
  simp only [members, List.append_assoc, List.cons_append, readMembers, readString_quote, colon,
    Option.bind_eq_bind, Option.bind_some, space, comma, blank, skipSpace_members]

theorem readMembers_members {dictionary : List (String × String)} (written : dictionary ≠ [])
    {fuel : Nat} (enough : dictionary.length ≤ fuel) (rest : List Char) :
    readMembers fuel (members dictionary ++ '\x7d' :: rest) = some (dictionary, rest) := by
  induction dictionary generalizing fuel with
  | nil => exact absurd rfl written
  | cons item more ih =>
      cases fuel with
      | zero => cases enough
      | succ fuel =>
          cases more with
          | nil => exact readMembers_last fuel item.1 item.2 rest
          | cons item' more =>
              rw [readMembers_comma, ih (List.cons_ne_nil _ _) (Nat.le_of_succ_le_succ enough)]
              rfl

theorem length_le_members (dictionary : List (String × String)) :
    dictionary.length ≤ (members dictionary).length := by
  induction dictionary with
  | nil => exact Nat.zero_le _
  | cons item more ih =>
      cases more with
      | nil => simp [members, quote]
      | cons item' more =>
          simp only [members, quote, List.length_cons, List.length_append] at ih ⊢
          omega

/-- A dictionary can be read back from its text. -/
theorem loads_dumps (dictionary : List (String × String)) :
    loads (dumps dictionary) = some dictionary := by
  have chars : (dumps dictionary).toList = '\x7b' :: (members dictionary ++ ['\x7d']) :=
    String.toList_ofList
  have enough : dictionary.length ≤ (dumps dictionary).length := by
    have shorter := length_le_members dictionary
    rw [← String.length_toList, chars, List.length_cons, List.length_append]
    omega
  have brace (rest : List Char) : skipSpace ('\x7b' :: rest) = '\x7b' :: rest := rfl
  cases dictionary with
  | nil => rfl
  | cons item more =>
      obtain ⟨rest', first⟩ := members_first item more ['\x7d']
      rw [loads, chars, brace]
      simp only [skipSpace_members]
      split
      · rename_i closing
        cases first.symm.trans closing
      · rw [readMembers_members (List.cons_ne_nil item more) enough]
        rfl

end Json
