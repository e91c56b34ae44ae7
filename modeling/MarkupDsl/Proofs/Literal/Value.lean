import MarkupDsl.Proofs.Literal.Reading
import MarkupDsl.Text.Digits

/-!
# The value of a string literal in the target language

In the target language a string is a sequence of bytes.  A quoted string stands for the bytes of its
content.  Between double quotes a backslash begins an escape sequence, and one that begins none is
an error.  The plain form of a literal adds no backslashes, so an escape sequence in a text without
double quotes is taken for one: such a text is the value of its literal exactly when it has no
backslash.
-/

namespace MarkupDsl.Literal

open Text

/-! ## Bytes and escape sequences -/

def textBytes (cs : List Char) : List UInt8 := cs.flatMap String.utf8EncodeChar

def letterByte? : Char → Option UInt8
  | '\\' => some 0x5C
  | '"' => some 0x22
  | '\'' => some 0x27
  | 'n' => some 0x0A
  | 't' => some 0x09
  | 'b' => some 0x08
  | 'r' => some 0x0D
  | ' ' => some 0x20
  | _ => none

/-- Read the number of a byte, written with `count` digits. -/
def byteCode? (base count : Nat) (cs : List Char) : Option (List UInt8 × List Char) :=
  let digits := cs.take count
  let code := digitsValue base digits
  if digits.length = count ∧ (digits.all fun c => isHexDigit c && digitValue c < base) ∧ code < 256
  then some ([UInt8.ofNat code], cs.drop count)
  else none

def characterCode? (cs : List Char) : Option (List UInt8 × List Char) :=
  let digits := cs.takeWhile isHexDigit
  let code := digitsValue 16 digits
  match cs.dropWhile isHexDigit with
  | '}' :: rest =>
    if digits ≠ [] ∧ digits.length ≤ 6 ∧ code.isValidChar then
      some (String.utf8EncodeChar (Char.ofNat code), rest)
    else none
  | _ => none

/-- Whether a character belongs to the indentation that a continued line may begin with. -/
def isIndentation (c : Char) : Bool := c == ' ' || c == '\t'

/-- Read what follows a backslash: the bytes that the escape sequence stands for, and the rest. -/
def escape? : List Char → Option (List UInt8 × List Char)
  | 'x' :: cs => byteCode? 16 2 cs
  | 'o' :: cs => byteCode? 8 3 cs
  | 'u' :: '{' :: cs => characterCode? cs
  | '\n' :: cs => some ([], cs.dropWhile isIndentation)
  | '\r' :: '\n' :: cs => some ([], cs.dropWhile isIndentation)
  | c :: cs =>
    match letterByte? c with
    | some byte => some ([byte], cs)
    | none => byteCode? 10 3 (c :: cs)
  | [] => none

/-! ## Sizes -/

@[simp] theorem textBytes_append (cs ds : List Char) :
    textBytes (cs ++ ds) = textBytes cs ++ textBytes ds :=
  List.flatMap_append

theorem textBytes_cons (c : Char) (cs : List Char) :
    textBytes (c :: cs) = String.utf8EncodeChar c ++ textBytes cs :=
  List.flatMap_cons

theorem length_textBytes_cons (c : Char) (cs : List Char) :
    (textBytes (c :: cs)).length = c.utf8Size + (textBytes cs).length := by
  rw [textBytes_cons, List.length_append, String.length_utf8EncodeChar]

theorem length_le_length_textBytes (cs : List Char) : cs.length ≤ (textBytes cs).length := by
  induction cs with
  | nil => exact Nat.le_refl _
  | cons c cs ih =>
      have positive := c.utf8Size_pos
      rw [length_textBytes_cons, List.length_cons]
      omega

/-- The end of a text has no more bytes than what is left out before it leaves room for. -/
theorem length_add_length_textBytes_le {front back cs : List Char} (parts : front ++ back = cs) :
    front.length + (textBytes back).length ≤ (textBytes cs).length := by
  rw [← parts, textBytes_append, List.length_append]
  exact Nat.add_le_add_right (length_le_length_textBytes front) _

theorem length_byteCode?_le {base count : Nat} {cs rest : List Char} {bytes : List UInt8}
    (positive : 0 < count) (found : byteCode? base count cs = some (bytes, rest)) :
    bytes.length + (textBytes rest).length ≤ (textBytes cs).length := by
  unfold byteCode? at found
  dsimp only at found
  split at found
  · next shape =>
    cases found
    have size := length_add_length_textBytes_le (List.take_append_drop count cs)
    rw [shape.1] at size
    exact Nat.le_trans (Nat.add_le_add_right positive _) size
  · cases found

theorem length_characterCode?_le {cs rest : List Char} {bytes : List UInt8}
    (found : characterCode? cs = some (bytes, rest)) :
    bytes.length + (textBytes rest).length ≤ (textBytes cs).length + 2 := by
  unfold characterCode? at found
  dsimp only at found
  split at found
  · next after closed =>
    split at found
    · next shape =>
      cases found
      have size := length_add_length_textBytes_le
        (List.takeWhile_append_dropWhile (p := isHexDigit) (l := cs))
      have digits := List.length_pos_iff.2 shape.1
      have most := (Char.ofNat (digitsValue 16 (cs.takeWhile isHexDigit))).utf8Size_le_four
      rw [closed, length_textBytes_cons] at size
      have brace : '}'.utf8Size = 1 := rfl
      rw [String.length_utf8EncodeChar]
      omega
    · cases found
  · cases found

/-- An escape sequence stands for no more bytes than it is written with after the backslash. -/
theorem length_escape?_le {cs rest : List Char} {bytes : List UInt8}
    (found : escape? cs = some (bytes, rest)) :
    bytes.length + (textBytes rest).length ≤ (textBytes cs).length := by
  have indented (ds : List Char) :
      (textBytes (ds.dropWhile isIndentation)).length ≤ (textBytes ds).length := by
    have size := length_add_length_textBytes_le
      (List.takeWhile_append_dropWhile (p := isIndentation) (l := ds))
    omega
  unfold escape? at found
  split at found
  · next ds =>
    have size := length_byteCode?_le (by decide) found
    rw [length_textBytes_cons]
    omega
  · next ds =>
    have size := length_byteCode?_le (by decide) found
    rw [length_textBytes_cons]
    omega
  · next ds =>
    have size := length_characterCode?_le found
    have letter : 'u'.utf8Size = 1 := rfl
    have brace : '{'.utf8Size = 1 := rfl
    rw [length_textBytes_cons, length_textBytes_cons]
    omega
  · next ds =>
    cases found
    have size := indented ds
    rw [length_textBytes_cons, List.length_nil]
    omega
  · next ds =>
    cases found
    have size := indented ds
    rw [length_textBytes_cons, length_textBytes_cons, List.length_nil]
    omega
  · next c ds _ _ _ _ _ =>
    split at found
    · cases found
      have positive := c.utf8Size_pos
      rw [length_textBytes_cons, List.length_singleton]
      omega
    · exact length_byteCode?_le (by decide) found
  · cases found

/-! ## Values -/

/-- Read what follows an opening double quote: the bytes up to the closing one, and the rest. -/
def interpreted? : List Char → Option (List UInt8 × List Char)
  | [] => none
  | '"' :: rest => some ([], rest)
  | '\\' :: rest =>
    match _found : escape? rest with
    | none => none
    | some (bytes, after) => (interpreted? after).map fun read => (bytes ++ read.1, read.2)
  | c :: rest =>
    (interpreted? rest).map fun read => (String.utf8EncodeChar c ++ read.1, read.2)
termination_by cs => (textBytes cs).length
decreasing_by
  · have size := length_escape?_le _found
    have backslash : '\\'.utf8Size = 1 := rfl
    rw [length_textBytes_cons]
    omega
  · have positive := c.utf8Size_pos
    rw [length_textBytes_cons]
    omega

/-- Read the string literal at the beginning of a text: the bytes of its value, and the rest. -/
def value? : List Char → Option (List UInt8 × List Char)
  | '"' :: cs => interpreted? cs
  | '{' :: cs => (readQuoted? cs).map fun read => (textBytes read.1, read.2)
  | _ => none

/-! ## Reading the plain form -/

theorem interpreted?_cons {c : Char} (quote : c ≠ '"') (backslash : c ≠ '\\') (rest : List Char) :
    interpreted? (c :: rest) =
      (interpreted? rest).map fun read => (String.utf8EncodeChar c ++ read.1, read.2) := by
  rw [interpreted?]
  · exact quote
  · exact backslash

theorem interpreted?_escape {cs after : List Char} {bytes : List UInt8}
    (found : escape? cs = some (bytes, after)) :
    interpreted? ('\\' :: cs) =
      (interpreted? after).map fun read => (bytes ++ read.1, read.2) := by
  rw [interpreted?]
  split
  · next none => cases none.symm.trans found
  · next read =>
    cases read.symm.trans found
    rfl

/-- A text without double quotes and backslashes is read as its own bytes. -/
theorem interpreted?_append {raw : List Char} (quote : '"' ∉ raw) (backslash : '\\' ∉ raw)
    (rest : List Char) : interpreted? (raw ++ '"' :: rest) = some (textBytes raw, rest) := by
  induction raw with
  | nil =>
      rw [List.nil_append, interpreted?]
      rfl
  | cons c raw ih =>
      rw [List.mem_cons, not_or] at quote backslash
      rw [List.cons_append, interpreted?_cons (Ne.symm quote.1) (Ne.symm backslash.1),
        ih quote.2 backslash.2, textBytes_cons]
      rfl

theorem exists_eq_some_of_map_append {front bytes : List UInt8} {rest : List Char}
    {read : Option (List UInt8 × List Char)}
    (found : (read.map fun parts => (front ++ parts.1, parts.2)) = some (bytes, rest)) :
    ∃ value, read = some (value, rest) ∧ bytes = front ++ value := by
  obtain ⟨⟨value, left⟩, inner, same⟩ := Option.map_eq_some_iff.1 found
  cases same
  exact ⟨value, inner, rfl⟩

/-- A value has fewer bytes than what is read for it: the closing double quote stands for none. -/
theorem length_interpreted?_lt {cs rest : List Char} {bytes : List UInt8}
    (found : interpreted? cs = some (bytes, rest)) :
    bytes.length + (textBytes rest).length < (textBytes cs).length := by
  fun_induction interpreted? cs generalizing bytes with
  | case1 => cases found
  | case2 after =>
      cases found
      have quote : '"'.utf8Size = 1 := rfl
      rw [length_textBytes_cons, List.length_nil]
      omega
  | case3 => cases found
  | case4 ds escaped after read ih =>
      obtain ⟨value, inner, rfl⟩ := exists_eq_some_of_map_append found
      have size := length_escape?_le read
      have smaller := ih inner
      rw [length_textBytes_cons, List.length_append]
      omega
  | case5 c ds _ _ ih =>
      obtain ⟨value, inner, rfl⟩ := exists_eq_some_of_map_append found
      have smaller := ih inner
      rw [length_textBytes_cons, List.length_append, String.length_utf8EncodeChar]
      omega

/--
If a text without double quotes gives a value of its own size, then no escape sequence was read:
each would have made the value shorter.
-/
theorem backslash_not_mem_of_length_eq {raw rest after : List Char} {bytes : List UInt8}
    (quote : '"' ∉ raw) (found : interpreted? (raw ++ '"' :: rest) = some (bytes, after))
    (size : bytes.length + (textBytes after).length =
      (textBytes raw).length + (textBytes rest).length) : '\\' ∉ raw := by
  induction raw generalizing bytes with
  | nil => exact List.not_mem_nil
  | cons c raw ih =>
      rw [List.mem_cons, not_or] at quote
      rw [List.cons_append] at found
      by_cases backslash : c = '\\'
      · exfalso
        subst backslash
        rw [interpreted?] at found
        split at found
        · cases found
        · next escaped left read =>
          obtain ⟨value, inner, rfl⟩ := exists_eq_some_of_map_append found
          have mark : '"'.utf8Size = 1 := rfl
          have positive : '\\'.utf8Size = 1 := rfl
          have escape := length_escape?_le read
          have smaller := length_interpreted?_lt inner
          rw [textBytes_append, List.length_append, length_textBytes_cons] at escape
          rw [length_textBytes_cons, List.length_append] at size
          omega
      · rw [interpreted?_cons (Ne.symm quote.1) backslash] at found
        obtain ⟨value, inner, rfl⟩ := exists_eq_some_of_map_append found
        rw [length_textBytes_cons, List.length_append, String.length_utf8EncodeChar] at size
        have free := ih quote.2 inner (by omega)
        rw [List.mem_cons, not_or]
        exact ⟨Ne.symm backslash, free⟩

/-! ## The value of a written literal -/

theorem value?_delimited (raw rest : List Char) :
    value? (delimited raw ++ rest) = some (textBytes raw, rest) := by
  have quoted := read?_delimited raw rest
  change readQuoted? (_ ++ rest) = some (raw, rest) at quoted
  change (readQuoted? (_ ++ rest)).map _ = some (textBytes raw, rest)
  rw [quoted]
  rfl

/-- The text is the value of its literal exactly when it has a double quote or no backslash. -/
theorem value?_stringChars_eq_iff (raw rest : List Char) :
    value? (stringChars raw ++ rest) = some (textBytes raw, rest) ↔ '"' ∈ raw ∨ '\\' ∉ raw := by
  unfold stringChars
  split
  · next quote =>
    exact iff_of_true (value?_delimited raw rest) (Or.inl quote)
  · next quote =>
    have opened : value? ('"' :: (raw ++ ['"']) ++ rest) = interpreted? (raw ++ '"' :: rest) := by
      simp [value?]
    rw [opened]
    constructor
    · intro found
      exact Or.inr (backslash_not_mem_of_length_eq quote found rfl)
    · rintro (present | backslash)
      · exact absurd present quote
      · exact interpreted?_append quote backslash rest

/--
In the target language an encoded text, with anything after it, is one complete string literal whose
value is exactly the text, provided that the text has a double quote or no backslash, and only then.
-/
theorem value?_encodeString_append_iff (raw rest : String) :
    value? (encodeString raw ++ rest).toList = some (textBytes raw.toList, rest.toList) ↔
      '"' ∈ raw.toList ∨ '\\' ∉ raw.toList := by
  rw [String.toList_append, toList_encodeString]
  exact value?_stringChars_eq_iff raw.toList rest.toList

/-- A backslash and the letter `n` are written so that they stand for a line feed. -/
theorem value?_encodeString_backslash :
    value? (encodeString "\\n").toList = some ([0x0A], []) ∧
      ¬ ∀ raw : String, value? (encodeString raw).toList = some (textBytes raw.toList, []) := by
  have lineFeed : value? (encodeString "\\n").toList = some ([0x0A], []) := by
    rw [toList_encodeString]
    change interpreted? ['\\', 'n', '"'] = _
    rw [interpreted?_escape (by rfl : escape? ['n', '"'] = some ([0x0A], ['"'])), interpreted?]
    rfl
  refine ⟨lineFeed, ?_⟩
  intro faithful
  have same := (faithful "\\n").symm.trans lineFeed
  revert same
  decide

end MarkupDsl.Literal
